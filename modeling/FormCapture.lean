import FormCapture.Host.Run
import FormCapture.Main
import FormCapture.Server.Pool
import FormCapture.Proofs.Bytes.Cut
import FormCapture.Proofs.Bytes.Search
import FormCapture.Proofs.Multipart.Reading
import FormCapture.Proofs.Multipart.Form
import FormCapture.Proofs.Multipart.Checked
import FormCapture.Proofs.Multipart.Grammar
import FormCapture.Proofs.Bytes.Base64
import FormCapture.Proofs.Multipart.Reread
import FormCapture.Proofs.Stream.Agreement
import FormCapture.Proofs.Stream.Regrouping
import FormCapture.Proofs.Header.Extent
import FormCapture.Proofs.Request.Declared
import FormCapture.Proofs.Request.Reading
import FormCapture.Proofs.Request.Faults
import FormCapture.Proofs.Request.Settlement
import FormCapture.Proofs.Stream.Conservation
import FormCapture.Proofs.Request.Succession
import FormCapture.Proofs.Text.Parts
import FormCapture.Proofs.Request.Lines
import FormCapture.Proofs.Number.Numeral
import FormCapture.Proofs.Request.Length
import FormCapture.Proofs.Server.Counting
import FormCapture.Proofs.Stream.Refills
import FormCapture.Proofs.Host.Steps
import FormCapture.Proofs.Host.Laws
import FormCapture.Proofs.Host.Ledger
import FormCapture.Proofs.Multipart.Upload
import FormCapture.Proofs.Request.Written
import FormCapture.Proofs.Server.Upload
import FormCapture.Proofs.Stream.Queue
import FormCapture.Proofs.Host.Numbers
import FormCapture.Proofs.Host.Calls
import FormCapture.Proofs.Host.Failures
import FormCapture.Proofs.Host.Roll
import FormCapture.Proofs.Host.Handles
import FormCapture.Proofs.Host.Actions
import FormCapture.Proofs.Host.Renumbering
import FormCapture.Proofs.Host.Subjects
import FormCapture.Proofs.Host.Commuting
import FormCapture.Proofs.Host.Isolation
import FormCapture.Proofs.Host.Capture
import FormCapture.Proofs.Server.Answering
import FormCapture.Proofs.Server.Draining
import FormCapture.Proofs.Request.Replay
import FormCapture.Proofs.Multipart.FileHeaders
import FormCapture.Proofs.Multipart.Closing
import FormCapture.Proofs.Multipart.Pieces
import FormCapture.Proofs.Multipart.Searches
import FormCapture.Proofs.Multipart.Seam
import FormCapture.Proofs.Stream.Waiting
import FormCapture.Proofs.Header.FirstBlock
import FormCapture.Proofs.Header.FieldMap
import FormCapture.Proofs.Header.RepeatedTypes
import FormCapture.Proofs.Multipart.ContentType
import FormCapture.Proofs.Settings.LastAssignment
import FormCapture.Proofs.Settings.Written
import FormCapture.Proofs.Bytes.Bounds
import FormCapture.Proofs.Settings.Comments
import FormCapture.Proofs.Number.Rounding
import FormCapture.Proofs.Text.Capitals
import FormCapture.Proofs.Settings.WholeSizes
import FormCapture.Proofs.Settings.Merging
