import FormCapture.Header.Block
import FormCapture.Header.Head
import FormCapture.Multipart.Document

/-! # Requests

A request is a head and the body that it declares. `Framing.ofHead` decides from the head alone how
the body is framed: none, a counted text, or a counted multipart body. `Stream.readRequest` reads the
header block, decides, and reads as many bytes as were declared.

Of several faults the first in this order is reported: the header block, the request line, chunks,
the declared length, its limit, the boundary, bytes that are missing, the parts. -/

namespace FormCapture

/-- The greatest sizes of a request's two halves, in bytes. -/
structure Limits where
  /-- The header block, without carriage returns. -/
  maxHeaderSize : Nat := 8 * 1024
  /-- The declared length of the body. -/
  maxBodySize : Nat := 64 * 1024 * 1024
  deriving DecidableEq, Repr

inductive Framing
  | none
  | text (length : Nat)
  | multipart (length : Nat) (boundary : Text)
  deriving DecidableEq, Repr

inductive Body
  | none
  | text (content : Text)
  | multipart (boundary content : Text)
  deriving DecidableEq, Repr

def Body.content : Body → Text
  | none => []
  | text content => content
  | multipart _ content => content

def Body.isMultipart : Body → Bool
  | multipart _ _ => true
  | none | text _ => false

structure Request where
  head : Head
  body : Body
  deriving DecidableEq, Repr

/-- The text that a request is answered with: the header block as read, then the body. -/
def Request.render (request : Request) : Text := request.head.raw ++ request.body.content

def Framing.ofHead (head : Head) (limits : Limits) : Except Error Framing :=
  if head.isChunked then .error .badRequest
  else
    match head.contentLength with
    | .error e => .error e
    | .ok .none => .ok .none
    | .ok (some length) =>
      if limits.maxBodySize < length then .error (.payloadTooLarge limits.maxBodySize)
      else
        match head.boundary with
        | .error e => .error e
        | .ok .none => .ok (.text length)
        | .ok (some boundary) => .ok (.multipart length boundary)

namespace Stream

def readExactly (s : Stream) (count : Nat) : Except Error Bytes × Stream :=
  let (got, t) := s.readUpTo count
  (if got.length < count then .error (.shortRead count got.length) else .ok got, t)

def readPost (s : Stream) (size : Nat) : Except Error Text × Stream :=
  let (got, t) := s.readExactly size
  (got.map Utf8.decodeLossy, t)

/-- A multipart body of `size` bytes, with its file payloads as base64 text. A boundary that cannot
be used is refused before anything is read. -/
def readMime (s : Stream) (size : Nat) (boundary : Text) : Except Error Text × Stream :=
  match Multipart.usable boundary with
  | .error e => (.error e, s)
  | .ok () =>
    let (got, t) := s.readExactly size
    (got.bind fun body => Multipart.transcode .linear body boundary, t)

def readBody (s : Stream) : Framing → Except Error Body × Stream
  | .none => (.ok .none, s)
  | .text length =>
    let (content, t) := s.readPost length
    (content.map .text, t)
  | .multipart length boundary =>
    let (content, t) := s.readMime length boundary
    (content.map (.multipart boundary), t)

def readRequest (s : Stream) (limits : Limits) : Except Error Request × Stream :=
  match s.readHeadersUpTo limits.maxHeaderSize with
  | (.error e, t) => (.error e, t)
  | (.ok raw, t) =>
    match (Head.parse raw).bind fun head => (Framing.ofHead head limits).map (head, ·) with
    | .error e => (.error e, t)
    | .ok (head, framing) =>
      let (body, u) := t.readBody framing
      (body.map (⟨head, ·⟩), u)

end Stream

end FormCapture
