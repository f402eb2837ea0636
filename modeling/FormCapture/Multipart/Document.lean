import FormCapture.Bytes.Base64
import FormCapture.Bytes.Cursor
import FormCapture.Multipart.Boundary

/-! # Multipart documents

A multipart body is a preamble and parts, each after a delimiter, and a closing delimiter with two
more dashes. A part is a file part if its first header line names a file; its payload is the bytes
between the blank line after its headers and the line end before the next delimiter. Every other part
is taken as it stands.

`scan` cuts a body into a `Document`; it finds what it looks for with a `Finder` and notes each
search. `Document.render` writes the document with the payloads as base64 text, `transcode` does both.
A scan fails with a `Fault` where the body ends too early. -/

namespace FormCapture.Multipart

open FormCapture.Bytes (Cursor Finder)

/-! ### Documents -/

/-- What a file part has between its first header line and the next delimiter. -/
structure FileSection where
  /-- The rest of its headers, each after the line end before it. -/
  headers : Bytes
  payload : Bytes
  deriving DecidableEq, Repr

/-- What stands between two delimiters. -/
structure Part where
  line : Bytes
  file : Option FileSection
  /-- The bytes from there to the next delimiter, copied as they are; empty after a file. -/
  text : Bytes
  deriving DecidableEq, Repr

structure Document where
  preamble : Bytes
  parts : List Part
  /-- The offset just past the closing dashes, where the scan stops. -/
  stop : Nat
  deriving DecidableEq, Repr

/-! ### Scans -/

inductive Fault
  /-- No delimiter from this offset on. -/
  | noDelimiter (offset : Nat)
  /-- Fewer than two bytes after a delimiter. -/
  | cutDelimiterLine
  /-- No line end after the first header line, which starts here. -/
  | openHeaderLine (offset : Nat)
  /-- No blank line after the headers of a file part. -/
  | openFileHeaders (offset : Nat)
  /-- No delimiter after the payload of a file part, which starts here. -/
  | openPayload (offset : Nat)
  deriving DecidableEq, Repr

def Fault.message : Fault → String
  | noDelimiter offset => "no boundary after byte " ++ toString offset
  | cutDelimiterLine => "body ends inside a boundary line"
  | openHeaderLine offset => "part header at byte " ++ toString offset ++ " never ends"
  | openFileHeaders offset => "file part headers at byte " ++ toString offset ++ " never end"
  | openPayload offset =>
    "file payload at byte " ++ toString offset ++ " has no closing boundary"

structure Search where
  needle : Bytes
  start : Nat
  /-- The offset before which it has to end. -/
  stop : Nat
  result : Option Nat
  deriving DecidableEq, Repr

/-- A stage of a scan: the searches it made, in order, and what came of it. -/
structure Scan (α : Type) where
  searches : List Search
  result : Except Fault α

namespace Scan

def done (a : α) : Scan α := ⟨[], .ok a⟩

def fail (fault : Fault) : Scan α := ⟨[], .error fault⟩

def andThen (x : Scan α) (f : α → Scan β) : Scan β :=
  match x.result with
  | .error fault => ⟨x.searches, .error fault⟩
  | .ok a =>
    let y := f a
    ⟨x.searches ++ y.searches, y.result⟩

def map (f : α → β) (x : Scan α) : Scan β := ⟨x.searches, x.result.map f⟩

instance : Monad Scan where
  pure := done
  bind := andThen
  map := map

end Scan

variable {body : Bytes}

/-- Looks for `needle` from a place to the end of the body. An answer that is not in that stretch
counts as none. -/
def seek (finder : Finder) (c : Cursor body) (needle : Bytes) (fault : Fault) :
    Scan { k : Nat // c.offset ≤ k ∧ k + needle.length ≤ body.length } :=
  let answer := finder.find c needle c.size
  let search : Search := ⟨needle, c.offset, c.size, answer⟩
  match answer with
  | none => ⟨[search], .error fault⟩
  | some k =>
    if h : c.offset ≤ k ∧ k + needle.length ≤ c.size then
      ⟨[search], .ok ⟨k, h.1, c.size_eq ▸ h.2⟩⟩
    else ⟨[search], .error fault⟩

def fileMark : Bytes := Bytes.ofAscii "filename="

def headerEnd : Bytes := Bytes.crlf ++ Bytes.crlf

/-- The file of a part, from the end of its first header line on, and the place of the delimiter
after it. The two bytes before that delimiter are the line end that belongs to it. -/
def scanFile (finder : Finder) (delimiter : Bytes) (c : Cursor body) :
    Scan (FileSection × { d : Cursor body // c.offset ≤ d.offset }) := do
  let ⟨h, hh⟩ ← seek finder c headerEnd (.openFileHeaders c.offset)
  let payload := (c.moveTo h hh.1).advance headerEnd.length
  let ⟨next, hn⟩ ← seek finder payload delimiter (.openPayload payload.offset)
  pure (⟨c.upTo h, payload.upTo (next - 2)⟩,
    ⟨payload.moveTo next hn.1, Nat.le_trans (Nat.le_trans hh.1 (Nat.le_add_right _ _)) hn.1⟩)

/-- The file of a part, if its first header line has the mark of one, and the place from which on the
next delimiter is looked for. The place given is the end of that line. -/
def scanFile? (finder : Finder) (delimiter line : Bytes) (c : Cursor body) :
    Scan (Option FileSection × { d : Cursor body // c.offset ≤ d.offset }) :=
  if Bytes.occursIgnoringCase fileMark line then do
    let (file, d) ← scanFile finder delimiter c
    pure (some file, d)
  else pure (none, ⟨c, Nat.le_refl _⟩)

/-- The parts from a place on, which stands just past a delimiter, and the offset just past the
closing dashes. The two bytes after any other delimiter are passed over. -/
def scanParts (finder : Finder) (delimiter : Bytes) (c : Cursor body) : Scan (List Part × Nat) :=
  if _hc : c.size < c.offset + 2 then .fail .cutDelimiterLine
  else if c.upTo (c.offset + 2) = dashes then pure ([], c.offset + 2)
  else
    let start := c.advance 2
    match hl : start.findLineEnd with
    | none => .fail (.openHeaderLine start.offset)
    | some e => do
      let line := start.upTo e
      let (file, ⟨d, _hd⟩) ← scanFile? finder delimiter line
        (start.moveTo e (Cursor.le_of_findLineEnd hl).1)
      let ⟨next, hn⟩ ← seek finder d delimiter (.noDelimiter d.offset)
      let part : Part := ⟨line, file, d.upTo next⟩
      (fun (parts, stop) => (part :: parts, stop)) <$>
        scanParts finder delimiter ((d.moveTo next hn.1).advance delimiter.length)
termination_by body.length - c.offset
decreasing_by
  have h := (Cursor.le_of_findLineEnd hl).1
  have hs := c.size_eq
  simp only [Cursor.offset_moveTo, Cursor.offset_advance, start] at *
  omega

/-- Cuts a body that is not empty into its parts; an empty body holds no document. -/
def scan (finder : Finder) (body : Bytes) (boundary : Text) : Scan (Option Document) :=
  if body.isEmpty then pure none
  else do
    let c := Cursor.first body
    let ⟨k, hk⟩ ← seek finder c (delimiter boundary) (.noDelimiter 0)
    let (parts, stop) ← scanParts finder (delimiter boundary)
      ((c.moveTo k hk.1).advance (delimiter boundary).length)
    pure (some ⟨c.upTo k, parts, stop⟩)

/-! ### Writing -/

def renderPayload (payload : Bytes) : Bytes :=
  Bytes.ofAscii ("Content-Length: " ++ toString payload.length) ++ Bytes.crlf ++
    Bytes.ofAscii "Content-Encoding: base64" ++ headerEnd ++ Base64.encode payload ++ Bytes.crlf

def FileSection.render (file : FileSection) : Bytes :=
  file.headers ++ Bytes.crlf ++ renderPayload file.payload

def Part.render (part : Part) : Bytes :=
  part.line ++ (part.file.elim [] FileSection.render) ++ part.text

/-- The document as text: the preamble, the parts each after a delimiter and a line end, and the
closing delimiter. What stood after the closing dashes is left out. -/
def Document.render (document : Document) (delimiter : Bytes) : Bytes :=
  document.preamble ++
    document.parts.flatMap (fun part => delimiter ++ Bytes.crlf ++ part.render) ++
    delimiter ++ dashes ++ Bytes.crlf

/-! ### Transcoding -/

def transcodeBytes (finder : Finder) (body : Bytes) (boundary : Text) : Except Error Bytes :=
  match (scan finder body boundary).result with
  | .error fault => .error (.malformedMultipart fault.message)
  | .ok none => .ok []
  | .ok (some document) => .ok (document.render (delimiter boundary))

/-- The body with its file payloads as base64 text. Bytes that are not valid UTF-8 in what is copied
are replaced by U+FFFD. -/
def transcode (finder : Finder) (body : Bytes) (boundary : Text) : Except Error Text :=
  (transcodeBytes finder body boundary).map Utf8.decodeLossy

end FormCapture.Multipart
