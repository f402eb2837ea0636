import FormCapture.Header.Fields
import FormCapture.Multipart.Boundary
import FormCapture.Number.Numeral

/-! # Request heads

A header block as a request line and fields. The request line is three words, the last of which names
a version 1 of the protocol. The fields are the lines after it, up to the first that is blank, each
with a colon; a line without one is passed over. Names are compared in small letters. -/

namespace FormCapture

structure Head where
  method : Text
  target : Text
  version : Text
  fields : Fields
  /-- The header block that the head was read from. -/
  raw : Text
  deriving DecidableEq, Repr

namespace Head

def versionMark : Text := "HTTP/1.".toList

/-- The name, in small letters, and the value of a field line. -/
def fieldOfLine? (line : Text) : Option (Text × Text) :=
  (Text.splitOnce ':' line).map fun (name, value) => (name.trim.lower, value.trim)

/-- The lines of a block that may hold fields: those before the first blank one, trimmed. -/
def fieldLines (lines : List Text) : List Text :=
  (lines.map Text.trim).takeWhile fun line => !line.isEmpty

def fieldsOfLines (lines : List Text) : Fields :=
  ⟨(fieldLines lines).filterMap fieldOfLine?⟩

def parse (raw : Text) : Except Error Head :=
  match Text.lines raw with
  | [] => .error .badRequest
  | requestLine :: lines =>
    match Text.words requestLine with
    | [method, target, version] =>
      if versionMark.isPrefixOf version then
        .ok ⟨method, target, version, fieldsOfLines lines, raw⟩
      else .error .badRequest
    | _ => .error .badRequest

/-- The value of the field of some name, in any letter case. -/
def field? (head : Head) (name : Text) : Option Text := head.fields.get? name.lower

def contentLength (head : Head) : Except Error (Option Nat) :=
  match head.field? "content-length".toList with
  | none => .ok none
  | some value =>
    match Numeral.unsigned? Numeral.max64 value with
    | none => .error .badRequest
    | some n => .ok (some n)

def boundary (head : Head) : Except Error (Option Text) :=
  match head.field? "content-type".toList with
  | none => .ok none
  | some value => Multipart.ofContentType value

def isChunked (head : Head) : Bool :=
  match head.field? "transfer-encoding".toList with
  | none => false
  | some value => Text.occurs "chunked".toList value.lower

end Head

end FormCapture
