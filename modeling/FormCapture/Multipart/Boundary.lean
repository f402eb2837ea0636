import FormCapture.Error
import FormCapture.Text.Case
import FormCapture.Text.Utf8

/-! # Boundaries

A boundary is the text that separates the parts of a multipart body; the delimiter is two dashes and
the boundary. `validate` says which boundaries may be declared, `usable` which ones a body can be read
with at all, and `ofContentType` finds the boundary that a `Content-Type` value declares. -/

namespace FormCapture.Multipart

/-! ### Delimiters -/

def dashes : Bytes := Bytes.ofAscii "--"

def delimiter (boundary : Text) : Bytes := dashes ++ Utf8.encode boundary

theorem two_le_length_delimiter (boundary : Text) : 2 ≤ (delimiter boundary).length := by
  have : dashes.length = 2 := rfl
  simp [delimiter, this]

/-! ### Which boundaries are allowed -/

def maxBoundaryLength : Nat := 70

/-- Whether a character may stand in a declared boundary: ASCII letters, digits and some marks. -/
def isBoundaryChar (c : Char) : Bool :=
  c.isAlphanum || "'()+_,-./:=? ".toList.contains c

/-- Whether a boundary may be declared: one to seventy boundary characters, the last no space. -/
def isValid (boundary : Text) : Bool :=
  !boundary.isEmpty && (Utf8.encode boundary).length ≤ maxBoundaryLength &&
    boundary.getLast? != some ' ' && boundary.all isBoundaryChar

def validate (boundary : Text) : Except Error Unit :=
  if isValid boundary then .ok () else .error (.invalidBoundary boundary)

/-- Refuses a boundary that is empty or does not fit on a line. -/
def usable (boundary : Text) : Except Error Unit :=
  if boundary.isEmpty || boundary.any (fun c => c == '\r' || c == '\n') then
    .error (.invalidBoundary boundary)
  else .ok ()

/-! ### Declared boundaries -/

/-- The value of a `boundary` parameter, less white space and quotes around it. -/
def boundaryParameter? (parameter : Text) : Option Text :=
  match Text.splitOnce '=' parameter with
  | none => none
  | some (key, value) =>
    if Text.lowerAscii key.trim = "boundary".toList then some (value.trim.trimChar '"') else none

def isFormData (contentType : Text) : Bool :=
  "multipart/form-data".toList.isPrefixOf (Text.lowerAscii contentType.trimStart)

/-- The boundary that a `Content-Type` value declares: none if the type is not that of a form in
parts, and an error if it is but the first boundary parameter is missing or not valid. -/
def ofContentType (contentType : Text) : Except Error (Option Text) :=
  if isFormData contentType then
    match ((Text.split ';' contentType).drop 1).findSome? boundaryParameter? with
    | none => .error (.invalidBoundary [])
    | some boundary => (validate boundary).map fun _ => some boundary
  else .ok none

end FormCapture.Multipart
