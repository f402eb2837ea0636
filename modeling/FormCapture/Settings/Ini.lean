import FormCapture.Error
import FormCapture.Settings.Size

/-! # INI documents

Settings as text: sections `[name]`, assignments `key = value`, comment lines that start with `#` or
`;`, blank lines. White space around lines, names, keys and values does not count, nor does the letter
case of names and keys. A value in quotes is taken as it stands between them; any other ends at a
comment mark. The last assignment to a key of a section wins, also if the section is given again.

`Line.ofText` says what a line is, `Ini.parse` reads a text up to its first faulty line, `Ini.text?`
and the functions after it look values up. -/

namespace FormCapture

/-! ### Lines -/

inductive LineFault
  | unterminatedSection (line : Text)
  | emptySection
  | invalidSyntax (line : Text)
  | emptyKey
  deriving DecidableEq, Repr

inductive Line
  /-- Nothing: it is blank or a comment. -/
  | skipped
  | heading (name : Text)
  | assignment (key value : Text)
  deriving DecidableEq, Repr

namespace Line

def isCommentMark (c : Char) : Bool := c == ';' || c == '#'

/-- The text between two quotes, if a value is one or more characters from quote to quote. -/
def unquote? : Text → Option Text
  | '"' :: rest => if rest.getLast? = some '"' then some rest.dropLast else none
  | _ => none

def cleanValue (raw : Text) : Text :=
  match unquote? raw.trim with
  | some value => value
  | none => Text.trim (raw.trim.takeWhile fun c => !isCommentMark c)

/-- What a section line says, less its first bracket. -/
def ofSection (line rest : Text) : Except LineFault Line :=
  if rest.getLast? = some ']' then
    let name := Text.lower (Text.trim rest.dropLast)
    if name.isEmpty then .error .emptySection else .ok (.heading name)
  else .error (.unterminatedSection line)

def ofAssignment (line : Text) : Except LineFault Line :=
  match Text.splitOnce '=' line with
  | none => .error (.invalidSyntax line)
  | some (left, right) =>
    let key := left.trim.lower
    if key.isEmpty then .error .emptyKey else .ok (.assignment key (cleanValue right))

def ofTrimmed : Text → Except LineFault Line
  | [] => .ok .skipped
  | c :: rest =>
    if isCommentMark c then .ok .skipped
    else if c = '[' then ofSection (c :: rest) rest
    else ofAssignment (c :: rest)

def ofText (line : Text) : Except LineFault Line := ofTrimmed line.trim

end Line

/-! ### Documents -/

structure Setting where
  /-- The section, empty before the first section line. -/
  group : Text
  key : Text
  value : Text
  deriving DecidableEq, Repr

structure Ini where
  /-- The assignments, the latest first. -/
  settings : List Setting
  deriving DecidableEq, Repr

namespace Ini

def empty : Ini := ⟨[]⟩

/-- A faulty line and its number, counted from one. -/
structure Fault where
  fault : LineFault
  number : Nat
  deriving DecidableEq, Repr

def Fault.message (e : Fault) : String :=
  match e.fault with
  | .unterminatedSection line =>
    "unterminated section at line " ++ toString e.number ++ ": " ++ String.ofList line
  | .emptySection => "empty section name at line " ++ toString e.number
  | .invalidSyntax line =>
    "invalid syntax at line " ++ toString e.number ++ ": " ++ String.ofList line
  | .emptyKey => "empty key at line " ++ toString e.number

/-- Reads lines from the given number on, in a section, after the settings made before. -/
def parseLines (number : Nat) (current : Text) (settings : List Setting) :
    List Text → Except Fault Ini
  | [] => .ok ⟨settings⟩
  | line :: rest =>
    match Line.ofText line with
    | .error fault => .error ⟨fault, number⟩
    | .ok .skipped => parseLines (number + 1) current settings rest
    | .ok (.heading name) => parseLines (number + 1) name settings rest
    | .ok (.assignment key value) =>
      parseLines (number + 1) current (⟨current, key, value⟩ :: settings) rest

def parse (t : Text) : Except Fault Ini := parseLines 1 [] [] t.lines

def ofText (t : Text) : Except Error Ini :=
  (parse t).mapError fun e => .invalidConfiguration e.message

/-! ### Values -/

/-- The value under a key of a section, both in small letters. -/
def text? (ini : Ini) (name key : Text) : Option Text :=
  (ini.settings.find? fun s => s.group = name && s.key = key).map Setting.value

def number? (ini : Ini) (limit : Nat) (name key : Text) : Option Nat :=
  (ini.text? name key).bind (Numeral.unsigned? limit)

def flag? (ini : Ini) (name key : Text) : Option Bool :=
  (ini.text? name key).bind fun value =>
    let word := String.ofList value.lower
    if ["true", "yes", "1", "on"].contains word then some true
    else if ["false", "no", "0", "off"].contains word then some false
    else none

def size? (ini : Ini) (name key : Text) : Option Nat := (ini.text? name key).bind Size.parse?

end Ini

end FormCapture
