import FormCapture.Host.Basic
import FormCapture.Host.Value
import FormCapture.Request.Basic

/-! # Native functions

The functions that a script calls by name. A call is first made out from the values that are passed
(`Call.ofValues`), which refuses wrong numbers and kinds of arguments, and then carried out
(`Host.perform`), which refuses descriptors and handles that are not there. Until both have passed, the
host stays as it is.

That bytes are missing is no error: the script gets `-1`, `null` or `false`. -/

namespace FormCapture

inductive Native
  | openStream
  | closeStream
  | readByte
  | readHeaders
  | readPost
  | readMime
  deriving DecidableEq, Repr

namespace Native

def all : List Native := [openStream, closeStream, readByte, readHeaders, readPost, readMime]

def name : Native → String
  | openStream => "openStream"
  | closeStream => "closeStream"
  | readByte => "readByte"
  | readHeaders => "readHeaders"
  | readPost => "readPost"
  | readMime => "readMime"

def arity : Native → Nat
  | openStream | closeStream | readByte | readHeaders => 1
  | readPost => 2
  | readMime => 3

def ofName? (name : Text) : Option Native := all.find? fun f => f.name.toList = name

theorem ofName?_name (f : Native) : ofName? f.name.toList = some f := by
  cases f <;> decide

end Native

/-! ### Calls -/

inductive Call
  | openStream (descriptor : Int)
  | closeStream (handle : Nat)
  | readByte (handle : Nat)
  | readHeaders (handle : Nat)
  | readPost (handle size : Nat)
  | readMime (handle size : Nat) (boundary : Text)
  deriving DecidableEq, Repr

namespace Call

def handle (index : Nat) : Value → Except Error Nat
  | .stream handle => .ok handle
  | other => .error (.invalidArgument
      ("argument " ++ toString index ++ " must be a stream, got Some(" ++ other.describe ++ ")"))

def size (index : Nat) : Value → Except Error Nat
  | .int (.ofNat n) => .ok n
  | other => .error (.invalidArgument
      ("argument " ++ toString index ++ " must be a non-negative integer, got Some(" ++
        other.describe ++ ")"))

def boundary : Value → Except Error Text
  | .text t => .ok t
  | other => .error (.invalidArgument ("boundary must be text, got " ++ other.describe))

def descriptor : Value → Except Error Int
  | .int n => .ok n
  | other => .error (.invalidArgument ("descriptor must be an integer, got " ++ other.describe))

def ofValues (f : Native) (values : List Value) : Except Error Call :=
  match f, values with
  | .openStream, [d] => do pure (openStream (← descriptor d))
  | .closeStream, [s] => do pure (closeStream (← handle 0 s))
  | .readByte, [s] => do pure (readByte (← handle 0 s))
  | .readHeaders, [s] => do pure (readHeaders (← handle 0 s))
  | .readPost, [s, n] => do
    let size ← size 1 n
    pure (readPost (← handle 0 s) size)
  | .readMime, [s, n, b] => do
    let size ← size 1 n
    let boundary ← boundary b
    pure (readMime (← handle 0 s) size boundary)
  | f, values => .error (.invalidArgument
      (f.name ++ " takes " ++ toString f.arity ++ " argument(s), got " ++ toString values.length))

end Call

namespace Host

/-- A result of which a native function makes nothing but a value. -/
def orUnknownStream (h : Host) (handle : Nat) (result : Option (Except Error Value × Host)) :
    Except Error Value × Host :=
  result.getD (.error (.invalidArgument ("unknown stream " ++ toString handle)), h)

def postValue : Except Error Text → Except Error Value
  | .ok t => .ok (.text t)
  | .error _ => .ok (.bool false)

def mimeValue : Except Error Text → Except Error Value
  | .ok t => .ok (.text t)
  | .error (.shortRead _ _) => .ok .null
  | .error e => .error e

def perform (h : Host) : Call → Except Error Value × Host
  | .openStream descriptor =>
    match descriptor with
    | .ofNat n =>
      match h.openStream? n with
      | some (handle, g) => (.ok (.stream handle), g)
      | none => (.error (.invalidArgument ("unknown descriptor " ++ toString n)), h)
    | .negSucc _ => (.error (.invalidArgument ("unknown descriptor " ++ toString descriptor)), h)
  | .closeStream handle =>
    h.orUnknownStream handle ((h.closeStream? handle).map fun g => (.ok .undefined, g))
  | .readByte handle =>
    h.orUnknownStream handle <| h.useStream? handle fun s =>
      let (b, t) := s.readByte
      (.ok (.int (b.elim (-1) fun b => b.toNat)), t)
  | .readHeaders handle =>
    h.orUnknownStream handle <| h.useStream? handle fun s =>
      let (block, t) := s.readHeaders
      (.ok (block.elim .null .text), t)
  | .readPost handle size =>
    h.orUnknownStream handle <| h.useStream? handle fun s =>
      let (body, t) := s.readPost size
      (postValue body, t)
  | .readMime handle size boundary =>
    h.orUnknownStream handle <| h.useStream? handle fun s =>
      let (body, t) := s.readMime size boundary
      (mimeValue body, t)

def call (h : Host) (name : Text) (values : List Value) : Except Error Value × Host :=
  match Native.ofName? name with
  | none => (.error (.unknownFunction name), h)
  | some f =>
    match Call.ofValues f values with
    | .error e => (.error e, h)
    | .ok c => h.perform c

end Host

end FormCapture
