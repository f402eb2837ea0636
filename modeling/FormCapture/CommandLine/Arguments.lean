import FormCapture.CommandLine.Value
import FormCapture.Text.Control

/-! # Arguments

The command line as a list of arguments. `--name` and `-n` give a flag, or a parameter whose value is
the next argument; `--name=value`, `-nvalue` and `-n=value` give a parameter with its value; flags may
share a dash, as in `-vh`. An argument that starts with a dash is never a value, unless it is the dash
alone. No argument stands for itself, and after `--` none is a switch.

A value that is attached is taken at once. A value of its own argument is taken as soon as another
switch is met or the arguments end (`State.settle`), and so is the lack of one; an argument that is
not understood is reported before that. `State.run` reads all arguments. -/

namespace FormCapture.CommandLine

/-! ### Outcomes -/

inductive UsageFault
  | unexpectedArgument (argument : Text)
  | missingValue (p : Parameter)
  | invalidValue (p : Parameter) (value : Text) (fault : ValueFault)
  | repeated (s : Switch)
  | unexpectedValue (f : Flag) (value : Text)
  deriving DecidableEq, Repr

/-- The text of a fault. What it quotes is quoted as `shown` says, which takes control sequences
out. -/
def UsageFault.message (shown : Text → Text) : UsageFault → String
  | unexpectedArgument argument =>
    "error: unexpected argument '" ++ String.ofList (shown argument) ++ "' found"
  | missingValue p =>
    "error: a value is required for '" ++ (Switch.parameter p).label ++ "' but none was supplied"
  | invalidValue p value fault =>
    "error: invalid value '" ++ String.ofList (shown value) ++ "' for '" ++
      (Switch.parameter p).label ++ "': " ++ fault.message
  | repeated s => "error: the argument '" ++ s.label ++ "' cannot be used multiple times"
  | unexpectedValue f value =>
    "error: unexpected value '" ++ String.ofList (shown value) ++ "' for '" ++
      (Switch.flag f).label ++ "' found; no more were expected"

inductive Stop
  /-- Help was asked for, the long one or the short one. -/
  | help (long : Bool)
  | version
  | usage (fault : UsageFault)
  deriving DecidableEq, Repr

/-! ### Tokens -/

inductive Token
  /-- Two dashes alone. -/
  | escape
  /-- A name after two dashes, and what follows an equals sign. -/
  | long (name : Text) (value : Option Text)
  /-- One or more letters after one dash. -/
  | letters (first : Char) (rest : Text)
  | plain
  deriving DecidableEq, Repr

def Token.ofText : Text → Token
  | ['-', '-'] => .escape
  | '-' :: '-' :: rest =>
    match Text.splitOnce '=' rest with
    | some (name, value) => .long name (some value)
    | none => .long rest none
  | '-' :: first :: rest => .letters first rest
  | _ => .plain

/-! ### Reading -/

structure State where
  options : Options := {}
  taken : List Switch := []
  /-- The parameter that is not yet taken, and its value if it has been met. -/
  pending : Option (Parameter × Option Text) := none
  deriving DecidableEq, Repr

namespace State

def assign (s : State) (p : Parameter) (value : Text) : Except Stop State :=
  if s.taken.contains (.parameter p) then .error (.usage (.repeated (.parameter p)))
  else if !p.accepts value then .error (.usage (.missingValue p))
  else
    match p.assign value s.options with
    | .ok options => .ok { s with options := options, taken := .parameter p :: s.taken }
    | .error fault => .error (.usage (.invalidValue p value fault))

def settle (s : State) : Except Stop State :=
  match s.pending with
  | none => .ok s
  | some (p, none) => .error (.usage (.missingValue p))
  | some (p, some value) => { s with pending := none }.assign p value

/-- Takes a flag; `long` says whether it was given by its long name. -/
def raise (s : State) (f : Flag) (long : Bool) : Except Stop State :=
  let set (options : Options) : Except Stop State :=
    if s.taken.contains (.flag f) then .error (.usage (.repeated (.flag f)))
    else .ok { s with options := options, taken := .flag f :: s.taken }
  match f with
  | .verbose => set { s.options with verbose := true }
  | .detailedLogging => set { s.options with detailedLogging := true }
  | .help => .error (.help long)
  | .version => .error .version

def readLong (s : State) (name : Text) (value : Option Text) : Except Stop State :=
  match Switch.ofLong? name, value with
  | none, _ => .error (.usage (.unexpectedArgument ('-' :: '-' :: name)))
  | some (.flag f), none => s.settle.bind (·.raise f true)
  | some (.flag f), some v => .error (.usage (.unexpectedValue f v))
  | some (.parameter p), none => s.settle.map fun t => { t with pending := some (p, none) }
  | some (.parameter p), some v => s.settle.bind (·.assign p v)

/-- Reads letters after one dash: flags, up to a parameter whose value is the rest if there is
any. -/
def readLetters (s : State) (c : Char) (rest : Text) : Except Stop State :=
  match Switch.ofLetter? c with
  | none => .error (.usage (.unexpectedArgument ['-', c]))
  | some (.parameter p) =>
    match rest with
    | [] => s.settle.map fun t => { t with pending := some (p, none) }
    | '=' :: value | value => s.settle.bind (·.assign p value)
  | some (.flag f) =>
    match s.settle.bind (·.raise f false) with
    | .error stop => .error stop
    | .ok t =>
      match rest with
      | [] => .ok t
      | d :: more => t.readLetters d more

/-- Reads an argument that is no switch: it is the value that is awaited, or not expected. -/
def readPlain (s : State) (argument : Text) : Except Stop State :=
  match s.pending with
  | some (p, none) => .ok { s with pending := some (p, some argument) }
  | _ => .error (.usage (.unexpectedArgument argument))

def run (s : State) : List Text → Except Stop State
  | [] => s.settle
  | argument :: later =>
    match Token.ofText argument with
    | .escape =>
      match later with
      | [] => s.settle
      | stray :: _ => .error (.usage (.unexpectedArgument stray))
    | .long name value => (s.readLong name value).bind (·.run later)
    | .letters first rest => (s.readLetters first rest).bind (·.run later)
    | .plain => (s.readPlain argument).bind (·.run later)

end State

def parse (arguments : List Text) : Except Stop Options :=
  (({} : State).run arguments).map State.options

end FormCapture.CommandLine
