import FormCapture.Text.Basic

/-! # Switches

What can be given on the command line: parameters, which take a value, and flags, which take none.
Each has a long name, most a letter too; `Switch.ofLong?` and `Switch.ofLetter?` find them again. -/

namespace FormCapture.CommandLine

/-- A switch that takes a value. -/
inductive Parameter
  | listen
  | port
  | threads
  | waitTimeout
  | maxBodySize
  | configFile
  deriving DecidableEq, Repr

/-- A switch that takes no value. -/
inductive Flag
  | verbose
  | detailedLogging
  | help
  | version
  deriving DecidableEq, Repr

inductive Switch
  | parameter (p : Parameter)
  | flag (f : Flag)
  deriving DecidableEq, Repr

def Parameter.long : Parameter → String
  | listen => "listen"
  | port => "port"
  | threads => "threads"
  | waitTimeout => "wait-timeout"
  | maxBodySize => "max-body-size"
  | configFile => "config-file"

def Parameter.letter : Parameter → Char
  | listen => 'l'
  | port => 'p'
  | threads => 't'
  | waitTimeout => 'w'
  | maxBodySize => 'm'
  | configFile => 'c'

def Parameter.placeholder : Parameter → String
  | listen => "LISTEN"
  | port => "PORT"
  | threads => "THREADS"
  | waitTimeout => "WAIT_TIMEOUT"
  | maxBodySize => "MAX_BODY_SIZE"
  | configFile => "CONFIG_FILE"

def Flag.long : Flag → String
  | verbose => "verbose"
  | detailedLogging => "detailed-logging"
  | help => "help"
  | version => "version"

def Flag.letter : Flag → Option Char
  | verbose => some 'v'
  | detailedLogging => none
  | help => some 'h'
  | version => some 'V'

namespace Switch

def all : List Switch :=
  [.parameter .listen, .parameter .port, .parameter .threads, .parameter .waitTimeout,
    .parameter .maxBodySize, .flag .verbose, .flag .detailedLogging, .parameter .configFile,
    .flag .help, .flag .version]

theorem mem_all (s : Switch) : s ∈ all := by
  cases s with
  | parameter p => cases p <;> decide
  | flag f => cases f <;> decide

def long : Switch → String
  | parameter p => p.long
  | flag f => f.long

def letter : Switch → Option Char
  | parameter p => some p.letter
  | flag f => f.letter

def label : Switch → String
  | parameter p => "--" ++ p.long ++ " <" ++ p.placeholder ++ ">"
  | flag f => "--" ++ f.long

def ofLong? (name : Text) : Option Switch := all.find? fun s => s.long.toList = name

def ofLetter? (c : Char) : Option Switch := all.find? fun s => s.letter = some c

end Switch

end FormCapture.CommandLine
