import FormCapture.CommandLine.Options
import FormCapture.Log
import FormCapture.Request.Basic
import FormCapture.Settings.Ini

/-! # Settings

What the server runs with. Each setting is the one given on the command line, else the one in the
settings file if it is there and of its type, else a default; the two logging flags are on if either
says so. Settings that make no sense are refused, in the order of `Settings.check`. -/

namespace FormCapture

structure Settings where
  listen : Text := "127.0.0.1".toList
  port : Nat := 8080
  threads : Nat := 8
  /-- How long a read may wait, in seconds. -/
  waitSeconds : Nat := 5
  /-- The greatest declared length of a body, in bytes. -/
  maxBodySize : Nat := 64 * 1024 * 1024
  /-- The greatest header block, in bytes. -/
  maxHeaderSize : Nat := 8 * 1024
  verbose : Bool := false
  detailed : Bool := false
  deriving DecidableEq, Repr

namespace Settings

/-- The bytes of a body size that is given in units of 1024 times 1024, kept in 64 bits. -/
def bytesOfUnits (n : Nat) : Nat := n * (1024 * 1024) % UInt64.size

/-- The settings that the command line, a settings file and the defaults make together. -/
def merge (options : Options) (ini : Ini) : Settings :=
  let base : Settings := {}
  { listen := (options.listen <|> ini.text? "server".toList "listen".toList).getD base.listen
    port := (options.port <|>
      ini.number? Numeral.max16 "server".toList "port".toList).getD base.port
    threads := (options.threads <|>
      ini.number? Numeral.max64 "server".toList "threads".toList).getD base.threads
    waitSeconds := (options.waitTimeout <|>
      ini.number? Numeral.max64 "stream".toList "wait_timeout".toList).getD base.waitSeconds
    maxBodySize := (options.maxBodySize.map bytesOfUnits <|>
      ini.size? "request".toList "max_body_size".toList).getD base.maxBodySize
    maxHeaderSize :=
      (ini.size? "request".toList "max_header_size".toList).getD base.maxHeaderSize
    verbose := options.verbose || (ini.flag? "logging".toList "verbose".toList).getD false
    detailed :=
      options.detailedLogging || (ini.flag? "logging".toList "detailed".toList).getD false }

inductive Fault
  | noThreads
  | noWait
  | smallHeader
  | noBody
  deriving DecidableEq, Repr

def Fault.message : Fault → String
  | noThreads => "threads must be at least 1"
  | noWait => "wait_timeout must be at least 1 second"
  | smallHeader => "max_header_size must be at least 16 bytes"
  | noBody => "max_body_size must be greater than 0"

def minHeaderSize : Nat := 16

def fault? (s : Settings) : Option Fault :=
  if s.threads = 0 then some .noThreads
  else if s.waitSeconds = 0 then some .noWait
  else if s.maxHeaderSize < minHeaderSize then some .smallHeader
  else if s.maxBodySize = 0 then some .noBody
  else none

def check (s : Settings) : Except Error Settings :=
  match s.fault? with
  | some fault => .error (.invalidConfiguration fault.message)
  | none => .ok s

def ofSources (options : Options) (ini : Ini) : Except Error Settings :=
  (merge options ini).check

def limits (s : Settings) : Limits := ⟨s.maxHeaderSize, s.maxBodySize⟩

def summary (s : Settings) : List LogLine :=
  ["Configuration Summary:",
    "  Server: " ++ String.ofList s.listen ++ ":" ++ toString s.port,
    "  Threads: " ++ toString s.threads,
    "  Wait Timeout: " ++ toString s.waitSeconds ++ "s",
    "  Max Body Size: " ++ toString (s.maxBodySize / (1024 * 1024)) ++ " MB",
    "  Max Header Size: " ++ toString s.maxHeaderSize ++ " bytes",
    "  Verbose Logging: " ++ toString s.verbose,
    "  Detailed Logging: " ++ toString s.detailed].map (⟨.info, ·⟩)

end Settings

end FormCapture
