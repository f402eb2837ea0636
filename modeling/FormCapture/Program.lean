import FormCapture.CommandLine.Help
import FormCapture.Server.Listener
import FormCapture.Settings.Load

/-! # The program

From the arguments to a server that listens, or to what is printed and the exit code if it does not
come to that. -/

namespace FormCapture

inductive Start
  | stopped (stop : CommandLine.Stop)
  | misconfigured (e : Error)
  | failed (e : Error)
  | listening (settings : Settings)

def start (arguments : List Text) (files : Files) (home : Option Text) (network : Network) :
    Start :=
  match CommandLine.parse arguments with
  | .error stop => .stopped stop
  | .ok options =>
    match Settings.load options files home with
    | .error e => .misconfigured e
    | .ok settings =>
      match settings.listenOn network with
      | .error e => .failed e
      | .ok () => .listening settings

namespace Start

def exitCode? : Start → Option Nat
  | stopped stop => some (if stop.isFault then 2 else 0)
  | misconfigured _ | failed _ => some 1
  | listening _ => none

def lines : Start → List String
  | stopped stop => stop.lines Text.printed
  | misconfigured e => ["Configuration error: " ++ e.message]
  | failed e => ["Server error: " ++ e.message]
  | listening settings => if settings.verbose then settings.summary.map LogLine.render else []

def output (started : Start) : Text := started.lines.flatMap fun line => line.toList ++ ['\n']

end Start

end FormCapture
