import FormCapture.CommandLine.Arguments

/-! # Help

What is printed instead of serving: the help, the version, or what is wrong with the arguments. -/

namespace FormCapture.CommandLine

def programName : String := "mimewire"

def programVersion : String := "0.3.1"

def summaryLine : String :=
  "Capture HTTP requests and print them with multipart file parts re-encoded as base64."

def description : List String :=
  ["Accepts one request per connection, reads the header block and the declared body through a " ++
      "timeout-bounded socket reader, and answers with the captured request as text/plain.",
    "multipart/form-data bodies are transcoded: field parts pass through, file parts are " ++
      "re-encoded as base64 with Content-Length and Content-Encoding headers added."]

def Switch.purpose : Switch → String
  | .parameter .listen => "Host address to listen on (e.g. 127.0.0.1 or 0.0.0.0)"
  | .parameter .port => "Port number to listen on"
  | .parameter .threads => "Number of worker threads handling connections"
  | .parameter .waitTimeout => "Seconds a read may wait for the client before giving up on it"
  | .parameter .maxBodySize => "Largest accepted Content-Length, in MB"
  | .parameter .configFile => "Configuration file (INI)"
  | .flag .verbose => "Enable verbose logging (log level: debug)"
  | .flag .detailedLogging => "Enable more detailed logging (log level: info)"
  | .flag .help => "Print help"
  | .flag .version => "Print version"

def Switch.helpLine (s : Switch) : String :=
  let letter := match s.letter with
    | some c => "-" ++ c.toString ++ ", "
    | none => "    "
  let names := letter ++ s.label
  "  " ++ names ++ String.ofList (List.replicate (34 - names.length) ' ') ++ "  " ++ s.purpose

def usageLine : String := "Usage: " ++ programName ++ " [OPTIONS]"

/-- What there is to say, line by line; arguments are quoted as `shown` says. -/
def Stop.lines (shown : Text → Text) : Stop → List String
  | .help long =>
    (if long then description else [summaryLine]) ++ ["", usageLine, "", "Options:"] ++
      Switch.all.map Switch.helpLine
  | .version => [programName ++ " " ++ programVersion]
  | .usage fault =>
    [fault.message shown, "", usageLine, "", "For more information, try '--help'."]

def Stop.isFault : Stop → Bool
  | .usage _ => true
  | _ => false

end FormCapture.CommandLine
