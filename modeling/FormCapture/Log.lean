/-! # Log lines -/

namespace FormCapture

inductive Level
  | error
  | warn
  | info
  | debug
  | trace
  deriving DecidableEq, Repr

def Level.name : Level → String
  | error => "ERROR"
  | warn => "WARN"
  | info => "INFO"
  | debug => "DEBUG"
  | trace => "TRACE"

structure LogLine where
  level : Level
  text : String
  deriving DecidableEq, Repr

def LogLine.render (line : LogLine) : String := line.level.name ++ " " ++ line.text

end FormCapture
