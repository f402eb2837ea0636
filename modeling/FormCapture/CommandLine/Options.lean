import FormCapture.Text.Basic

/-! # Options

What the command line can set. Each option may be left out, for the settings file or the defaults to
fill in. -/

namespace FormCapture

structure Options where
  listen : Option Text := none
  port : Option Nat := none
  threads : Option Nat := none
  /-- How long a read may wait, in seconds. -/
  waitTimeout : Option Nat := none
  /-- The greatest declared length of a body, in units of 1024 times 1024 bytes. -/
  maxBodySize : Option Nat := none
  verbose : Bool := false
  /-- Whether more than warnings is logged. -/
  detailedLogging : Bool := false
  configFile : Option Text := none
  deriving DecidableEq, Repr

end FormCapture
