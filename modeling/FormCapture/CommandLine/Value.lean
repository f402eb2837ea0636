import FormCapture.CommandLine.Options
import FormCapture.CommandLine.Switch
import FormCapture.Number.Numeral

/-! # Values of parameters

What a parameter takes as its value, and what the value sets (`Parameter.assign`). -/

namespace FormCapture.CommandLine

inductive ValueFault
  | portNumeral (fault : Numeral.Fault)
  | portRange (n : Int)
  | threadsNumeral
  | threadsRange
  | waitNumeral
  | waitRange
  | bodyNumeral
  | bodyZero
  | bodyRange
  deriving DecidableEq, Repr

def ValueFault.message : ValueFault → String
  | portNumeral .empty => "cannot parse integer from empty string"
  | portNumeral .invalidDigit => "invalid digit found in string"
  | portNumeral .tooLarge => "number too large to fit in target type"
  | portNumeral .tooSmall => "number too small to fit in target type"
  | portRange n => toString n ++ " is not in 0..=" ++ toString Numeral.max16
  | threadsNumeral => "Thread count must be a positive number"
  | threadsRange => "Thread count must be between 1 and 1024"
  | waitNumeral => "Wait timeout must be a whole number of seconds"
  | waitRange => "Wait timeout must be between 1 and 3600 seconds"
  | bodyNumeral => "Body size must be a positive number"
  | bodyZero => "Body size must be greater than 0 MB"
  | bodyRange => "Body size must not exceed 10240 MB (10 GB)"

def maxThreads : Nat := 1024

/-- The longest wait that can be asked for, in seconds. -/
def maxWait : Nat := 3600

/-- The greatest body size that can be asked for, in units of 1024 times 1024 bytes. -/
def maxBodyUnits : Nat := 10240

/-- Reads a port. The numeral is first one of 64 bits with a sign, then one within the ports. -/
def readPort (t : Text) : Except ValueFault Nat :=
  match Numeral.signed (UInt64.size / 2) (UInt64.size / 2 - 1) t with
  | .error fault => .error (.portNumeral fault)
  | .ok n => if 0 ≤ n ∧ n ≤ Numeral.max16 then .ok n.toNat else .error (.portRange n)

def readThreads (t : Text) : Except ValueFault Nat :=
  match Numeral.unsigned? Numeral.max64 t with
  | none => .error .threadsNumeral
  | some n => if n = 0 ∨ maxThreads < n then .error .threadsRange else .ok n

def readWait (t : Text) : Except ValueFault Nat :=
  match Numeral.unsigned? Numeral.max64 t with
  | none => .error .waitNumeral
  | some n => if n = 0 ∨ maxWait < n then .error .waitRange else .ok n

def readBodyUnits (t : Text) : Except ValueFault Nat :=
  match Numeral.unsigned? Numeral.max64 t with
  | none => .error .bodyNumeral
  | some n =>
    if n = 0 then .error .bodyZero else if maxBodyUnits < n then .error .bodyRange else .ok n

/-- Whether a parameter takes a value as given at all: a path is never empty. -/
def Parameter.accepts : Parameter → Text → Bool
  | configFile, value => !value.isEmpty
  | _, _ => true

def Parameter.assign (p : Parameter) (value : Text) (o : Options) : Except ValueFault Options :=
  match p with
  | listen => .ok { o with listen := some value }
  | port => (readPort value).map fun n => { o with port := some n }
  | threads => (readThreads value).map fun n => { o with threads := some n }
  | waitTimeout => (readWait value).map fun n => { o with waitTimeout := some n }
  | maxBodySize => (readBodyUnits value).map fun n => { o with maxBodySize := some n }
  | configFile => .ok { o with configFile := some value }

/-- A body size that is taken is small enough for its bytes to be counted in 64 bits. -/
theorem readBodyUnits_le {t : Text} {n : Nat} (h : readBodyUnits t = .ok n) :
    0 < n ∧ n ≤ maxBodyUnits := by
  unfold readBodyUnits at h
  split at h
  · cases h
  · split at h
    · cases h
    · split at h
      · cases h
      · cases h
        omega

end FormCapture.CommandLine
