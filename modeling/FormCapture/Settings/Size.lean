import FormCapture.Number.RealNumeral
import FormCapture.Text.Case

/-! # Sizes

A size in bytes as text: a number, with or without a unit `B`, `KB`, `MB`, `GB` or `TB` in any letter
case, white space around it and before the unit. Each unit is 1024 times the one before. A whole
number that its unit takes out of 64 bits is refused; a number that is not written as a 64-bit whole
number is read as a binary64 number, which has to have a unit, is multiplied by it, cut to a whole
number and held to 64 bits. -/

namespace FormCapture.Size

/-- The units, each with the power of two that it stands for, in the order in which they are
tried. -/
def units : List (String × Nat) := [("TB", 40), ("GB", 30), ("MB", 20), ("KB", 10), ("B", 0)]

/-- What stands before the first unit that the text ends with, and the power of two of that unit. -/
def splitUnit? (t : Text) : Option (Text × Nat) :=
  units.findSome? fun (unit, power) => (t.dropEnding? unit.toList).map fun n => (n.trim, power)

/-- The size of a number that is followed by the unit `2 ^ power`. -/
def ofNumber? (number : Text) (power : Nat) : Option Nat :=
  match Numeral.unsigned? Numeral.max64 number with
  | some n => if n * Nat.pow 2 power ≤ Numeral.max64 then some (n * Nat.pow 2 power) else none
  | none =>
    match RealNumeral.parse? number with
    | some (.number negative magnitude) =>
      if negative && !magnitude.isZero then none
      else some (magnitude.floorScaled Numeral.max64 power)
    | _ => none

def parse? (t : Text) : Option Nat :=
  let t := t.trim.upper
  match Numeral.unsigned? Numeral.max64 t with
  | some n => some n
  | none => (splitUnit? t).bind fun (number, power) => ofNumber? number power

end FormCapture.Size
