import FormCapture.Number.Binary64
import FormCapture.Number.Numeral

/-! # Real numerals

Numerals of binary64 numbers: an optional sign, then `inf`, `infinity` or `nan` in any letter case,
or digits with an optional point among them and an optional exponent. There has to be a digit before
or after the point, and one in the exponent. The digits of an exponent count until its value has
reached `2 ^ 16`. -/

namespace FormCapture

inductive RealNumeral
  | number (negative : Bool) (magnitude : Binary64)
  | notANumber
  deriving DecidableEq, Repr

namespace RealNumeral

/-- The sign, if there is one, and what stands after it. -/
def splitSign : Text → Bool × Text
  | '-' :: rest => (true, rest)
  | '+' :: rest => (false, rest)
  | t => (false, t)

def exponentValue (digits : Text) : Nat :=
  digits.foldl (fun n c => if n < UInt16.size then n * 10 + (c.toNat - 48) else n) 0

/-- The exponent that ends a numeral: nothing, or `e` and a signed number. -/
def exponent? : Text → Option Int
  | [] => some 0
  | c :: rest =>
    if c = 'e' ∨ c = 'E' then
      let (negative, digits) := splitSign rest
      if !digits.isEmpty && digits.all Numeral.isDigit then
        let n : Int := exponentValue digits
        some (if negative then -n else n)
      else none
    else none

/-- The digits after a point, if there is one, and what stands after them. -/
def splitFraction : Text → Text × Text
  | '.' :: rest => (rest.takeWhile Numeral.isDigit, rest.dropWhile Numeral.isDigit)
  | t => ([], t)

def decimal? (t : Text) : Option Binary64 :=
  let whole := t.takeWhile Numeral.isDigit
  let (fraction, ending) := splitFraction (t.dropWhile Numeral.isDigit)
  if whole.isEmpty && fraction.isEmpty then none
  else
    (exponent? ending).map fun e =>
      Binary64.ofDecimal (Numeral.longValue (whole ++ fraction)) (e - fraction.length)

/-- Whether a text is a word of ASCII small letters in some letter case. -/
def isWord (word : String) (t : Text) : Bool := t.map Char.toLower == word.toList

def parse? (t : Text) : Option RealNumeral :=
  let (negative, rest) := splitSign t
  if isWord "inf" rest || isWord "infinity" rest then some (.number negative .infinite)
  else if isWord "nan" rest then some .notANumber
  else (decimal? rest).map (.number negative)

end RealNumeral

end FormCapture
