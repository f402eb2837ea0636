/-! # Rounding to binary64

The binary64 number nearest to a positive fraction: a significand of 53 bits times a power of two no
smaller than `2 ^ -1074`, a half going to the even neighbour, and infinity from `2 ^ 1024` on. All is
computed on natural numbers. -/

namespace FormCapture

/-- A binary64 number that is not negative. -/
inductive Binary64
  /-- The number `significand * 2 ^ exponent`. -/
  | finite (significand : Nat) (exponent : Int)
  | infinite
  deriving DecidableEq, Repr

namespace Binary64

/-- The quotient of two natural numbers rounded to the nearest one, a half to the even one. -/
def roundDiv (num den : Nat) : Nat :=
  let q := num / den
  let r := num % den
  if 2 * r < den then q else if den < 2 * r then q + 1 else q + q % 2

/-- The numerator of `num / den / 2 ^ e` over the denominator `scaledDen den e`. -/
def scaledNum (num : Nat) (e : Int) : Nat := num * Nat.pow 2 (-e).toNat

def scaledDen (den : Nat) (e : Int) : Nat := den * Nat.pow 2 e.toNat

/-- The exponent of the greatest power of two that is no greater than `num / den`. -/
def floorLog (num den : Nat) : Int :=
  let k : Int := (num.log2 : Int) - (den.log2 : Int)
  if scaledDen den k ≤ scaledNum num k then k else k - 1

/-- The exponent of the least power of two that a number of the size of `num / den` can resolve. -/
def ulpExponent (num den : Nat) : Int := max (floorLog num den - 52) (-1074)

def nearest (num den : Nat) : Binary64 :=
  if num = 0 then .finite 0 0
  else
    let e := ulpExponent num den
    let m := roundDiv (scaledNum num e) (scaledDen den e)
    if 971 < e ∨ e = 971 ∧ m = Nat.pow 2 53 then .infinite else .finite m e

/-- The number nearest to `coefficient * 10 ^ exponent`. Powers of ten so large or so small that
the result is infinite or zero whatever the rest of the digits are not computed. -/
def ofDecimal (coefficient : Nat) (exponent : Int) : Binary64 :=
  if coefficient = 0 then .finite 0 0
  else if 400 < exponent then .infinite
  else if exponent < -(401 + (coefficient.log2 : Int)) then .finite 0 0
  else if 0 ≤ exponent then nearest (coefficient * Nat.pow 10 exponent.toNat) 1
  else nearest coefficient (Nat.pow 10 (-exponent).toNat)

def isZero : Binary64 → Bool
  | finite m _ => m == 0
  | infinite => false

/-- The whole part of the number times `2 ^ k`, or `limit` if it is greater. The product is exact:
only the exponent changes. -/
def floorScaled (limit k : Nat) : Binary64 → Nat
  | finite m e =>
    let shift := e + k
    min limit (if 0 ≤ shift then m * Nat.pow 2 shift.toNat else m / Nat.pow 2 (-shift).toNat)
  | infinite => limit

end Binary64

end FormCapture
