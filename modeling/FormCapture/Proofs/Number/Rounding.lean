import FormCapture.Number.RealNumeral
import FormCapture.Proofs.Number.Numeral
import Mathlib.Algebra.Group.Nat.Defs
import Mathlib.Data.List.TakeWhile

/-! # Whole numbers as binary64 numbers

A whole number that is read as a binary64 number is rounded, but not across a power of two: from `2 ^ 52` on
the power of two at or below a number is one of the numbers that it can be rounded to. So a number from a bound
on that is such a power stays so (`floorScaled_nearest`), and digits that spell a number of that size, which is
too large to be held exactly, are held to the bound (`floorScaled_ofDecimal`). -/

namespace FormCapture

namespace Binary64

variable {n limit k : Nat}

theorem scaledNum_natCast (num e : Nat) : scaledNum num (e : Int) = num := by
  simp [scaledNum]

theorem scaledDen_natCast (den e : Nat) : scaledDen den (e : Int) = den * 2 ^ e := by
  simp [scaledDen]

/-- The power of two at or below a whole number is that of its binary logarithm. -/
theorem floorLog_one (hn : n ≠ 0) : floorLog n 1 = (n.log2 : Int) := by
  have hlog : (1 : Nat).log2 = 0 := by decide
  have hone : (n.log2 : Int) - ((1 : Nat).log2 : Int) = (n.log2 : Int) := by rw [hlog]; omega
  unfold floorLog
  simp only [hone, scaledNum_natCast, scaledDen_natCast, Nat.one_mul]
  rw [if_pos (Nat.log2_self_le hn)]

theorem ulpExponent_one (hn : n ≠ 0) (h : 52 ≤ n.log2) : ulpExponent n 1 = ((n.log2 - 52 : Nat) : Int) := by
  unfold ulpExponent
  rw [floorLog_one hn]
  omega

/-- A quotient is not rounded below its whole part. -/
theorem div_le_roundDiv (num den : Nat) : num / den ≤ roundDiv num den := by
  unfold roundDiv
  simp only
  split
  · exact Nat.le_refl _
  · split <;> omega

/-- **A large whole number is not rounded below the power of two** at or below it. -/
theorem pow_le_roundDiv (hn : n ≠ 0) (h : 52 ≤ n.log2) : 2 ^ 52 ≤ roundDiv n (2 ^ (n.log2 - 52)) := by
  have hpow : 2 ^ 52 * 2 ^ (n.log2 - 52) ≤ n := by
    rw [← Nat.pow_add, Nat.add_sub_cancel' h]
    exact Nat.log2_self_le hn
  have hquotient : 2 ^ 52 ≤ n / 2 ^ (n.log2 - 52) :=
    (Nat.le_div_iff_mul_le (Nat.two_pow_pos _)).mpr hpow
  exact Nat.le_trans hquotient (div_le_roundDiv _ _)

theorem floorScaled_finite (limit k m e : Nat) :
    (finite m (e : Int)).floorScaled limit k = min limit (m * 2 ^ (e + k)) := by
  have hshift : (0 : Int) ≤ (e : Int) + (k : Int) := by omega
  have hnat : ((e : Int) + (k : Int)).toNat = e + k := by omega
  simp only [floorScaled, if_pos hshift, hnat]
  rfl

/-- **A bound that a large whole number has reached** is reached by the binary64 number nearest to it. -/
theorem floorScaled_nearest (h : 52 ≤ n.log2) (hlimit : limit ≤ 2 ^ n.log2) (k : Nat) :
    (nearest n 1).floorScaled limit k = limit := by
  have hn : n ≠ 0 := by
    rintro rfl
    simp at h
  have hround := pow_le_roundDiv hn h
  have hproduct : limit ≤ roundDiv n (2 ^ (n.log2 - 52)) * 2 ^ (n.log2 - 52 + k) := by
    calc limit ≤ 2 ^ n.log2 := hlimit
      _ = 2 ^ 52 * 2 ^ (n.log2 - 52) := by rw [← Nat.pow_add, Nat.add_sub_cancel' h]
      _ ≤ 2 ^ 52 * 2 ^ (n.log2 - 52 + k) :=
        Nat.mul_le_mul_left _ (Nat.pow_le_pow_right (by omega) (Nat.le_add_right _ _))
      _ ≤ roundDiv n (2 ^ (n.log2 - 52)) * 2 ^ (n.log2 - 52 + k) := Nat.mul_le_mul_right _ hround
  unfold nearest
  rw [if_neg hn, ulpExponent_one hn h]
  simp only [scaledNum_natCast, scaledDen_natCast, Nat.one_mul]
  split
  · rfl
  · rw [floorScaled_finite]
    exact Nat.min_eq_left hproduct

theorem floorScaled_ofDecimal (h : 52 ≤ n.log2) (hlimit : limit ≤ 2 ^ n.log2) (k : Nat) :
    (ofDecimal n 0).floorScaled limit k = limit := by
  have hn : n ≠ 0 := by
    rintro rfl
    simp at h
  have hsmall : ¬ (0 : Int) < -(401 + (n.log2 : Int)) := by omega
  have hone : n * Nat.pow 10 (0 : Int).toNat = n := Nat.mul_one n
  unfold ofDecimal
  rw [if_neg hn, if_neg (by decide), if_neg hsmall, if_pos (Int.le_refl 0), hone]
  exact floorScaled_nearest h hlimit k

end Binary64

namespace RealNumeral

variable {t : Text}

/-- A text that begins with a digit is no word of letters. -/
theorem isWord_of_digit {c first : Char} {rest letters : Text} {word : String} (hc : '0' ≤ c ∧ c ≤ '9')
    (hword : word.toList = first :: letters) (hfirst : ¬ ('0' ≤ first ∧ first ≤ '9')) :
    isWord word (c :: rest) = false := by
  have hlower : c.toLower = c := by
    unfold Char.toLower
    rw [dif_neg]
    rintro ⟨hle, -⟩
    exact absurd (UInt32.le_trans hle hc.2) (by decide)
  have hne : c ≠ first := by
    rintro rfl
    exact hfirst hc
  simp [isWord, hword, hlower, hne]

/-- **A text of digits is read as the number that it spells**, rounded. -/
theorem parse?_digits (hne : t ≠ []) (h : ∀ c ∈ t, '0' ≤ c ∧ c ≤ '9') :
    parse? t = some (.number false (Binary64.ofDecimal (Numeral.value 0 t) 0)) := by
  have hdigit : ∀ c ∈ t, Numeral.isDigit c = true := fun c hc => Numeral.isDigit_iff.mpr (h c hc)
  obtain ⟨c, rest, rfl⟩ := List.exists_cons_of_ne_nil hne
  have hc := h c List.mem_cons_self
  have hsign : splitSign (c :: rest) = (false, c :: rest) := by
    unfold splitSign
    split
    · next he =>
      cases he
      exact absurd hc (by decide)
    · next he =>
      cases he
      exact absurd hc (by decide)
    · rfl
  have hinf : isWord "inf" (c :: rest) = false := isWord_of_digit hc rfl (by decide)
  have hinfinity : isWord "infinity" (c :: rest) = false := isWord_of_digit hc rfl (by decide)
  have hnan : isWord "nan" (c :: rest) = false := isWord_of_digit hc rfl (by decide)
  have hwhole : (c :: rest).takeWhile Numeral.isDigit = c :: rest := List.takeWhile_eq_self_iff.mpr hdigit
  have hrest : (c :: rest).dropWhile Numeral.isDigit = [] := List.dropWhile_eq_nil_iff.mpr hdigit
  have hdecimal : decimal? (c :: rest) = some (Binary64.ofDecimal (Numeral.value 0 (c :: rest)) 0) := by
    unfold decimal?
    rw [hwhole, hrest]
    simp [splitFraction, exponent?, Numeral.longValue_eq]
  unfold parse?
  simp [hsign, hinf, hinfinity, hnan, hdecimal]

end RealNumeral

end FormCapture
