import FormCapture.Number.Numeral
import Mathlib.Tactic.Common

/-! # What a numeral denotes

A text is read as an unsigned number if it is a decimal numeral of it (`Denotes`) and the number is within
the bound (`unsigned?_eq_some_iff`). So two numerals with anything but a digit between them are none, and
a number that is written in decimal is read as itself (`denotes_decimal`). -/

namespace FormCapture.Numeral

/-- The text is one or more digits, after at most one plus sign, that spell the number. -/
def Denotes (t : Text) (n : Nat) : Prop :=
  ∃ ds : Text, (t = ds ∨ t = '+' :: ds) ∧ ds ≠ [] ∧ (∀ c ∈ ds, '0' ≤ c ∧ c ≤ '9') ∧ value 0 ds = n

theorem isDigit_iff {c : Char} : isDigit c = true ↔ '0' ≤ c ∧ c ≤ '9' := by
  unfold isDigit digit?
  split
  · next h => simp [h]
  · next h => simp [h]

theorem isDigit_of_digits {limit n : Nat} : ∀ {t : Text} {start : Nat},
    digits limit start t = .ok n → ∀ c ∈ t, isDigit c = true
  | [], _, _ => fun _ hc => absurd hc List.not_mem_nil
  | c :: t, start, h => by
    rw [digits] at h
    cases hd : digit? c with
    | none =>
      rw [hd] at h
      cases h
    | some d =>
      rw [hd] at h
      simp only at h
      have hc : isDigit c = true := by rw [isDigit, hd]; rfl
      split at h
      · cases h
      · exact List.forall_mem_cons.mpr ⟨hc, isDigit_of_digits h⟩

/-- Digits are read just if they are digits, and their value is within the bound. -/
theorem digits_eq_ok_iff {limit n : Nat} {t : Text} :
    digits limit 0 t = .ok n ↔ (∀ c ∈ t, '0' ≤ c ∧ c ≤ '9') ∧ value 0 t = n ∧ n ≤ limit := by
  have hall : (∀ c ∈ t, '0' ≤ c ∧ c ≤ '9') ↔ t.all isDigit = true := by
    simp only [List.all_eq_true, isDigit_iff]
  rw [hall]
  constructor
  · intro h
    have ht : t.all isDigit = true := List.all_eq_true.mpr (isDigit_of_digits h)
    rw [digits_eq (Nat.zero_le limit) ht] at h
    split at h
    · next hle =>
      cases h
      exact ⟨ht, rfl, hle⟩
    · cases h
  · rintro ⟨ht, rfl, hle⟩
    rw [digits_eq (Nat.zero_le limit) ht, if_pos hle]

/-- **What is read as a number**: its numerals, as long as it is within the bound. -/
theorem unsigned?_eq_some_iff {limit n : Nat} {t : Text} :
    unsigned? limit t = some n ↔ Denotes t n ∧ n ≤ limit := by
  have hok : unsigned? limit t = some n ↔ unsigned limit t = .ok n := by
    unfold unsigned?
    cases unsigned limit t <;> simp [Except.toOption]
  rw [hok]
  unfold unsigned
  split
  · simp [Denotes]
  · simp only [reduceCtorEq, false_iff]
    rintro ⟨⟨ds, rfl | hds, hne, hdigit, -⟩, -⟩
    · exact absurd (hdigit '+' List.mem_cons_self) (by decide)
    · exact hne (List.cons.inj hds).2.symm
  · next _ rest hne =>
    rw [digits_eq_ok_iff]
    constructor
    · rintro ⟨hdigit, hvalue, hle⟩
      refine ⟨⟨rest, Or.inr rfl, ?_, hdigit, hvalue⟩, hle⟩
      rintro rfl
      exact hne rfl
    · rintro ⟨⟨ds, rfl | hds, -, hdigit, hvalue⟩, hle⟩
      · exact absurd (hdigit '+' List.mem_cons_self) (by decide)
      · obtain rfl := (List.cons.inj hds).2
        exact ⟨hdigit, hvalue, hle⟩
  · next hnil _ hplus =>
    rw [digits_eq_ok_iff]
    constructor
    · rintro ⟨hdigit, hvalue, hle⟩
      exact ⟨⟨t, Or.inl rfl, hnil, hdigit, hvalue⟩, hle⟩
    · rintro ⟨⟨ds, rfl | hds, -, hdigit, hvalue⟩, hle⟩
      · exact ⟨hdigit, hvalue, hle⟩
      · exact absurd hds (hplus ds)

/-- A character that is neither a digit nor a plus sign stands in no numeral. -/
theorem Denotes.not_mem {t : Text} {n : Nat} (h : Denotes t n) {c : Char} (hplus : c ≠ '+')
    (hdigit : ¬ ('0' ≤ c ∧ c ≤ '9')) : c ∉ t := by
  obtain ⟨ds, rfl | rfl, -, hall, -⟩ := h
  · exact fun hc => hdigit (hall c hc)
  · intro hc
    rcases List.mem_cons.mp hc with rfl | hc
    · exact hplus rfl
    · exact hdigit (hall c hc)

/-- **A number in decimal** is a numeral of it. -/
theorem denotes_decimal (n : Nat) : Denotes (toString n).toList n := by
  have hdecimal : (toString n).toList = Nat.toDigits 10 n := by
    rw [Nat.toString_eq_repr, Nat.toList_repr]
  have hvalue : value 0 (Nat.toDigits 10 n) = n := by
    have hdigits := Nat.ofDigitChars_toDigits (b := 10) (n := n) (by decide) (by decide)
    rw [Nat.ofDigitChars] at hdigits
    simp only [value, Nat.mul_comm _ 10]
    exact hdigits
  rw [hdecimal]
  refine ⟨_, Or.inl rfl, Nat.toDigits_ne_nil, fun c hc => ?_, hvalue⟩
  have hdigit := Nat.isDigit_of_mem_toDigits (by decide) (by decide) hc
  simpa [Char.isDigit, Char.le_def] using hdigit

end FormCapture.Numeral
