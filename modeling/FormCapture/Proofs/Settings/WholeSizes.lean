import FormCapture.Settings.Size
import FormCapture.Proofs.Number.Rounding
import FormCapture.Proofs.Text.Capitals
import FormCapture.Proofs.Text.Parts
import Mathlib.Algebra.Group.Nat.Defs

/-! # Sizes that are whole numbers

A whole number with a unit (`Whole`) is put into capitals and the unit is taken off its end
(`splitUnit?_append`). If the digits spell a number of 64 bits, the size is exact or refused. If they do not, they
are no whole number for the reader, but they are a binary64 number still, and that is held to 64 bits: with a
unit behind it, a number of `2 ^ 64` and more is the largest size (`ofNumber?_digits`). Main statement:
`parse?_whole`. -/

namespace FormCapture

namespace Text

theorem dropEnding?_append (t ending : Text) : dropEnding? (t ++ ending) ending = some t := by
  have hsuffix : ending.isSuffixOf (t ++ ending) = true := List.isSuffixOf_iff_suffix.mpr ⟨t, rfl⟩
  rw [dropEnding?, if_pos hsuffix, List.length_append, Nat.add_sub_cancel, List.take_left]

theorem dropEnding?_eq_none {t ending : Text} (h : ¬ ending <:+ t) : dropEnding? t ending = none :=
  if_neg fun hsuffix => h (List.isSuffixOf_iff_suffix.mp hsuffix)

end Text

namespace Size

variable {t ds : Text} {name : String} {n power : Nat}

/-! ### The unit at the end -/

/-- The letters that units are written with. -/
def unitLetters : Text := ['T', 'G', 'M', 'K', 'B']

theorem letters_of_mem_units : ∀ u ∈ units, u.1.toList ⊆ unitLetters := by decide

theorem mem_of_mem_units : ∀ u ∈ units, 'B' ∈ u.1.toList := by decide

/-- Each unit has a letter that the ones after it do not have. -/
theorem units_pairwise : units.Pairwise fun u v => ¬ u.1.toList ⊆ v.1.toList := by decide

/-- No unit is found on a text without a `B`. -/
theorem splitUnit?_eq_none (ht : 'B' ∉ t) : splitUnit? t = none := by
  unfold splitUnit?
  rw [List.findSome?_eq_none_iff]
  intro u hu
  have hdrop : t.dropEnding? u.1.toList = none :=
    Text.dropEnding?_eq_none fun hsuffix => ht (hsuffix.subset (mem_of_mem_units u hu))
  simp only [hdrop, Option.map_none]

/-- **The unit is taken off** a text that has no letter of a unit before it: a unit that is tried before has a
letter that is nowhere in the text. -/
theorem splitUnit?_append (ht : ∀ c ∈ unitLetters, c ∉ t) (h : (name, power) ∈ units) :
    splitUnit? (t ++ name.toList) = some (t.trim, power) := by
  obtain ⟨earlier, later, hunits⟩ := List.append_of_mem h
  have horder := units_pairwise
  rw [hunits, List.pairwise_append] at horder
  have hearlier : ∀ u ∈ earlier, Text.dropEnding? (t ++ name.toList) u.1.toList = none := by
    intro u hu
    have hmem : u ∈ units := hunits ▸ List.mem_append_left _ hu
    refine Text.dropEnding?_eq_none fun hsuffix => ?_
    refine horder.2.2 u hu _ List.mem_cons_self fun d hd => ?_
    have hfree := ht d (letters_of_mem_units u hmem hd)
    exact (List.mem_append.mp (hsuffix.subset hd)).resolve_left hfree
  unfold splitUnit?
  rw [hunits, List.findSome?_append, List.findSome?_eq_none_iff.mpr]
  · simp only [List.findSome?_cons, Text.dropEnding?_append, Option.map_some, Option.none_or]
  · intro u hu
    simp only [hearlier u hu, Option.map_none]

theorem letter_cases {c : Char} (h : c ∈ unitLetters) :
    c.toNat < 128 ∧ ¬ ('0' ≤ c ∧ c ≤ '9') ∧ Text.isWhite c = false := by
  simp only [unitLetters, List.mem_cons, List.not_mem_nil, or_false] at h
  rcases h with rfl | rfl | rfl | rfl | rfl <;> exact ⟨by decide, by decide, rfl⟩

/-! ### The number before the unit -/

theorem le_max64_iff : n ≤ Numeral.max64 ↔ n < 2 ^ 64 := by
  unfold Numeral.max64 UInt64.size
  omega

theorem unsigned?_digits (hne : ds ≠ []) (hds : ∀ c ∈ ds, '0' ≤ c ∧ c ≤ '9') :
    Numeral.unsigned? Numeral.max64 ds =
      if Numeral.value 0 ds < 2 ^ 64 then some (Numeral.value 0 ds) else none := by
  have hdenotes : Numeral.Denotes ds (Numeral.value 0 ds) := ⟨ds, Or.inl rfl, hne, hds, rfl⟩
  split
  · next hlt => exact Numeral.unsigned?_eq_some_iff.mpr ⟨hdenotes, le_max64_iff.mpr hlt⟩
  · next hge =>
    rw [Option.eq_none_iff_forall_not_mem]
    intro n hn
    obtain ⟨⟨digits, htext, -, hdigits, rfl⟩, hle⟩ := Numeral.unsigned?_eq_some_iff.mp hn
    rcases htext with rfl | rfl
    · exact hge (le_max64_iff.mp hle)
    · exact absurd (hds '+' List.mem_cons_self) (by decide)

/-- **A number of 64 bits is multiplied by its unit or refused; a larger one is the largest size.** -/
theorem ofNumber?_digits (hne : ds ≠ []) (hds : ∀ c ∈ ds, '0' ≤ c ∧ c ≤ '9') (power : Nat) :
    ofNumber? ds power =
      if 2 ^ 64 ≤ Numeral.value 0 ds then some (2 ^ 64 - 1)
      else if Numeral.value 0 ds * 2 ^ power < 2 ^ 64 then some (Numeral.value 0 ds * 2 ^ power) else none := by
  unfold ofNumber?
  rw [unsigned?_digits hne hds]
  by_cases hlarge : 2 ^ 64 ≤ Numeral.value 0 ds
  · have hlog : 64 ≤ (Numeral.value 0 ds).log2 := (Nat.le_log2 (by omega)).mpr hlarge
    have hlimit : Numeral.max64 ≤ 2 ^ (Numeral.value 0 ds).log2 :=
      Nat.le_trans (by decide) (Nat.pow_le_pow_right (by omega) hlog)
    rw [if_neg (Nat.not_lt.mpr hlarge), if_pos hlarge, RealNumeral.parse?_digits hne hds]
    simp only [Bool.false_and, Bool.false_eq_true, if_false]
    rw [Binary64.floorScaled_ofDecimal (Nat.le_trans (by decide) hlog) hlimit]
    rfl
  · rw [if_pos (Nat.not_le.mp hlarge), if_neg hlarge]
    simp only [le_max64_iff, Nat.pow_eq]

/-! ### The text with its white space -/

def IsBlank (t : Text) : Prop := ∀ c ∈ t, Text.isWhite c = true

instance (t : Text) : Decidable (IsBlank t) := List.decidableBAll _ t

def IsDigits (t : Text) : Prop := ∀ c ∈ t, '0' ≤ c ∧ c ≤ '9'

instance (t : Text) : Decidable (IsDigits t) := List.decidableBAll _ t

/-- A whole number with a unit, as a text: digits and the name of a unit in any letter case, or no name for
bytes, with white space around them and between them. -/
structure Whole where
  before : Text
  digits : Text
  gap : Text
  unit : Text
  after : Text
  /-- The name of the unit in capitals. -/
  name : String
  /-- The power of two that the unit stands for. -/
  power : Nat
  blank_before : IsBlank before
  blank_gap : IsBlank gap
  blank_after : IsBlank after
  digits_ne_nil : digits ≠ []
  isDigits : IsDigits digits
  spelled : unit.map Text.upperAsciiChar = name.toList
  known : (name, power) ∈ [("", 0), ("B", 0), ("KB", 10), ("MB", 20), ("GB", 30), ("TB", 40)]

namespace Whole

/-- The text. -/
def text (w : Whole) : Text := w.before ++ w.digits ++ w.gap ++ w.unit ++ w.after

/-- The number that the digits spell. -/
def number (w : Whole) : Nat := Numeral.value 0 w.digits

variable (w : Whole)

theorem known_cases : w.name = "" ∧ w.power = 0 ∨ (w.name, w.power) ∈ units := by
  have h := w.known
  simp only [units, List.mem_cons, List.not_mem_nil, or_false, Prod.mk.injEq] at h ⊢
  tauto

theorem letters : w.name.toList ⊆ unitLetters := by
  rcases w.known_cases with ⟨hname, -⟩ | hknown
  · rw [hname]
    exact List.nil_subset _
  · exact letters_of_mem_units _ hknown

theorem unit_ne_nil (h : (w.name, w.power) ∈ units) : w.unit ≠ [] := by
  intro hnil
  have hB := mem_of_mem_units _ h
  rw [← w.spelled, hnil] at hB
  cases hB

theorem isWhite_of_mem_unit : ∀ c ∈ w.unit, Text.isWhite c = false := by
  intro c hc
  have hmem : Text.upperAsciiChar c ∈ w.name.toList := by
    rw [← w.spelled]
    exact List.mem_map_of_mem hc
  rw [← Bool.not_eq_true]
  intro hwhite
  rw [Text.upperAsciiChar_of_isWhite hwhite] at hmem
  rw [(letter_cases (w.letters hmem)).2.2] at hwhite
  cases hwhite

theorem not_mem_of_letter {c : Char} (hc : c ∈ unitLetters) : c ∉ w.digits ∧ c ∉ w.gap := by
  obtain ⟨-, hdigit, hwhite⟩ := letter_cases hc
  refine ⟨fun hmem => hdigit (w.isDigits c hmem), fun hmem => ?_⟩
  rw [w.blank_gap c hmem] at hwhite
  cases hwhite

theorem upper_unit : w.unit.upper = w.name.toList :=
  Text.upper_of_map (fun _ hc => (letter_cases (w.letters hc)).1) w.spelled

theorem upper_digits : w.digits.upper = w.digits :=
  Text.upper_of_forall fun c hc => Text.upperChar_of_digit (w.isDigits c hc)

/-- The white space around the text is cut off. -/
theorem trim_text : w.text.trim = Text.trim (w.digits ++ (w.gap ++ w.unit)) := by
  unfold text
  rw [Text.trim_append_forall w.blank_after]
  simp only [List.append_assoc]
  rw [Text.trim_forall_append w.blank_before]

/-- White space behind the digits is cut off. -/
theorem trim_digits : Text.trim (w.digits ++ w.gap) = w.digits := by
  have hdigits : ∀ c ∈ w.digits, Text.isWhite c = false := fun c hc => Text.isWhite_of_digit (w.isDigits c hc)
  rw [Text.trim_append_forall w.blank_gap, Text.trim_of_forall hdigits]

/-- The digits alone are left of a number without a unit. -/
theorem upper_of_bare (h : w.unit = []) : w.text.trim.upper = w.digits := by
  rw [trim_text, h, List.append_nil, trim_digits, upper_digits]

/-- Only the unit is changed of a number with a unit. -/
theorem upper_of_unit (h : w.unit ≠ []) : w.text.trim.upper = w.digits ++ w.gap ++ w.name.toList := by
  have hgap : w.gap.upper = w.gap :=
    Text.upper_of_forall fun c hc => Text.upperChar_of_isWhite (w.blank_gap c hc)
  have hfirst : ∀ c ∈ (w.digits ++ (w.gap ++ w.unit)).head?, Text.isWhite c = false := by
    intro c hc
    rw [List.head?_append_of_ne_nil _ w.digits_ne_nil] at hc
    exact Text.isWhite_of_digit (w.isDigits c (List.mem_of_head? hc))
  have hlast : ∀ c ∈ (w.digits ++ (w.gap ++ w.unit)).getLast?, Text.isWhite c = false := by
    intro c hc
    rw [← List.append_assoc, List.getLast?_append_of_ne_nil _ h] at hc
    exact w.isWhite_of_mem_unit c (List.mem_of_getLast? hc)
  rw [trim_text, Text.trim_of_ends hfirst hlast, Text.upper_append, Text.upper_append, upper_digits, hgap,
    upper_unit, List.append_assoc]

/-! ### What the text is read as -/

/-- **A number without a unit** is read as it is, or refused. -/
theorem parse?_of_bare (h : w.unit = []) :
    parse? w.text = if w.number < 2 ^ 64 then some w.number else none := by
  have hnone : splitUnit? w.digits = none := splitUnit?_eq_none (w.not_mem_of_letter (by decide)).1
  unfold parse?
  simp only [w.upper_of_bare h, hnone, unsigned?_digits w.digits_ne_nil w.isDigits]
  unfold number
  by_cases hlt : Numeral.value 0 w.digits < 2 ^ 64
  · rw [if_pos hlt]
  · rw [if_neg hlt]
    rfl

/-- **A number with a unit** is the number that its digits are read as. -/
theorem parse?_of_unit (h : (w.name, w.power) ∈ units) : parse? w.text = ofNumber? w.digits w.power := by
  have hB := mem_of_mem_units _ h
  have hletters : ∀ c ∈ unitLetters, c ∉ w.digits ++ w.gap := by
    intro c hc hmem
    obtain ⟨hdigits, hgap⟩ := w.not_mem_of_letter hc
    exact (List.mem_append.mp hmem).elim hdigits hgap
  -- The unit keeps the text from being a numeral as it stands.
  have hnone : Numeral.unsigned? Numeral.max64 (w.digits ++ w.gap ++ w.name.toList) = none := by
    rw [Option.eq_none_iff_forall_not_mem]
    intro n hn
    have hdenotes := (Numeral.unsigned?_eq_some_iff.mp hn).1
    exact hdenotes.not_mem (by decide) (by decide) (List.mem_append_right _ hB)
  have hsplit := splitUnit?_append hletters h
  rw [w.trim_digits] at hsplit
  unfold parse?
  simp only [w.upper_of_unit (w.unit_ne_nil h), hnone, hsplit, Option.bind_some]

end Whole

/-- **A whole number with a unit** is read as its size if that is within 64 bits and refused otherwise, as long
as its digits spell a number of 64 bits or no unit is written behind them. Larger digits with a unit behind them
are read as the largest size. -/
theorem parse?_whole (w : Whole) :
    parse? w.text =
      if w.unit ≠ [] ∧ 2 ^ 64 ≤ w.number then some (2 ^ 64 - 1)
      else if w.number * 2 ^ w.power < 2 ^ 64 then some (w.number * 2 ^ w.power) else none := by
  rcases w.known_cases with ⟨hname, hpower⟩ | hknown
  · have hunit : w.unit = [] := List.map_eq_nil_iff.mp (by rw [w.spelled, hname]; rfl)
    have hbare : ¬ (w.unit ≠ [] ∧ 2 ^ 64 ≤ w.number) := fun h => h.1 hunit
    rw [w.parse?_of_bare hunit, if_neg hbare, hpower, Nat.pow_zero, Nat.mul_one]
  · have hunit : w.unit ≠ [] := w.unit_ne_nil hknown
    rw [w.parse?_of_unit hknown, ofNumber?_digits w.digits_ne_nil w.isDigits, ← Whole.number]
    simp only [ne_eq, hunit, not_false_eq_true, true_and]

theorem parse?_whole_samples :
    parse? " 007\t kB ".toList = some 7168 ∧ parse? "18446744073709551615 B".toList = some 18446744073709551615 ∧
      parse? "16777216TB".toList = none := by
  refine ⟨?_, ?_, ?_⟩
  · exact (parse?_whole ⟨[' '], "007".toList, "\t ".toList, "kB".toList, [' '], "KB", 10,
      by decide, by decide, by decide, by decide, by decide, by decide, by decide⟩).trans (by decide +kernel)
  · exact (parse?_whole ⟨[], "18446744073709551615".toList, [' '], ['B'], [], "B", 0,
      by decide, by decide, by decide, by decide, by decide, by decide, by decide⟩).trans (by decide +kernel)
  · exact (parse?_whole ⟨[], "16777216".toList, [], "TB".toList, [], "TB", 40,
      by decide, by decide, by decide, by decide, by decide, by decide, by decide⟩).trans (by decide +kernel)

/-- The first number that is no number of 64 bits is a size in bytes if the unit is written, though not without
it, and though a smaller number is refused for the size that its unit makes of it. -/
theorem parse?_largeBytes :
    Numeral.value 0 "18446744073709551616".toList = 2 ^ 64 ∧
      parse? "18446744073709551616B".toList = some (2 ^ 64 - 1) ∧
      parse? "18446744073709551616".toList = none ∧ parse? "18446744073709551615KB".toList = none := by
  decide +kernel

end Size

end FormCapture
