import FormCapture.Text.Case

/-! # Capital forms

White space and digits are their own capital form (`upperChar_of_isWhite`, `upperChar_of_digit`), and a text
that is a word of ASCII capitals in some letter case has the word as its capital form (`upper_of_map`). -/

namespace FormCapture.Text

variable {t : Text} {c : Char}

theorem upper_append (s t : Text) : upper (s ++ t) = upper s ++ upper t := List.flatMap_append

theorem upper_of_forall (h : ∀ c ∈ t, upperChar c = [c]) : upper t = t := by
  induction t with
  | nil => rfl
  | cons c t ih =>
    obtain ⟨hc, ht⟩ := List.forall_mem_cons.mp h
    have hrest : upper t = t := ih ht
    rw [upper] at hrest
    rw [upper, List.flatMap_cons, hc, hrest, List.singleton_append]

theorem upperChar_of_lt (h : c.toNat < 128) : upperChar c = [upperAsciiChar c] := if_pos h

theorem upperAsciiChar_of_not (h : ¬ ('a' ≤ c ∧ c ≤ 'z')) : upperAsciiChar c = c := if_neg h

theorem upperChar_of_digit (h : '0' ≤ c ∧ c ≤ '9') : upperChar c = [c] := by
  have hle : c.toNat ≤ 57 := h.2
  have hsmall : ¬ ('a' ≤ c ∧ c ≤ 'z') := by
    rintro ⟨hge, -⟩
    have hge' : 97 ≤ c.toNat := hge
    omega
  rw [upperChar_of_lt (by omega), upperAsciiChar_of_not hsmall]

/-! ### White space -/

/-- The code points of white space outside ASCII. -/
def whiteBeyond : List Nat :=
  [0x85, 0xA0, 0x1680, 0x2000, 0x2001, 0x2002, 0x2003, 0x2004, 0x2005, 0x2006, 0x2007, 0x2008, 0x2009, 0x200A,
    0x2028, 0x2029, 0x202F, 0x205F, 0x3000]

theorem toNat_of_isWhite (h : isWhite c = true) :
    (c.toNat < 128 ∧ c.toNat ≤ 0x20) ∨ c.toNat ∈ whiteBeyond := by
  simp only [isWhite, Bool.or_eq_true, Bool.and_eq_true, decide_eq_true_eq, beq_iff_eq] at h
  simp only [whiteBeyond, List.mem_cons, List.not_mem_nil, or_false]
  omega

/-- No table has a capital form for white space. -/
theorem no_form_of_whiteBeyond : ∀ n ∈ whiteBeyond,
    128 ≤ n ∧ upperLong.find? (·.1 == n) = none ∧ upperRuns.find? (·.has n) = none := by decide +kernel

theorem upperAsciiChar_of_isWhite (h : isWhite c = true) : upperAsciiChar c = c := by
  refine upperAsciiChar_of_not ?_
  rintro ⟨hge, hle⟩
  have hge' : 97 ≤ c.toNat := hge
  have hle' : c.toNat ≤ 122 := hle
  rcases toNat_of_isWhite h with ⟨-, hspace⟩ | hmem
  · omega
  · have := (no_form_of_whiteBeyond c.toNat hmem).1
    omega

theorem upperChar_of_isWhite (h : isWhite c = true) : upperChar c = [c] := by
  rcases toNat_of_isWhite h with ⟨hlt, -⟩ | hmem
  · rw [upperChar_of_lt hlt, upperAsciiChar_of_isWhite h]
  · obtain ⟨hge, hlong, hrun⟩ := no_form_of_whiteBeyond c.toNat hmem
    have hshift : shifted upperRuns c = none := by rw [shifted, hrun]; rfl
    unfold upperChar
    rw [if_neg (by omega), hlong, hshift]
    rfl

theorem isWhite_of_digit (h : '0' ≤ c ∧ c ≤ '9') : isWhite c = false := by
  have hge : 48 ≤ c.toNat := h.1
  have hle : c.toNat ≤ 57 := h.2
  rw [← Bool.not_eq_true]
  intro hwhite
  rcases toNat_of_isWhite hwhite with ⟨-, hspace⟩ | hmem
  · omega
  · have := (no_form_of_whiteBeyond c.toNat hmem).1
    omega

/-! ### Words in any letter case -/

theorem toNat_lt_of_upperAsciiChar (h : (upperAsciiChar c).toNat < 128) : c.toNat < 128 := by
  unfold upperAsciiChar at h
  split at h
  · next hsmall =>
    have hle : c.toNat ≤ 122 := hsmall.2
    omega
  · exact h

theorem upper_ascii (h : ∀ c ∈ t, c.toNat < 128) : upper t = t.map upperAsciiChar := by
  induction t with
  | nil => rfl
  | cons c t ih =>
    obtain ⟨hc, ht⟩ := List.forall_mem_cons.mp h
    have hrest : upper t = t.map upperAsciiChar := ih ht
    rw [upper] at hrest
    rw [upper, List.flatMap_cons, upperChar_of_lt hc, hrest, List.singleton_append, List.map_cons]

/-- **A word of ASCII capitals in any letter case** has the word as its capital form. -/
theorem upper_of_map {word : Text} (hword : ∀ c ∈ word, c.toNat < 128) (h : t.map upperAsciiChar = word) :
    upper t = word := by
  subst h
  exact upper_ascii fun c hc => toNat_lt_of_upperAsciiChar (hword _ (List.mem_map_of_mem hc))

end FormCapture.Text
