import FormCapture.Bytes.Cursor

/-! # Cutting byte strings

A byte string is cut at a needle by the first occurrence of the needle (`CutAt`), and at a line end by
the first byte that ends a line (`LineCut`). Both cuts are unique, and both depend only on what stands
before the end of what is looked for: `cutAt_append_iff` says when `before` is cut off by a needle that
follows it, whatever comes afterwards.

The searches of a cursor find these cuts: `Cursor.find_of_cutAt`, `Cursor.find_of_not_infix`,
`Cursor.findLineEnd_of_lineCut`. -/

namespace FormCapture.Bytes

/-! ### Occurrences across a seam -/

/-- **A needle does not reach across a byte that it does not hold.** -/
theorem infix_append_cons_iff {needle a b : Bytes} {c : UInt8} (hc : c ∉ needle) :
    needle <:+: a ++ c :: b ↔ needle <:+: a ∨ needle <:+: b := by
  have hp : ∀ l, l <+: c :: b → c ∉ l → l = [] := by
    intro l hl hcl
    rcases List.prefix_cons_iff.mp hl with rfl | ⟨t, rfl, -⟩
    · rfl
    · simp at hcl
  constructor
  · intro h
    rcases List.infix_append_iff.mp h with h | h | ⟨l₁, l₂, rfl, h₁, h₂⟩
    · exact Or.inl h
    · rcases List.infix_cons_iff.mp h with h | h
      · left; rw [hp _ h hc]; exact List.nil_infix
      · exact Or.inr h
    · left
      rw [hp _ h₂ (by simp at hc; exact hc.2), List.append_nil]
      exact h₁.isInfix
  · rintro (h | h)
    · exact List.infix_append_of_infix_left h
    · exact List.infix_append_of_infix_right (List.infix_cons h)

/-- A needle that starts with a byte that `a` does not hold starts after `a`. -/
theorem infix_of_infix_append {c : UInt8} {needle a b : Bytes} (hc : c ∉ a)
    (h : c :: needle <:+: a ++ b) : c :: needle <:+: b := by
  rcases List.infix_append_iff.mp h with h | h | ⟨l₁, l₂, he, h₁, h₂⟩
  · exact absurd (h.subset (by simp)) hc
  · exact h
  · cases l₁ with
    | nil => rw [he, List.nil_append]; exact h₂.isInfix
    | cons d l₁ =>
      cases he
      exact absurd (h₁.subset (by simp)) hc

theorem not_infix_dropLast {needle : Bytes} (hn : needle ≠ []) : ¬ needle <:+: needle.dropLast := by
  intro h
  have hl := h.length_le
  have := List.length_pos_iff.mpr hn
  simp only [List.length_dropLast] at hl
  omega

/-! ### The first occurrence of a needle -/

/-- `text` is `before`, the needle and `after`, and the needle occurs nowhere earlier. -/
structure CutAt (needle text before after : Bytes) : Prop where
  eq : text = before ++ (needle ++ after)
  first : ∀ k < before.length, ¬ needle <+: text.drop k

theorem CutAt.unique {needle text before after before' after' : Bytes}
    (h : CutAt needle text before after) (h' : CutAt needle text before' after') :
    before = before' ∧ after = after' := by
  have hat : ∀ {b a}, CutAt needle text b a → needle <+: text.drop b.length := by
    intro b a h
    rw [h.eq, List.drop_left]
    exact List.prefix_append _ _
  have hl : before.length = before'.length := by
    rcases Nat.lt_trichotomy before.length before'.length with hlt | he | hlt
    · exact absurd (hat h) (h'.first _ hlt)
    · exact he
    · exact absurd (hat h') (h.first _ hlt)
  obtain ⟨hb, ha⟩ := List.append_inj (h.eq.symm.trans h'.eq) hl
  exact ⟨hb, List.append_cancel_left ha⟩

/-- **What cuts `before` off**: the needle does not begin within `before`, not even when it runs over
the end of it. What follows the needle does not matter. -/
theorem cutAt_append_iff {needle before after : Bytes} (hn : needle ≠ []) :
    CutAt needle (before ++ (needle ++ after)) before after ↔
      ¬ needle <:+: before ++ needle.dropLast := by
  have hpos := List.length_pos_iff.mpr hn
  have hwhole : before ++ (needle ++ after) =
      (before ++ needle.dropLast) ++ (needle.getLast hn :: after) := by
    have hlast := List.dropLast_concat_getLast hn
    rw [List.append_assoc, ← List.singleton_append, ← List.append_assoc needle.dropLast, hlast]
  constructor
  · rintro ⟨-, hfirst⟩ ⟨s, t, he⟩
    have hl := congrArg List.length he
    simp only [List.length_append, List.length_dropLast] at hl
    refine hfirst s.length (by omega) ?_
    rw [hwhole, ← he, List.append_assoc, List.append_assoc, List.drop_left]
    exact List.prefix_append _ _
  · intro hnot
    refine ⟨rfl, fun k hk hat => hnot ?_⟩
    obtain ⟨u, hu⟩ := hat
    have htext : before.take k ++ needle <+: before ++ (needle ++ after) := by
      refine ⟨u, ?_⟩
      rw [List.append_assoc, hu, List.drop_append_of_le_length (Nat.le_of_lt hk), ← List.append_assoc,
        List.take_append_drop]
    have hpre : before.take k ++ needle <+: before ++ needle.dropLast := by
      refine List.prefix_of_prefix_length_le htext ?_ ?_
      · exact hwhole ▸ List.prefix_append _ _
      · simp only [List.length_append, List.length_take, List.length_dropLast]
        omega
    exact (List.infix_append_right).trans hpre.isInfix

theorem CutAt.not_infix {needle text before after : Bytes} (hn : needle ≠ [])
    (h : CutAt needle text before after) : ¬ needle <:+: before := fun hin =>
  (cutAt_append_iff hn).mp (h.eq ▸ h) (hin.trans (List.prefix_append _ _).isInfix)

/-- What is cut off stays cut off when something else follows the needle. -/
theorem CutAt.retail {needle text before after : Bytes} (hn : needle ≠ [])
    (h : CutAt needle text before after) (after' : Bytes) :
    CutAt needle (before ++ (needle ++ after')) before after' :=
  (cutAt_append_iff hn).mpr ((cutAt_append_iff hn).mp (h.eq ▸ h))

/-- A needle cuts off what does not hold its first byte. -/
theorem cutAt_of_head_not_mem {c : UInt8} {needle before : Bytes} (hc : c ∉ before)
    (after : Bytes) : CutAt (c :: needle) (before ++ (c :: needle ++ after)) before after :=
  (cutAt_append_iff (by simp)).mpr fun h =>
    not_infix_dropLast (by simp) (infix_of_infix_append hc h)

/-- A needle cuts off what does not hold it, if the last byte of that is not in the needle. -/
theorem cutAt_of_last_not_mem {c : UInt8} {needle before : Bytes} (hn : needle ≠ [])
    (hc : c ∉ needle) (h : ¬ needle <:+: before) (after : Bytes) :
    CutAt needle ((before ++ [c]) ++ (needle ++ after)) (before ++ [c]) after := by
  refine (cutAt_append_iff hn).mpr fun hin => ?_
  rw [List.append_assoc, List.singleton_append, infix_append_cons_iff hc] at hin
  exact hin.elim h (not_infix_dropLast hn)

theorem CutAt.ne_nil {needle text before after : Bytes} (hn : needle ≠ [])
    (h : CutAt needle text before after) : text ≠ [] := by
  rw [h.eq]
  simp [hn]

theorem cutAt_nil (needle after : Bytes) : CutAt needle (needle ++ after) [] after :=
  ⟨rfl, by simp⟩

/-- A text that begins with the needle is cut before its first byte. -/
theorem CutAt.eq_nil_of_prefix {needle before after rest : Bytes}
    (h : CutAt needle (needle ++ rest) before after) : before = [] ∧ after = rest := by
  obtain ⟨hb, ha⟩ := h.unique (cutAt_nil needle rest)
  exact ⟨hb, ha⟩

theorem exists_cutAt {needle text : Bytes} (hn : needle ≠ []) (h : needle <:+: text) :
    ∃ before after, CutAt needle text before after := by
  cases hf : find text needle 0 text.length with
  | none =>
    obtain ⟨s, t, rfl⟩ := h
    refine absurd ?_ ((find_eq_none.mp hf).resolve_left hn s.length (Nat.zero_le _) (by simp))
    rw [List.append_assoc, List.drop_left]
    exact List.prefix_append _ _
  | some k =>
    obtain ⟨-, -, hle, ⟨after, hat⟩, hfirst⟩ := find_eq_some.mp hf
    have hk : (text.take k).length = k := by simp only [List.length_take]; omega
    refine ⟨text.take k, after, by rw [hat, List.take_append_drop], fun j hj => ?_⟩
    exact hfirst j (Nat.zero_le _) (hk ▸ hj)

/-! ### The first line end -/

/-- `line` holds no line end, and `rest` begins with one. -/
structure LineCut (line rest : Bytes) : Prop where
  line : ∀ b ∈ line, isLineEnd b = false
  rest : ∃ b more, rest = b :: more ∧ isLineEnd b = true

/-- A text holds no line end, or it is cut at its first one. -/
theorem lineCut_or (text : Bytes) :
    (∀ b ∈ text, isLineEnd b = false) ∨ ∃ line rest, text = line ++ rest ∧ LineCut line rest := by
  induction text with
  | nil => exact Or.inl (by simp)
  | cons b text ih =>
    cases hb : isLineEnd b with
    | true => exact Or.inr ⟨[], b :: text, rfl, by simp, b, text, rfl, hb⟩
    | false =>
      rcases ih with h | ⟨line, rest, rfl, h⟩
      · left
        intro d hd
        rcases List.mem_cons.mp hd with rfl | hd
        · exact hb
        · exact h d hd
      · refine Or.inr ⟨b :: line, rest, rfl, fun d hd => ?_, h.rest⟩
        rcases List.mem_cons.mp hd with rfl | hd
        · exact hb
        · exact h.line d hd

/-- A line stays cut off when the text changes, but not right after the line. -/
theorem LineCut.retail {line start rest : Bytes} (h : LineCut line (start ++ rest))
    (hs : start ≠ []) (rest' : Bytes) : LineCut line (start ++ rest') := by
  refine ⟨h.line, ?_⟩
  obtain ⟨b, more, he, hb⟩ := h.rest
  obtain ⟨d, start', rfl⟩ := List.exists_cons_of_ne_nil hs
  obtain ⟨rfl, -⟩ := List.cons.inj he
  exact ⟨d, start' ++ rest', rfl, hb⟩

theorem LineCut.rest_ne_nil {line rest : Bytes} (h : LineCut line rest) : rest ≠ [] := by
  obtain ⟨b, more, rfl, -⟩ := h.rest
  simp

theorem LineCut.findIdx? {line rest : Bytes} (h : LineCut line rest) :
    (line ++ rest).findIdx? isLineEnd = some line.length := by
  obtain ⟨hline, b, more, rfl, hb⟩ := h
  rw [List.findIdx?_append, List.findIdx?_eq_none_iff.mpr hline, List.findIdx?_cons, hb]
  simp

/-! ### The searches of a cursor -/

namespace Cursor

variable {whole : Bytes}

theorem rest_advance (c : Cursor whole) (n : Nat) : (c.advance n).rest = c.rest.drop n := by
  simp [advance, moveTo]

/-- Past a stretch, the rest is what follows it. -/
theorem rest_advance_of_eq {c : Cursor whole} {a b : Bytes} (h : c.rest = a ++ b) :
    (c.advance a.length).rest = b := by
  rw [rest_advance, h, List.drop_left]

theorem upTo_add (c : Cursor whole) (n : Nat) : c.upTo (c.offset + n) = c.rest.take n := by
  rw [upTo, Nat.add_sub_cancel_left]

theorem offset_lt_of_rest_ne_nil {c : Cursor whole} (h : c.rest ≠ []) :
    c.offset < whole.length := by
  rw [c.rest_eq] at h
  exact Nat.lt_of_not_le fun hle => h (List.drop_eq_nil_of_le hle)

theorem offset_add_length_rest {c : Cursor whole} (h : c.rest ≠ []) :
    c.offset + c.rest.length = whole.length := by
  have := offset_lt_of_rest_ne_nil h
  rw [c.rest_eq, List.length_drop]
  omega

theorem find_of_cutAt {c : Cursor whole} {needle before after : Bytes} (hn : needle ≠ [])
    (h : CutAt needle c.rest before after) :
    c.find needle c.size = some (c.offset + before.length) := by
  have hlen := offset_add_length_rest (h.ne_nil hn)
  rw [h.eq] at hlen
  simp only [List.length_append] at hlen
  rw [find_eq, find_eq_some]
  refine ⟨hn, Nat.le_add_right _ _, by rw [c.size_eq]; omega, ?_, fun j hj hlt => ?_⟩
  · rw [← List.drop_drop, ← c.rest_eq, h.eq, List.drop_left]
    exact List.prefix_append _ _
  · have := h.first (j - c.offset) (by omega)
    rwa [c.rest_eq, List.drop_drop, Nat.add_sub_cancel' hj] at this

theorem find_of_not_infix {c : Cursor whole} {needle : Bytes} (h : ¬ needle <:+: c.rest) :
    c.find needle c.size = none := by
  rw [find_eq, find_eq_none]
  refine Or.inr fun k hk _ hat => h ?_
  have hd : whole.drop k = c.rest.drop (k - c.offset) := by
    rw [c.rest_eq, List.drop_drop, Nat.add_sub_cancel' hk]
  exact (hd ▸ hat).isInfix.trans (List.drop_suffix _ _).isInfix

theorem findLineEnd_of_lineCut {c : Cursor whole} {line rest : Bytes} (he : c.rest = line ++ rest)
    (h : LineCut line rest) : c.findLineEnd = some (c.offset + line.length) := by
  rw [findLineEnd, he, h.findIdx?]
  rfl

theorem findLineEnd_of_none {c : Cursor whole} (h : ∀ b ∈ c.rest, isLineEnd b = false) :
    c.findLineEnd = none := by
  rw [findLineEnd, List.findIdx?_eq_none_iff.mpr h]
  rfl

end Cursor

end FormCapture.Bytes
