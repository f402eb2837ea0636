import FormCapture.Bytes.Cursor
import FormCapture.Proofs.Bytes.Search

/-! # Searches within their bounds

A search is given two offsets, in any order and past the end of the byte string or not. `Checked.find` and
`Checked.contains` are the searches as they go through the offsets: they hold the end to the length of the
byte string, leave early where there is no room for the needle, and take bytes, stretches and differences,
each of which is checked. A byte that is not there, a stretch that is out of order or a difference below zero
would be a `Slip`.

`Checked.find_eq` and `Checked.contains_eq`: there is none, and what is found is what `find` and
`containsIgnoringCase` find. What that is depends on the stretch between the offsets alone
(`isSome_find_iff`). Main statement: `search_within`. -/

namespace FormCapture.Bytes

variable {haystack needle : Bytes} {start stop : Nat}

/-! ### Occurrences in a stretch -/

/-- The needle stands at offset `k`, wholly between `start` and `stop`, and nowhere earlier from `start` on. -/
structure IsFirst (haystack needle : Bytes) (start stop k : Nat) : Prop where
  ne_nil : needle ≠ []
  start_le : start ≤ k
  end_le : k + needle.length ≤ min stop haystack.length
  stands : needle <+: haystack.drop k
  first : ∀ j, start ≤ j → j < k → ¬ needle <+: haystack.drop j

theorem find_eq_some_iff_isFirst {k : Nat} :
    find haystack needle start stop = some k ↔ IsFirst haystack needle start stop k := by
  rw [find_eq_some]
  constructor
  · rintro ⟨hne, hstart, hend, hat, hfirst⟩
    have hlen := hat.length_le
    have hpos := List.length_pos_iff.mpr hne
    simp only [List.length_drop] at hlen
    exact ⟨hne, hstart, by omega, hat, hfirst⟩
  · rintro ⟨hne, hstart, hend, hat, hfirst⟩
    exact ⟨hne, hstart, by omega, hat, hfirst⟩

theorem map_slice (f : UInt8 → UInt8) (bytes : Bytes) (start stop : Nat) :
    (bytes.slice start stop).map f = Bytes.slice (bytes.map f) start stop := by
  simp only [slice, List.map_take, List.map_drop]

/-- A stretch ends where the byte string does. -/
theorem slice_min_length (bytes : Bytes) (start stop : Nat) :
    bytes.slice start (min stop bytes.length) = bytes.slice start stop := by
  have hlen : (bytes.drop start).length = bytes.length - start := List.length_drop
  rcases Nat.le_total stop bytes.length with h | h
  · rw [Nat.min_eq_left h]
  · rw [Nat.min_eq_right h, slice, slice, List.take_of_length_le (by omega),
      List.take_of_length_le (by omega)]

/-- **What occurs in a stretch** stands at an offset from which on it ends within the stretch. -/
theorem infix_slice_iff (hne : needle ≠ []) : needle <:+: haystack.slice start stop ↔
    ∃ k, start ≤ k ∧ k + needle.length ≤ stop ∧ needle <+: haystack.drop k := by
  have hpos := List.length_pos_iff.mpr hne
  constructor
  · rintro ⟨s, t, he⟩
    have hlen := congrArg List.length he
    rw [length_slice] at hlen
    simp only [List.length_append] at hlen
    have hcut : (haystack.slice start stop).drop s.length = needle ++ t := by
      rw [← he, List.append_assoc, List.drop_left]
    have hdrop : (haystack.slice start stop).drop s.length <+: haystack.drop (start + s.length) := by
      rw [slice, List.drop_take, List.drop_drop]
      exact List.take_prefix _ _
    refine ⟨start + s.length, by omega, by omega, ?_⟩
    exact (hcut ▸ List.prefix_append needle t).trans hdrop
  · rintro ⟨k, hstart, hend, hat⟩
    have hcut : (haystack.slice start stop).drop (k - start) = (haystack.drop k).take (stop - k) := by
      have hoffset : start + (k - start) = k := by omega
      have hsize : stop - start - (k - start) = stop - k := by omega
      rw [slice, List.drop_take, List.drop_drop, hoffset, hsize]
    have hin : needle <+: (haystack.slice start stop).drop (k - start) := by
      rw [hcut, List.prefix_take_iff]
      exact ⟨hat, by omega⟩
    exact hin.isInfix.trans (List.drop_suffix _ _).isInfix

/-- Something is found just if the needle occurs in the stretch. -/
theorem isSome_find_iff : (find haystack needle start stop).isSome = true ↔
    needle ≠ [] ∧ needle <:+: haystack.slice start stop := by
  rw [Option.isSome_iff_ne_none, ne_eq, find_eq_none, not_or]
  refine and_congr_right fun hne => ?_
  rw [infix_slice_iff hne]
  simp only [Classical.not_forall, Classical.not_not, exists_prop]

/-! ### Searches with checked offsets -/

namespace Checked

inductive Slip
  /-- A byte was taken that the byte string does not have. -/
  | byte
  /-- A stretch was taken that is out of order or goes past the end. -/
  | stretch
  /-- A difference was taken that is below zero. -/
  | difference
  deriving DecidableEq, Repr

def byteAt (bytes : Bytes) (offset : Nat) : Except Slip UInt8 :=
  match bytes[offset]? with
  | some b => .ok b
  | none => .error .byte

def stretch (bytes : Bytes) (start stop : Nat) : Except Slip Bytes :=
  if start ≤ stop ∧ stop ≤ bytes.length then .ok (bytes.slice start stop) else .error .stretch

def minus (m n : Nat) : Except Slip Nat := if n ≤ m then .ok (m - n) else .error .difference

/-- Whether the needle, which begins with `first`, stands at an offset. -/
def standsAt (haystack needle : Bytes) (first : UInt8) (offset : Nat) : Except Slip Bool := do
  let b ← byteAt haystack offset
  if b = first then
    let window ← stretch haystack offset (offset + needle.length)
    pure (decide (window = needle))
  else pure false

/-- The first of `tries` offsets in a row that passes a test. -/
def firstOf (test : Nat → Except Slip Bool) : (tries offset : Nat) → Except Slip (Option Nat)
  | 0, _ => pure none
  | tries + 1, offset => do
    if ← test offset then pure (some offset) else firstOf test tries (offset + 1)

/-- The first offset from `start` on at which `needle` lies wholly before `stop`. -/
def find (haystack needle : Bytes) (start stop : Nat) : Except Slip (Option Nat) := do
  let stop := min stop haystack.length
  if needle.isEmpty || decide (stop < start) then pure none
  else
    let room ← minus stop start
    if room < needle.length then pure none
    else
      let first ← byteAt needle 0
      let last ← minus stop needle.length
      firstOf (standsAt haystack needle first) (last + 1 - start) start

/-- The stretches of a length, from left to right. -/
def windows (bytes : Bytes) (size : Nat) : List Bytes :=
  (List.range (bytes.length + 1 - size)).map fun k => bytes.slice k (k + size)

/-- Whether `needle` occurs between `start` and `stop` when ASCII letter case is ignored. -/
def contains (haystack needle : Bytes) (start stop : Nat) : Except Slip Bool := do
  let stop := min stop haystack.length
  if needle.isEmpty then pure true
  else if stop < start then pure false
  else
    let room ← minus stop start
    if room < needle.length then pure false
    else
      let region ← stretch haystack start stop
      pure ((windows region needle.length).any fun window =>
        decide (window.map lowerAscii = needle.map lowerAscii))

/-! ### Nothing slips -/

theorem stretch_of_le {bytes : Bytes} (h₁ : start ≤ stop) (h₂ : stop ≤ bytes.length) :
    stretch bytes start stop = .ok (bytes.slice start stop) := if_pos ⟨h₁, h₂⟩

theorem minus_of_le {m n : Nat} (h : n ≤ m) : minus m n = .ok (m - n) := if_pos h

/-- The first byte is compared on its own, but that does not matter to the answer. -/
theorem standsAt_eq {c : UInt8} {tail : Bytes} {offset : Nat}
    (h : offset + (c :: tail).length ≤ haystack.length) :
    standsAt haystack (c :: tail) c offset = .ok (decide (c :: tail <+: haystack.drop offset)) := by
  have hlt : offset < haystack.length := by
    simp only [List.length_cons] at h
    omega
  have hbyte : byteAt haystack offset = .ok haystack[offset] := by
    unfold byteAt
    rw [List.getElem?_eq_getElem hlt]
  have hdrop : haystack.drop offset = haystack[offset] :: haystack.drop (offset + 1) :=
    List.drop_eq_getElem_cons hlt
  have hwindow : haystack.slice offset (offset + (c :: tail).length) =
      (haystack.drop offset).take (c :: tail).length := by
    rw [slice, Nat.add_sub_cancel_left]
  unfold standsAt
  simp only [hbyte, bind, Except.bind]
  by_cases hb : haystack[offset] = c
  · have hsame : (haystack.drop offset).take (c :: tail).length = c :: tail ↔
        c :: tail <+: haystack.drop offset := by
      rw [List.prefix_iff_eq_take, eq_comm]
    simp only [hb, if_true, stretch_of_le (Nat.le_add_right _ _) h, hwindow, hsame]
    rfl
  · have hnot : ¬ c :: tail <+: haystack.drop offset := by
      intro hat
      rw [hdrop, List.cons_prefix_cons] at hat
      exact hb hat.1.symm
    simp only [hb, if_false, hnot, decide_false]
    rfl

/-- The first of some offsets that a test passes, if the test never slips on them. -/
theorem firstOf_eq {test : Nat → Except Slip Bool} {p : Nat → Prop} [DecidablePred p] :
    ∀ {tries offset : Nat}, (∀ k, offset ≤ k → k < offset + tries → test k = .ok (decide (p k))) →
      ∃ found, firstOf test tries offset = .ok found ∧ ∀ k, found = some k ↔
        offset ≤ k ∧ k < offset + tries ∧ p k ∧ ∀ j, offset ≤ j → j < k → ¬ p j
  | 0, offset, _ => by
    refine ⟨none, rfl, fun k => ?_⟩
    constructor
    · intro h
      cases h
    · rintro ⟨h₁, h₂, -⟩
      omega
  | tries + 1, offset, htest => by
    have hhere := htest offset (Nat.le_refl _) (by omega)
    by_cases hp : p offset
    · have hfound : firstOf test (tries + 1) offset = .ok (some offset) := by
        simp only [firstOf, hhere, hp, decide_true, bind, Except.bind, if_true]
        rfl
      refine ⟨some offset, hfound, fun k => ?_⟩
      constructor
      · intro h
        cases h
        exact ⟨Nat.le_refl _, by omega, hp, fun j h₁ h₂ => absurd h₂ (by omega)⟩
      · rintro ⟨h₁, -, -, hmin⟩
        rcases Nat.eq_or_lt_of_le h₁ with rfl | hlt
        · rfl
        · exact absurd hp (hmin offset (Nat.le_refl _) hlt)
    · have hlater : ∀ k, offset + 1 ≤ k → k < offset + 1 + tries → test k = .ok (decide (p k)) :=
        fun k h₁ h₂ => htest k (by omega) (by omega)
      obtain ⟨found, hfound, hspec⟩ := firstOf_eq hlater
      have hnext : firstOf test (tries + 1) offset = .ok found := by
        simp only [firstOf, hhere, hp, decide_false, bind, Except.bind, Bool.false_eq_true, if_false,
          hfound]
      refine ⟨found, hnext, fun k => ?_⟩
      rw [hspec]
      constructor
      · rintro ⟨h₁, h₂, hat, hmin⟩
        refine ⟨by omega, by omega, hat, fun j hj hjk => ?_⟩
        rcases Nat.eq_or_lt_of_le hj with rfl | hlt
        · exact hp
        · exact hmin j (by omega) hjk
      · rintro ⟨h₁, h₂, hat, hmin⟩
        have hne : k ≠ offset := fun he => hp (he ▸ hat)
        exact ⟨by omega, by omega, hat, fun j hj hjk => hmin j (by omega) hjk⟩

/-- **No offset slips in a search**, and it finds what is to be found. -/
theorem find_eq (haystack needle : Bytes) (start stop : Nat) :
    find haystack needle start stop = .ok (Bytes.find haystack needle start stop) := by
  unfold find
  cases needle with
  | nil => simp [Bytes.find]; rfl
  | cons c tail =>
    have hsize : 0 < (c :: tail).length := List.length_pos_iff.mpr (List.cons_ne_nil c tail)
    by_cases hroom : start + (c :: tail).length ≤ min stop haystack.length
    · have htest : ∀ k, start ≤ k → k < start + (min stop haystack.length - (c :: tail).length + 1 - start) →
          standsAt haystack (c :: tail) c k = .ok (decide (c :: tail <+: haystack.drop k)) :=
        fun k h₁ h₂ => standsAt_eq (by omega)
      obtain ⟨found, hfound, hspec⟩ := firstOf_eq (p := fun k => c :: tail <+: haystack.drop k) htest
      have hsame : found = Bytes.find haystack (c :: tail) start stop := by
        refine Option.ext fun k => ?_
        rw [hspec, find_eq_some_iff_isFirst]
        constructor
        · rintro ⟨h₁, h₂, hat, hmin⟩
          exact ⟨List.cons_ne_nil c tail, h₁, by omega, hat, hmin⟩
        · rintro ⟨-, h₁, h₂, hat, hmin⟩
          exact ⟨h₁, by omega, hat, hmin⟩
      have hstart : ¬ min stop haystack.length < start := by omega
      have hfits : ¬ min stop haystack.length - start < (c :: tail).length := by omega
      have hlast : (c :: tail).length ≤ min stop haystack.length := by omega
      have hfirst : byteAt (c :: tail) 0 = .ok c := rfl
      simp only [List.isEmpty_cons, Bool.false_or, decide_eq_true_eq, hstart, if_false,
        minus_of_le (Nat.le_of_not_lt hstart), bind, Except.bind, hfits, hfirst, minus_of_le hlast, hfound,
        hsame]
    · have hnone : Bytes.find haystack (c :: tail) start stop = none := by
        rw [Option.eq_none_iff_forall_ne_some]
        intro k hk
        obtain ⟨-, h₁, h₂, -, -⟩ := find_eq_some_iff_isFirst.mp hk
        omega
      rw [hnone]
      by_cases hstart : min stop haystack.length < start
      · simp only [List.isEmpty_cons, Bool.false_or, decide_eq_true_eq, hstart, if_true]
        rfl
      · have hfits : min stop haystack.length - start < (c :: tail).length := by omega
        simp only [List.isEmpty_cons, Bool.false_or, decide_eq_true_eq, hstart, if_false,
          minus_of_le (Nat.le_of_not_lt hstart), bind, Except.bind, hfits, if_true]
        rfl

theorem any_windows_iff (hne : needle ≠ []) (bytes : Bytes) :
    (windows bytes needle.length).any
        (fun window => decide (window.map lowerAscii = needle.map lowerAscii)) = true ↔
      needle.map lowerAscii <:+: bytes.map lowerAscii := by
  have hpos := List.length_pos_iff.mpr hne
  have hlower : needle.map lowerAscii ≠ [] := by simpa using hne
  have hwhole : Bytes.slice (bytes.map lowerAscii) 0 bytes.length = bytes.map lowerAscii :=
    List.take_of_length_le (by simp)
  rw [← hwhole, infix_slice_iff hlower]
  simp only [windows, List.any_map, List.any_eq_true, List.mem_range, Function.comp_apply,
    decide_eq_true_eq, map_slice, List.length_map]
  constructor
  · rintro ⟨k, hk, he⟩
    refine ⟨k, Nat.zero_le k, by omega, ?_⟩
    rw [← he, slice]
    exact List.take_prefix _ _
  · rintro ⟨k, -, hk, hat⟩
    refine ⟨k, by omega, ?_⟩
    rw [slice, Nat.add_sub_cancel_left]
    have htake := List.prefix_iff_eq_take.mp hat
    rw [List.length_map] at htake
    exact htake.symm

/-- **Nor does one slip when letter case is ignored.** -/
theorem contains_eq (haystack needle : Bytes) (start stop : Nat) :
    contains haystack needle start stop = .ok (containsIgnoringCase haystack needle start stop) := by
  unfold contains containsIgnoringCase
  cases needle with
  | nil => rfl
  | cons c tail =>
    have hne : c :: tail ≠ [] := List.cons_ne_nil c tail
    have hlen := length_slice haystack start stop
    have hoccurs : occursIgnoringCase (c :: tail) (haystack.slice start stop) = true ↔
        (c :: tail).map lowerAscii <:+: (haystack.slice start stop).map lowerAscii := occursIgnoringCase_iff hne
    by_cases hroom : start + (c :: tail).length ≤ min stop haystack.length
    · have hstart : ¬ min stop haystack.length < start := by omega
      have hfits : ¬ min stop haystack.length - start < (c :: tail).length := by omega
      have hregion : stretch haystack start (min stop haystack.length) =
          .ok (haystack.slice start (min stop haystack.length)) :=
        stretch_of_le (Nat.le_of_not_lt hstart) (Nat.min_le_right _ _)
      have hany := any_windows_iff hne (haystack.slice start stop)
      have hsame := Bool.eq_iff_iff.mpr (hany.trans hoccurs.symm)
      simp only [List.isEmpty_cons, Bool.false_eq_true, if_false, hstart,
        minus_of_le (Nat.le_of_not_lt hstart), bind, Except.bind, hfits, hregion, slice_min_length,
        Bool.false_or, hsame]
      rfl
    · have hnot : occursIgnoringCase (c :: tail) (haystack.slice start stop) = false := by
        rw [← Bool.not_eq_true, hoccurs]
        intro hin
        have hle := hin.length_le
        simp only [List.length_map, hlen] at hle
        have hpos := List.length_pos_iff.mpr hne
        omega
      rw [hnot]
      by_cases hstart : min stop haystack.length < start
      · simp only [List.isEmpty_cons, Bool.false_eq_true, if_false, hstart, if_true]
        rfl
      · have hfits : min stop haystack.length - start < (c :: tail).length := by omega
        simp only [List.isEmpty_cons, Bool.false_eq_true, if_false, hstart,
          minus_of_le (Nat.le_of_not_lt hstart), bind, Except.bind, hfits, if_true]
        rfl

end Checked

/-! ### What is found -/

/-- Letter case is ignored by searching in small letters. -/
theorem containsIgnoringCase_eq (haystack needle : Bytes) (start stop : Nat) :
    containsIgnoringCase haystack needle start stop = (needle.isEmpty ||
      (find (haystack.map lowerAscii) (needle.map lowerAscii) start stop).isSome) := by
  unfold containsIgnoringCase
  cases needle with
  | nil => rfl
  | cons c tail =>
    have hne : c :: tail ≠ [] := List.cons_ne_nil c tail
    have hlower : (c :: tail).map lowerAscii ≠ [] := List.cons_ne_nil _ _
    rw [List.isEmpty_cons, Bool.false_or, Bool.false_or, Bool.eq_iff_iff, occursIgnoringCase_iff hne,
      isSome_find_iff, map_slice]
    exact ⟨fun h => ⟨hlower, h⟩, fun h => h.2⟩

/-- **A search meets its contract for all offsets.** No byte, stretch or difference that it takes is out of
range, and it finds the first occurrence of the needle that lies between the two offsets and within the byte
string, whichever place the search goes on from; it finds none just if there is none. A search that ignores
ASCII letter case finds a needle just if the same search finds it in small letters, and its answer is that for
the stretch between the offsets alone. -/
theorem search_within (haystack needle : Bytes) (start stop : Nat) :
    Checked.find haystack needle start stop = .ok (find haystack needle start stop) ∧
    (∀ place : Cursor haystack, Finder.linear.find place needle stop = find haystack needle place.offset stop) ∧
    (∀ k, find haystack needle start stop = some k ↔ IsFirst haystack needle start stop k) ∧
    (find haystack needle start stop = none ↔ ∀ k, ¬ IsFirst haystack needle start stop k) ∧
    Checked.contains haystack needle start stop = .ok (containsIgnoringCase haystack needle start stop) ∧
    containsIgnoringCase haystack needle start stop = (needle.isEmpty ||
      (find (haystack.map lowerAscii) (needle.map lowerAscii) start stop).isSome) ∧
    containsIgnoringCase haystack needle start stop =
      containsIgnoringCase (haystack.slice start stop) needle 0 (stop - start) := by
  refine ⟨Checked.find_eq _ _ _ _, fun place => place.find_eq needle stop,
    fun k => find_eq_some_iff_isFirst, ?_, Checked.contains_eq _ _ _ _, containsIgnoringCase_eq _ _ _ _, ?_⟩
  · rw [Option.eq_none_iff_forall_ne_some]
    exact forall_congr' fun k => not_congr find_eq_some_iff_isFirst
  · have hsize : (haystack.slice start stop).length ≤ stop - start := by
      rw [length_slice]
      omega
    have hwhole : Bytes.slice (haystack.slice start stop) 0 (stop - start) = haystack.slice start stop :=
      List.take_of_length_le hsize
    rw [containsIgnoringCase, containsIgnoringCase, hwhole]

example : find (ofAscii "0123--ab") (ofAscii "--ab") 0 100 = some 4 := by decide

end FormCapture.Bytes
