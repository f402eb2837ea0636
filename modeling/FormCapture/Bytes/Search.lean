import FormCapture.Bytes.Basic

/-! # Searching bytes

Literal search in a stretch of a byte string. Each search is given the whole byte string and two
offsets `start` and `stop`; it looks only at the bytes between them, and an offset past the end
counts as the end. The first occurrence wins.

`find` reports where a needle occurs, `findLineEnd` where the first line end stands, and
`containsIgnoringCase` whether a needle occurs in any ASCII letter case. Main statements:
`find_eq_some` and `find_eq_none`. -/

namespace FormCapture.Bytes

/-! ### A needle -/

/-- The first of `tries` positions, counted from `offset` on, at which `needle` is a prefix of what
remains. -/
def firstMatch (needle : Bytes) : (tries offset : Nat) → Bytes → Option Nat
  | 0, _, _ => none
  | _ + 1, _, [] => none
  | tries + 1, offset, b :: rest =>
    if needle.isPrefixOf (b :: rest) then some offset
    else firstMatch needle tries (offset + 1) rest

/-- The first offset from `start` on at which `needle` lies wholly before `stop`; an empty needle is
nowhere. -/
def find (haystack needle : Bytes) (start stop : Nat) : Option Nat :=
  if needle.isEmpty then none
  else firstMatch needle (stop + 1 - (start + needle.length)) start (haystack.drop start)

theorem firstMatch_eq_none {needle : Bytes} : ∀ {tries offset : Nat} {rest : Bytes},
    firstMatch needle tries offset rest = none ↔
      ∀ k < tries, k < rest.length → ¬ needle <+: rest.drop k
  | 0, _, _ => by simp [firstMatch]
  | _ + 1, _, [] => by simp [firstMatch]
  | tries + 1, offset, b :: rest => by
    unfold firstMatch
    split
    · next h =>
      simp only [reduceCtorEq, false_iff]
      intro hall
      exact hall 0 (by omega) (by simp) (by simpa using List.isPrefixOf_iff_prefix.mp h)
    · next h =>
      rw [firstMatch_eq_none]
      constructor
      · intro hall k hk hl
        cases k with
        | zero => simpa [List.isPrefixOf_iff_prefix] using h
        | succ k => simpa using hall k (by omega) (by simpa using hl)
      · intro hall k hk hl
        simpa using hall (k + 1) (by omega) (by simpa using hl)

theorem firstMatch_eq_some {needle : Bytes} : ∀ {tries offset at' : Nat} {rest : Bytes},
    firstMatch needle tries offset rest = some at' ↔
      ∃ k < tries, k < rest.length ∧ at' = offset + k ∧ needle <+: rest.drop k ∧
        ∀ j < k, ¬ needle <+: rest.drop j
  | 0, _, _, _ => by simp [firstMatch]
  | _ + 1, _, _, [] => by simp [firstMatch]
  | tries + 1, offset, at', b :: rest => by
    unfold firstMatch
    split
    · next h =>
      have hp : needle <+: b :: rest := List.isPrefixOf_iff_prefix.mp h
      constructor
      · rintro ⟨⟩
        exact ⟨0, by omega, by simp, rfl, by simpa using hp, by simp⟩
      · rintro ⟨k, -, -, rfl, -, hmin⟩
        cases k with
        | zero => rfl
        | succ k => exact absurd (by simpa using hp) (hmin 0 (by omega))
    · next h =>
      have hp : ¬ needle <+: b :: rest := fun hp => h (List.isPrefixOf_iff_prefix.mpr hp)
      rw [firstMatch_eq_some]
      constructor
      · rintro ⟨k, hk, hl, rfl, hat, hmin⟩
        refine ⟨k + 1, by omega, by simpa using hl, by omega, by simpa using hat, fun j hj => ?_⟩
        cases j with
        | zero => simpa using hp
        | succ j => simpa using hmin j (by omega)
      · rintro ⟨k, hk, hl, rfl, hat, hmin⟩
        cases k with
        | zero => exact absurd (by simpa using hat) hp
        | succ k =>
          exact ⟨k, by omega, by simpa using hl, by omega, by simpa using hat,
            fun j hj => by simpa using hmin (j + 1) (by omega)⟩

theorem find_eq_some {haystack needle : Bytes} {start stop at' : Nat} :
    find haystack needle start stop = some at' ↔
      needle ≠ [] ∧ start ≤ at' ∧ at' + needle.length ≤ stop ∧ needle <+: haystack.drop at' ∧
        ∀ j, start ≤ j → j < at' → ¬ needle <+: haystack.drop j := by
  unfold find
  cases needle with
  | nil => simp
  | cons c needle =>
    simp only [List.isEmpty_cons, Bool.false_eq_true, if_false, firstMatch_eq_some,
      List.drop_drop, ne_eq, reduceCtorEq, not_false_eq_true, true_and]
    constructor
    · rintro ⟨k, hk, hl, rfl, hat, hmin⟩
      refine ⟨by omega, by omega, hat, fun j hj hjk => ?_⟩
      have := hmin (j - start) (by omega)
      rwa [show start + (j - start) = j by omega] at this
    · rintro ⟨hs, he, hat, hmin⟩
      refine ⟨at' - start, by omega, ?_, by omega, ?_, fun j hj => hmin (start + j) (by omega)
        (by omega)⟩
      · have := hat.length_le
        simp only [List.length_cons, List.length_drop] at this ⊢
        omega
      · rwa [show start + (at' - start) = at' by omega]

theorem find_eq_none {haystack needle : Bytes} {start stop : Nat} :
    find haystack needle start stop = none ↔
      needle = [] ∨ ∀ k, start ≤ k → k + needle.length ≤ stop → ¬ needle <+: haystack.drop k := by
  unfold find
  cases needle with
  | nil => simp
  | cons c needle =>
    simp only [List.isEmpty_cons, Bool.false_eq_true, if_false, firstMatch_eq_none,
      List.drop_drop, reduceCtorEq, false_or]
    constructor
    · intro hall k hs he hat
      have hl := hat.length_le
      simp only [List.length_cons, List.length_drop] at hl he
      refine hall (k - start) (by simp only [List.length_cons]; omega)
        (by simp only [List.length_drop]; omega) ?_
      rwa [show start + (k - start) = k by omega]
    · intro hall k hk _
      exact hall (start + k) (by omega) (by omega)

/-! ### Line ends -/

def isLineEnd (b : UInt8) : Bool := b == cr || b == lf

/-- The first offset from `start` on and before `stop` that holds a carriage return or a line
feed. -/
def findLineEnd (haystack : Bytes) (start stop : Nat) : Option Nat :=
  match (haystack.drop start).findIdx? isLineEnd with
  | none => none
  | some k => if start + k < stop then some (start + k) else none

theorem le_of_findLineEnd {haystack : Bytes} {start stop at' : Nat}
    (h : findLineEnd haystack start stop = some at') : start ≤ at' ∧ at' < stop := by
  unfold findLineEnd at h
  split at h
  · cases h
  · split at h
    · cases h
      exact ⟨Nat.le_add_right _ _, by assumption⟩
    · cases h

/-! ### Letter case -/

/-- Whether `needle` is a prefix of the second byte string when ASCII letter case is ignored. -/
def isPrefixIgnoringCase : Bytes → Bytes → Bool
  | [], _ => true
  | _ :: _, [] => false
  | a :: needle, b :: rest => lowerAscii a == lowerAscii b && isPrefixIgnoringCase needle rest

/-- Whether a non-empty `needle` occurs in the bytes when ASCII letter case is ignored. -/
def occursIgnoringCase (needle : Bytes) : Bytes → Bool
  | [] => false
  | b :: rest => isPrefixIgnoringCase needle (b :: rest) || occursIgnoringCase needle rest

/-- Whether `needle` occurs between `start` and `stop` when ASCII letter case is ignored; an empty
needle is everywhere. -/
def containsIgnoringCase (haystack needle : Bytes) (start stop : Nat) : Bool :=
  needle.isEmpty || occursIgnoringCase needle (haystack.slice start stop)

end FormCapture.Bytes
