/-! # Tables

Entries under numbers that the table hands out itself. It counts up to a limit and then from 0 again, so
a number can come back; an entry that is still there under it gives way to the new one. The limit 0 is
that of a table that counts on for ever. `get?_issue`, `get?_set` and `get?_erase` say what is found after
each change. -/

namespace FormCapture

structure Table (limit : Nat) (α : Type) where
  /-- The latest first. -/
  entries : List (Nat × α)
  next : Nat
  deriving DecidableEq, Repr

namespace Table

variable {limit : Nat} {α : Type}

def empty (first : Nat) : Table limit α := ⟨[], first⟩

def get? (t : Table limit α) (n : Nat) : Option α := t.entries.lookup n

def size (t : Table limit α) : Nat := t.entries.length

/-- The table with another entry under a number that it has. -/
def set (t : Table limit α) (n : Nat) (a : α) : Table limit α :=
  { t with entries := t.entries.map fun e => if e.1 = n then (n, a) else e }

def erase (t : Table limit α) (n : Nat) : Table limit α :=
  { t with entries := t.entries.filter fun e => e.1 != n }

/-- The table with a new entry under the next number, in the place of one that is there. -/
def issue (t : Table limit α) (a : α) : Table limit α :=
  ⟨(t.next, a) :: (t.erase t.next).entries, (t.next + 1) % limit⟩

theorem lookup_map_set (n : Nat) (a : α) (m : Nat) : ∀ l : List (Nat × α),
    (l.map fun e => if e.1 = n then (n, a) else e).lookup m =
      if m = n then (l.lookup m).map fun _ => a else l.lookup m
  | [] => by simp
  | (k, b) :: l => by
    have ih := lookup_map_set n a m l
    by_cases hk : k = n
    · by_cases hm : m = n
      · subst hk hm
        simp
      · have hb : (m == n) = false := by simpa using hm
        subst hk
        simp only [List.map_cons, if_true, List.lookup_cons, hb, ih]
    · have hmk : ∀ h : m = k, ¬ m = n := fun h e => hk (h ▸ e)
      by_cases hm : m = k
      · subst hm
        simp [hk]
      · have hb : (m == k) = false := by simpa using hm
        simp only [List.map_cons, if_neg hk, List.lookup_cons, hb, ih]

theorem get?_set (t : Table limit α) (n : Nat) (a : α) (m : Nat) :
    (t.set n a).get? m = if m = n then (t.get? m).map fun _ => a else t.get? m :=
  lookup_map_set n a m t.entries

theorem lookup_filter_ne (n m : Nat) : ∀ l : List (Nat × α),
    (l.filter fun e => e.1 != n).lookup m = if m = n then none else l.lookup m
  | [] => by simp
  | (k, b) :: l => by
    have ih := lookup_filter_ne n m l
    by_cases hk : k = n
    · by_cases hm : m = n
      · subst hk
        simpa [List.filter_cons, hm] using ih
      · have hb : (m == k) = false := by simpa [hk] using hm
        simp [hk, hm, List.lookup_cons] at ih ⊢
        rw [ih]
        have hb' : (m == n) = false := by simpa using hm
        simp [hb']
    · by_cases hm : m = k
      · subst hm
        simp [hk]
      · have hb : (m == k) = false := by simpa using hm
        simp only [List.filter_cons, bne_iff_ne.mpr hk, if_true, List.lookup_cons, hb, ih]

theorem get?_erase (t : Table limit α) (n m : Nat) :
    (t.erase n).get? m = if m = n then none else t.get? m :=
  lookup_filter_ne n m t.entries

theorem get?_issue (t : Table limit α) (a : α) (n : Nat) :
    (t.issue a).get? n = if n = t.next then some a else t.get? n := by
  by_cases h : n = t.next
  · simp [get?, issue, h]
  · have hb : (n == t.next) = false := by simpa using h
    have herase : (t.erase t.next).entries.lookup n = t.entries.lookup n :=
      (lookup_filter_ne t.next n t.entries).trans (if_neg h)
    simp [get?, issue, h, List.lookup_cons, hb, herase]

-- the third entry gets the number of the first, and its place
example : (((empty 1 : Table 2 Nat).issue 5).issue 6).issue 7 = ⟨[(1, 7), (0, 6)], 0⟩ := by decide

end Table

end FormCapture
