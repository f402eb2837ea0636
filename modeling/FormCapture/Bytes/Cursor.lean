import FormCapture.Bytes.Search

/-! # Cursors

A place in a byte string: its offset, with the bytes from there on at hand, so that a search that goes
on from a place need not walk there from the start. A cursor moves forward only.

What a cursor finds and cuts out is what is found and cut out at its offset: `find_eq`,
`findLineEnd_eq` and `upTo_eq_slice`. `Finder` is a search strategy, to be put in place of
`Cursor.find`. -/

namespace FormCapture.Bytes

/-- A place in `whole`. -/
structure Cursor (whole : Bytes) where
  offset : Nat
  rest : Bytes
  size : Nat
  rest_eq : rest = whole.drop offset
  size_eq : size = whole.length

namespace Cursor

variable {whole : Bytes}

def first (whole : Bytes) : Cursor whole := ⟨0, whole, whole.length, rfl, rfl⟩

def moveTo (c : Cursor whole) (k : Nat) (h : c.offset ≤ k) : Cursor whole where
  offset := k
  rest := c.rest.drop (k - c.offset)
  size := c.size
  rest_eq := by rw [c.rest_eq, List.drop_drop, Nat.add_sub_cancel' h]
  size_eq := c.size_eq

def advance (c : Cursor whole) (n : Nat) : Cursor whole :=
  c.moveTo (c.offset + n) (Nat.le_add_right _ _)

/-- The bytes from here up to offset `stop`, as far as there are any. -/
def upTo (c : Cursor whole) (stop : Nat) : Bytes := c.rest.take (stop - c.offset)

/-- The first offset from here on at which `needle` lies wholly before `stop`; an empty needle is
nowhere. -/
def find (c : Cursor whole) (needle : Bytes) (stop : Nat) : Option Nat :=
  if needle.isEmpty then none
  else firstMatch needle (stop + 1 - (c.offset + needle.length)) c.offset c.rest

/-- The first offset from here on that holds a carriage return or a line feed. -/
def findLineEnd (c : Cursor whole) : Option Nat :=
  (c.rest.findIdx? isLineEnd).map (c.offset + ·)

@[simp] theorem offset_first (whole : Bytes) : (first whole).offset = 0 := rfl

@[simp] theorem offset_moveTo (c : Cursor whole) (k : Nat) (h : c.offset ≤ k) :
    (c.moveTo k h).offset = k := rfl

@[simp] theorem offset_advance (c : Cursor whole) (n : Nat) :
    (c.advance n).offset = c.offset + n := rfl

theorem eq_of_offset_eq {c d : Cursor whole} (h : c.offset = d.offset) : c = d := by
  obtain ⟨i, r, n, hr, hn⟩ := c
  obtain ⟨j, s, m, hs, hm⟩ := d
  cases h
  subst hr hn hs hm
  rfl

theorem upTo_eq_slice (c : Cursor whole) (stop : Nat) :
    c.upTo stop = whole.slice c.offset stop := by
  rw [upTo, c.rest_eq, slice]

theorem find_eq (c : Cursor whole) (needle : Bytes) (stop : Nat) :
    c.find needle stop = Bytes.find whole needle c.offset stop := by
  rw [find, c.rest_eq, Bytes.find]

theorem findLineEnd_eq (c : Cursor whole) :
    c.findLineEnd = Bytes.findLineEnd whole c.offset whole.length := by
  unfold findLineEnd Bytes.findLineEnd
  rw [c.rest_eq]
  cases h : (whole.drop c.offset).findIdx? isLineEnd with
  | none => rfl
  | some k =>
    have hk := (List.findIdx?_eq_some_iff_findIdx_eq.mp h).1
    rw [List.length_drop] at hk
    exact (if_pos (by omega)).symm

theorem le_of_findLineEnd {c : Cursor whole} {k : Nat} (h : c.findLineEnd = some k) :
    c.offset ≤ k ∧ k < whole.length :=
  Bytes.le_of_findLineEnd (c.findLineEnd_eq ▸ h)

end Cursor

/-- A search strategy: the offset at which `needle` first occurs from a place on and before `stop`. -/
structure Finder where
  find : {haystack : Bytes} → (place : Cursor haystack) → (needle : Bytes) → (stop : Nat) → Option Nat

/-- The strategy that tries one offset after the other. -/
def Finder.linear : Finder := ⟨Cursor.find⟩

end FormCapture.Bytes
