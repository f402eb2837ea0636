import FormCapture.Stream.Source

/-! # Windows

The room that a stream has for the bytes of one read, and how far they have been handed out. A read
writes over the front of the storage, up to `filled`; the bytes before the cursor have been handed
out. What stands from `filled` on is left over from earlier reads.

`Window.unread` is what may still be handed out: the stretch from the cursor up to `filled`. What a
window gives (`next?`, `peek`) is the front of it, and `skip` moves past what was given. -/

namespace FormCapture

/-- Storage with a stretch of bytes that wait to be handed out. -/
structure Window where
  storage : Bytes := List.replicate capacity 0
  /-- The offset of the next byte to be handed out. -/
  cursor : Nat := 0
  /-- The offset at which the bytes of the last read end. -/
  filled : Nat := 0
  length_storage : storage.length = capacity := by simp
  cursor_le : cursor ≤ filled := by omega
  filled_le : filled ≤ capacity := by simp
  deriving DecidableEq, Repr

namespace Window

def empty : Window := {}

def unread (w : Window) : Bytes := w.storage.slice w.cursor w.filled

def isSpent (w : Window) : Bool := w.filled ≤ w.cursor

/-- Puts the bytes of a read at the front of the storage, none of them handed out yet. -/
def load (w : Window) (bytes : Bytes) (h : bytes.length ≤ capacity) : Window where
  storage := bytes ++ w.storage.drop bytes.length
  cursor := 0
  filled := bytes.length
  length_storage := by simp [w.length_storage, h]
  cursor_le := Nat.zero_le _
  filled_le := h

def next? (w : Window) : Option UInt8 := if w.isSpent then none else w.storage[w.cursor]?

/-- The bytes from the cursor on, up to a count, as far as they have not been handed out. -/
def peek (w : Window) (count : Nat) : Bytes :=
  w.storage.slice w.cursor (min (w.cursor + count) w.filled)

/-- Moves the cursor past a number of bytes, as far as there are any. -/
def skip (w : Window) (count : Nat) : Window where
  storage := w.storage
  cursor := min (w.cursor + count) w.filled
  filled := w.filled
  length_storage := w.length_storage
  cursor_le := Nat.min_le_right _ _
  filled_le := w.filled_le

/-! ### What is unread -/

theorem isSpent_iff {w : Window} : w.isSpent = true ↔ w.unread = [] := by
  have hs := w.length_storage
  have hf := w.filled_le
  have hlen := Bytes.length_slice w.storage w.cursor w.filled
  rw [← List.length_eq_zero_iff, unread, hlen, isSpent, decide_eq_true_iff]
  omega

theorem unread_load (w : Window) {bytes : Bytes} (h : bytes.length ≤ capacity) :
    (w.load bytes h).unread = bytes := by
  simp [unread, load, Bytes.slice]

theorem peek_eq (w : Window) (count : Nat) : w.peek count = w.unread.take count := by
  have hc := w.cursor_le
  rw [peek, unread, Bytes.slice, Bytes.slice, List.take_take]
  congr 1
  omega

theorem unread_skip (w : Window) (count : Nat) : (w.skip count).unread = w.unread.drop count := by
  have hc := w.cursor_le
  simp only [unread, skip, Bytes.slice, List.drop_take, List.drop_drop]
  rcases Nat.le_total (w.cursor + count) w.filled with h | h
  · rw [Nat.min_eq_left h, Nat.sub_add_eq]
  · have hleft : w.filled - min (w.cursor + count) w.filled = 0 := by omega
    have hright : w.filled - w.cursor - count = 0 := by omega
    rw [hleft, hright, List.take_zero, List.take_zero]

theorem peek_append_unread_skip (w : Window) (count : Nat) :
    w.peek count ++ (w.skip (w.peek count).length).unread = w.unread := by
  rw [unread_skip, peek_eq]
  have htake : w.unread.take (w.unread.take count).length = w.unread.take count := by
    rw [List.length_take, ← List.take_eq_take_min]
  calc w.unread.take count ++ w.unread.drop (w.unread.take count).length
      = w.unread.take (w.unread.take count).length
          ++ w.unread.drop (w.unread.take count).length := by rw [htake]
    _ = w.unread := List.take_append_drop _ _

theorem next?_eq (w : Window) : w.next? = w.unread.head? := by
  unfold next?
  split
  · next h => rw [isSpent_iff.mp h, List.head?_nil]
  · next h =>
    have hlt : 0 < w.filled - w.cursor := by
      have : ¬ w.filled ≤ w.cursor := by simpa [isSpent] using h
      omega
    rw [unread, Bytes.slice, List.head?_take, if_neg (Nat.ne_of_gt hlt), List.head?_drop]

theorem skip_zero (w : Window) : w.skip 0 = w := by
  simp only [skip, Nat.add_zero, Nat.min_eq_left w.cursor_le]

theorem skip_skip (w : Window) (m n : Nat) : (w.skip m).skip n = w.skip (m + n) := by
  have hc : min (min (w.cursor + m) w.filled + n) w.filled = min (w.cursor + (m + n)) w.filled := by
    omega
  simp only [skip, hc]

end Window

end FormCapture
