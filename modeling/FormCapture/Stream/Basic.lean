import FormCapture.Stream.Window

/-! # Streams

A stream reads a source through a buffer, the unread bytes of its window. Whenever the buffer is empty
it is filled by one read, whose wait has been bounded before the first read of all; a read that gives
no bytes, for whatever reason, leaves the window as it is and ends the operation that asked for it with
what it has, and the next operation tries again. Nothing that a source does is an error.

`Stream.remaining` is the bytes that a stream has still to hand out: those in its buffer and those
its source holds. Main statements: `remaining_readByte` and `remaining_readUpTo`, by which operations
take bytes from its front, none lost and none twice. -/

namespace FormCapture

/-- The wait of a stream that asks for no other, in milliseconds. -/
def defaultWait : Nat := 5000

/-- The state of a stream apart from its source. -/
structure Reader where
  window : Window := .empty
  closed : Bool := false
  /-- The bound on the wait of each read, in milliseconds. -/
  wait : Nat := defaultWait
  /-- Whether the source has accepted that bound. -/
  waitApplied : Bool := false
  deriving DecidableEq, Repr

def Reader.buffer (r : Reader) : Bytes := r.window.unread

structure Stream extends Reader where
  source : Source
  deriving DecidableEq, Repr

namespace Stream

def openOn (source : Source) (wait : Nat := defaultWait) : Stream :=
  { window := .empty, closed := false, wait := wait, waitApplied := false, source := source }

def remaining (s : Stream) : Bytes := s.buffer ++ s.source.held

/-! ### Filling the buffer -/

/-- Bounds the wait of the source, once. -/
def applyWait (s : Stream) : Stream :=
  if s.waitApplied then s
  else
    let (accepted, source) := s.source.setWait s.wait
    { s with waitApplied := accepted, source := source }

/-- One read into the window. A read without bytes does not touch it. -/
def load (s : Stream) : Stream :=
  let source := s.source.read.2
  if s.source.read.1.isEmpty then { s with source := source }
  else { s with window := s.window.load s.source.read.1 s.source.length_read_le, source := source }

/-- One bounded read into an empty buffer. -/
def refill (s : Stream) : Stream :=
  if s.closed then s
  else if s.applyWait.waitApplied then s.applyWait.load
  else s.applyWait

/-- Fills the buffer if it is empty. It is still empty afterwards if no bytes came. -/
def fill (s : Stream) : Stream := if s.window.isSpent then s.refill else s

theorem remaining_applyWait (s : Stream) : s.applyWait.remaining = s.remaining := by
  unfold applyWait
  split <;> rfl

theorem buffer_applyWait (s : Stream) : s.applyWait.buffer = s.buffer := by
  unfold applyWait
  split <;> rfl

theorem source_load (s : Stream) : s.load.source = s.source.read.2 := by
  unfold load
  split <;> rfl

/-- A read into an empty buffer leaves there what it has brought. -/
theorem buffer_load {s : Stream} (h : s.buffer = []) : s.load.buffer = s.source.read.1 := by
  unfold load
  split
  · next hread => exact h.trans (List.isEmpty_iff.mp hread).symm
  · exact Window.unread_load _ _

theorem remaining_load {s : Stream} (h : s.buffer = []) : s.load.remaining = s.remaining := by
  rw [remaining, remaining, buffer_load h, source_load, h, Source.read_append_held, List.nil_append]

theorem remaining_fill (s : Stream) : s.fill.remaining = s.remaining := by
  unfold fill
  split
  · next h =>
    have hb : s.buffer = [] := Window.isSpent_iff.mp h
    unfold refill
    split
    · rfl
    · split
      · rw [← remaining_applyWait s]
        exact remaining_load ((buffer_applyWait s).trans hb)
      · exact remaining_applyWait s
  · rfl

/-! ### Single bytes -/

/-- The stream with the first bytes of its buffer handed out. -/
def skip (s : Stream) (count : Nat) : Stream := { s with window := s.window.skip count }

theorem buffer_skip (s : Stream) (count : Nat) : (s.skip count).buffer = s.buffer.drop count :=
  s.window.unread_skip count

def readByte (s : Stream) : Option UInt8 × Stream :=
  match s.fill.window.next? with
  | none => (none, s.fill)
  | some b => (some b, s.fill.skip 1)

theorem readByte_of_nil {s : Stream} (h : s.fill.buffer = []) : s.readByte = (none, s.fill) := by
  have hnext : s.fill.window.next? = none := by
    rw [Window.next?_eq]
    exact congrArg List.head? h
  simp only [readByte, hnext]

theorem readByte_of_cons {s : Stream} {b : UInt8} {rest : Bytes} (h : s.fill.buffer = b :: rest) :
    s.readByte = (some b, s.fill.skip 1) := by
  have hnext : s.fill.window.next? = some b := by
    rw [Window.next?_eq]
    exact congrArg List.head? h
  simp only [readByte, hnext]

theorem remaining_readByte (s : Stream) :
    s.readByte.1.toList ++ s.readByte.2.remaining = s.remaining := by
  rw [← remaining_fill s]
  cases h : s.fill.buffer with
  | nil =>
    rw [readByte_of_nil h]
    rfl
  | cons b rest =>
    rw [readByte_of_cons h, remaining, remaining, buffer_skip, h]
    rfl

theorem length_remaining_of_readByte {s t : Stream} {b : UInt8} (h : s.readByte = (some b, t)) :
    t.remaining.length < s.remaining.length := by
  have := remaining_readByte s
  rw [h] at this
  rw [← this]
  simp

/-! ### Many bytes -/

/-- Bytes up to a count, fewer if no bytes came where some were missing. -/
def readUpTo (s : Stream) (count : Nat) : Bytes × Stream :=
  if _h : count = 0 then ([], s)
  else
    let t := s.fill
    match t.window.peek count with
    | [] => ([], t)
    | b :: rest =>
      let (more, u) := readUpTo (t.skip (b :: rest).length) (count - (b :: rest).length)
      (b :: rest ++ more, u)
termination_by count
decreasing_by
  simp only [List.length_cons]
  omega

/-- Bytes up to a count; none if some were asked for and not one came. -/
def readBytes (s : Stream) (count : Nat) : Option Bytes × Stream :=
  let (got, t) := s.readUpTo count
  (if count != 0 && got.isEmpty then none else some got, t)

theorem remaining_readUpTo (s : Stream) (count : Nat) :
    (s.readUpTo count).1 ++ (s.readUpTo count).2.remaining = s.remaining := by
  fun_induction readUpTo s count with
  | case1 => rfl
  | case2 s count h t hgot => exact remaining_fill s
  | case3 s count h t b rest hgot more u hu ih =>
    rw [hu] at ih
    have hcut : b :: rest ++ (s.fill.skip (b :: rest).length).buffer = s.fill.buffer := by
      have := s.fill.window.peek_append_unread_skip count
      rwa [hgot] at this
    rw [List.append_assoc, ih, ← remaining_fill s, remaining, ← List.append_assoc, hcut]
    rfl

/-- All bytes until none come. -/
def drain (s : Stream) : Bytes × Stream := s.readUpTo (s.remaining.length + 1)

/-- Gives up the buffer. The source is left as it is, and later reads find no bytes. -/
def close (s : Stream) : Stream := { s with window := .empty, closed := true }

end Stream

end FormCapture
