import FormCapture.Bytes.Basic

/-! # Sources

Where the bytes of a connection come from. A source is a script of arrivals: each read takes the next
one, which is some bytes or a stall; a read takes no more than `capacity` bytes, and what is left of
an arrival is the next arrival. An arrival of no bytes, like the end of the script, says that the peer
has closed.

A source can be asked to bound the wait of its reads, and may refuse. It keeps a record of the calls
made on it. `Source.held` is the bytes that it has not yet handed out. -/

namespace FormCapture

/-- The greatest number of bytes that one read takes. -/
def capacity : Nat := 4096

inductive Stall
  | wouldBlock
  | timedOut
  | interrupted
  | connectionReset
  | brokenPipe
  | other
  deriving DecidableEq, Repr

inductive Arrival
  | data (bytes : Bytes)
  | stall (cause : Stall)
  deriving DecidableEq, Repr

def Arrival.bytes : Arrival → Bytes
  | data bytes => bytes
  | stall _ => []

inductive SourceCall
  /-- The wait of the reads to come was to be bounded, in milliseconds. -/
  | setWait (milliseconds : Nat) (accepted : Bool)
  | read (got : Bytes)
  deriving DecidableEq, Repr

structure Source where
  arrivals : List Arrival
  /-- How many more requests to bound the wait are refused. -/
  refusals : Nat := 0
  /-- Whether a wait of zero is always refused, as by sockets. -/
  refusesZero : Bool := false
  /-- The calls made so far, the latest first. -/
  calls : List SourceCall := []
  deriving DecidableEq, Repr

namespace Source

def ofBytes (bytes : Bytes) : Source := { arrivals := [.data bytes] }

/-- A connected socket with these bytes in its queue. -/
def socket (bytes : Bytes) : Source := { arrivals := [.data bytes], refusesZero := true }

def held (s : Source) : Bytes := s.arrivals.flatMap Arrival.bytes

/-- Asks for a bound on the wait of the reads to come. -/
def setWait (s : Source) (milliseconds : Nat) : Bool × Source :=
  let accepted := s.refusals == 0 && !(s.refusesZero && milliseconds == 0)
  (accepted,
    { s with refusals := s.refusals - 1, calls := .setWait milliseconds accepted :: s.calls })

/-- Takes the next arrival, up to the capacity. -/
def read (s : Source) : Bytes × Source :=
  match s.arrivals with
  | [] => ([], { s with calls := .read [] :: s.calls })
  | .stall _ :: later => ([], { s with arrivals := later, calls := .read [] :: s.calls })
  | .data bytes :: later =>
    let got := bytes.take capacity
    let rest := bytes.drop capacity
    (got, { s with
      arrivals := if rest.isEmpty then later else .data rest :: later
      calls := .read got :: s.calls })

/-- The source with more bytes at the end of its queue: they join those that are there already. -/
def feed (s : Source) (bytes : Bytes) : Source :=
  match s.arrivals with
  | [.data queued] => { s with arrivals := [.data (queued ++ bytes)] }
  | arrivals => { s with arrivals := arrivals ++ [.data bytes] }

def readCount (s : Source) : Nat :=
  s.calls.countP fun
    | .read _ => true
    | .setWait _ _ => false

def waits (s : Source) : List Nat :=
  s.calls.reverse.filterMap fun
    | .setWait milliseconds _ => some milliseconds
    | .read _ => none

@[simp] theorem held_setWait (s : Source) (milliseconds : Nat) :
    (s.setWait milliseconds).2.held = s.held := rfl

theorem read_append_held (s : Source) : s.read.1 ++ s.read.2.held = s.held := by
  unfold read held
  cases hs : s.arrivals with
  | nil => simp
  | cons a later =>
    cases a with
    | stall cause => simp [Arrival.bytes]
    | data bytes =>
      simp only
      split
      · next h =>
        have hd : bytes.drop capacity = [] := by simpa using h
        have := List.take_append_drop capacity bytes
        rw [hd, List.append_nil] at this
        simp [Arrival.bytes, this]
      · simp only [List.flatMap_cons, Arrival.bytes]
        rw [← List.append_assoc, List.take_append_drop]

theorem length_read_le (s : Source) : s.read.1.length ≤ capacity := by
  unfold read
  split
  · exact Nat.zero_le _
  · exact Nat.zero_le _
  · simp only [List.length_take]
    exact Nat.min_le_left _ _

theorem held_feed (s : Source) (bytes : Bytes) : (s.feed bytes).held = s.held ++ bytes := by
  unfold feed held
  split
  · next h => simp [h, Arrival.bytes]
  · simp [Arrival.bytes]

end Source

end FormCapture
