/-! # Counters

What a server counts: its requests, those it captured and those it refused, those with a multipart
body, and the bytes it answered captured requests with. Workers change the counters one update at a
time, so what a connection does to them is a list of updates (`Update.ofRequest`), and the updates of
several connections may come in any order that keeps each list's own. Counters are numbers of 64 bits
and wrap around; `apply_comm` says that the order of two updates does not matter. -/

namespace FormCapture

structure Counters where
  total : UInt64 := 0
  /-- Requests that were captured and answered. -/
  successful : UInt64 := 0
  errors : UInt64 := 0
  multipart : UInt64 := 0
  /-- Bytes of the answers to captured requests. -/
  bytes : UInt64 := 0
  deriving DecidableEq, Repr

inductive Update
  | total
  | successful
  | errors
  | multipart
  | bytes (n : Nat)
  deriving DecidableEq, Repr

namespace Update

def apply : Update → Counters → Counters
  | total, c => { c with total := c.total + 1 }
  | successful, c => { c with successful := c.successful + 1 }
  | errors, c => { c with errors := c.errors + 1 }
  | multipart, c => { c with multipart := c.multipart + 1 }
  | bytes n, c => { c with bytes := c.bytes + UInt64.ofNat n }

theorem apply_comm (u v : Update) (c : Counters) : u.apply (v.apply c) = v.apply (u.apply c) := by
  cases u with
  | bytes m =>
    cases v with
    | bytes n => simp only [apply, UInt64.add_assoc, UInt64.add_comm (UInt64.ofNat m)]
    | _ => rfl
  | _ => cases v <;> rfl

/-- The updates for a request that is done with, and the bytes it was answered with. -/
def ofRequest (success : Bool) (n : Nat) : List Update :=
  [total, if success then successful else errors, bytes n]

end Update

def Counters.after (c : Counters) (updates : List Update) : Counters :=
  updates.foldl (fun c u => u.apply c) c

end FormCapture
