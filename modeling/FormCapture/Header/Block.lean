import FormCapture.Error
import FormCapture.Stream.Basic
import FormCapture.Text.Utf8

/-! # Header blocks

A header block is what a stream delivers up to and including the blank line that ends it. Carriage
returns are dropped wherever they stand, so the blank line is two line feeds in a row. A limit counts
the bytes that are kept; nothing is read past the byte that would cross it. -/

namespace FormCapture

inductive BlockOutcome
  /-- The block, without carriage returns. -/
  | complete (block : Bytes)
  /-- No bytes came before the block was complete. -/
  | exhausted
  | oversized
  deriving DecidableEq, Repr

namespace Stream

/-- Collects a header block: `kept` is what has been kept of it, in reverse, `room` how many bytes
may still be kept (none for no limit), and `newlines` the number of line feeds that `kept` ends
with. -/
def collectBlock (kept : Bytes) (room : Option Nat) (newlines : Nat) (s : Stream) :
    BlockOutcome × Stream :=
  if newlines = 2 then (.complete kept.reverse, s)
  else
    match _h : s.readByte with
    | (none, t) => (.exhausted, t)
    | (some b, t) =>
      if b = Bytes.cr then collectBlock kept room newlines t
      else if room = some 0 then (.oversized, t)
      else
        collectBlock (b :: kept) (room.map (· - 1)) (if b = Bytes.lf then newlines + 1 else 0) t
termination_by s.remaining.length
decreasing_by
  all_goals exact length_remaining_of_readByte _h

/-- The next header block as text, or none if no bytes came before it was complete. -/
def readHeaders (s : Stream) : Option Text × Stream :=
  match s.collectBlock [] none 0 with
  | (.complete block, t) => (some (Utf8.decodeLossy block), t)
  | (_, t) => (none, t)

/-- The next header block as text, of no more than `limit` bytes. -/
def readHeadersUpTo (s : Stream) (limit : Nat) : Except Error Text × Stream :=
  match s.collectBlock [] (some limit) 0 with
  | (.complete block, t) => (.ok (Utf8.decodeLossy block), t)
  | (.exhausted, t) => (.error .connectionClosed, t)
  | (.oversized, t) => (.error (.headersTooLarge limit), t)

end Stream

end FormCapture
