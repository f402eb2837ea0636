import FormCapture.Request.Basic
import Mathlib.Tactic.Common

/-! # Operations on a stream

What can be asked of a stream, with all arguments (`Operation`), and what it answers. A run is a list
of operations, one after the other on one stream. -/

namespace FormCapture.Stream

inductive Operation
  | readByte
  | readBytes (count : Nat)
  | readHeaders
  | readHeadersUpTo (limit : Nat)
  | readPost (size : Nat)
  | readMime (size : Nat) (boundary : Text)
  | readRequest (limits : Limits)
  | close
  deriving DecidableEq, Repr

inductive Answer
  | byte (answer : Option UInt8)
  | bytes (answer : Option Bytes)
  | headers (answer : Option Text)
  | limitedHeaders (answer : Except Error Text)
  | post (answer : Except Error Text)
  | mime (answer : Except Error Text)
  | request (answer : Except Error Request)
  | closed
  deriving DecidableEq, Repr

/-- One operation. -/
def perform (s : Stream) : Operation → Answer × Stream
  | .readByte => (.byte s.readByte.1, s.readByte.2)
  | .readBytes count => (.bytes (s.readBytes count).1, (s.readBytes count).2)
  | .readHeaders => (.headers s.readHeaders.1, s.readHeaders.2)
  | .readHeadersUpTo limit =>
    (.limitedHeaders (s.readHeadersUpTo limit).1, (s.readHeadersUpTo limit).2)
  | .readPost size => (.post (s.readPost size).1, (s.readPost size).2)
  | .readMime size boundary => (.mime (s.readMime size boundary).1, (s.readMime size boundary).2)
  | .readRequest limits => (.request (s.readRequest limits).1, (s.readRequest limits).2)
  | .close => (.closed, s.close)

/-- One operation after the other, with the answers in order. -/
def run (s : Stream) : List Operation → List Answer × Stream
  | [] => ([], s)
  | operation :: later =>
    let (answer, t) := s.perform operation
    let (answers, u) := t.run later
    (answer :: answers, u)

end FormCapture.Stream
