import FormCapture.Proofs.Stream.Bytewise
import FormCapture.Proofs.Stream.Operation

/-! # Streams that agree

`byteAt` is what a stream answers when it is asked for single bytes, one after the other. Two streams
`Agree` if they answer the same for ever. Since every operation comes down to single bytes, streams
that agree give the same answer to every operation, and still agree afterwards (`Agree.perform`), so
they give the same answers in every run (`Agree.run`). -/

namespace FormCapture.Stream

/-! ### The bytes to come -/

/-- The answer to the request for a byte after `n` others, some of which may have failed. -/
def byteAt (s : Stream) : Nat → Option UInt8
  | 0 => s.readByte.1
  | n + 1 => s.readByte.2.byteAt n

/-- The streams give the same bytes and fail to give any at the same places. -/
def Agree (s t : Stream) : Prop := ∀ n, s.byteAt n = t.byteAt n

/-- Two answers are the same, and the streams agree after them. -/
structure Match {α : Type} (x y : α × Stream) : Prop where
  answer : x.1 = y.1
  agree : Agree x.2 y.2

theorem Match.exists_eq {α : Type} {x y : α × Stream} (h : Match x y) :
    ∃ a s t, x = (a, s) ∧ y = (a, t) ∧ Agree s t := by
  obtain ⟨a, s⟩ := x
  obtain ⟨b, t⟩ := y
  obtain rfl : a = b := h.answer
  exact ⟨a, s, t, rfl, rfl, h.agree⟩

theorem Match.map {α β : Type} {x y : α × Stream} (h : Match x y) (f : α → β) :
    Match (f x.1, x.2) (f y.1, y.2) :=
  ⟨congrArg f h.answer, h.agree⟩

section Operations

variable {s t : Stream}

theorem Agree.readByte (h : Agree s t) : Match s.readByte t.readByte :=
  ⟨h 0, fun n => h (n + 1)⟩

/-! ### Counted bytes -/

theorem Agree.readUpTo (h : Agree s t) (count : Nat) :
    Match (s.readUpTo count) (t.readUpTo count) := by
  induction count generalizing s t with
  | zero =>
    rw [readUpTo_zero, readUpTo_zero]
    exact ⟨rfl, h⟩
  | succ count ih =>
    rw [readUpTo_succ, readUpTo_succ]
    obtain ⟨a, s', t', hx, hy, hst⟩ := h.readByte.exists_eq
    rw [hx, hy]
    cases a with
    | none => exact ⟨rfl, hst⟩
    | some b => exact (ih hst).map (b :: ·)

theorem Agree.readBytes (h : Agree s t) (count : Nat) :
    Match (s.readBytes count) (t.readBytes count) :=
  (h.readUpTo count).map fun got => if count != 0 && got.isEmpty then none else some got

theorem Agree.readExactly (h : Agree s t) (count : Nat) :
    Match (s.readExactly count) (t.readExactly count) :=
  (h.readUpTo count).map fun got =>
    if got.length < count then Except.error (Error.shortRead count got.length) else .ok got

theorem Agree.readPost (h : Agree s t) (size : Nat) : Match (s.readPost size) (t.readPost size) :=
  (h.readExactly size).map fun got => got.map Utf8.decodeLossy

theorem Agree.readMime (h : Agree s t) (size : Nat) (boundary : Text) :
    Match (s.readMime size boundary) (t.readMime size boundary) := by
  unfold Stream.readMime
  cases Multipart.usable boundary with
  | error e => exact ⟨rfl, h⟩
  | ok _ =>
    exact (h.readExactly size).map fun got =>
      got.bind fun body => Multipart.transcode .linear body boundary

/-! ### Header blocks -/

/-- The recursion is on the bytes that the first stream still has; the second one keeps step. -/
theorem Agree.collectBlock {s t : Stream} (h : Agree s t) (kept : Bytes) (room : Option Nat)
    (newlines : Nat) :
    Match (s.collectBlock kept room newlines) (t.collectBlock kept room newlines) := by
  rw [collectBlock_eq kept room newlines s, collectBlock_eq kept room newlines t]
  by_cases hn : newlines = 2
  · rw [if_pos hn, if_pos hn]
    exact ⟨rfl, h⟩
  obtain ⟨a, s', t', hx, hy, hst⟩ := h.readByte.exists_eq
  rw [if_neg hn, if_neg hn, hx, hy]
  cases a with
  | none => exact ⟨rfl, hst⟩
  | some b =>
    simp only
    by_cases hb : b = Bytes.cr
    · rw [if_pos hb, if_pos hb]
      exact hst.collectBlock kept room newlines
    by_cases hr : room = some 0
    · rw [if_neg hb, if_neg hb, if_pos hr, if_pos hr]
      exact ⟨rfl, hst⟩
    · rw [if_neg hb, if_neg hb, if_neg hr, if_neg hr]
      exact hst.collectBlock _ _ _
termination_by s.remaining.length
decreasing_by
  all_goals exact length_remaining_of_readByte hx

theorem Agree.readHeaders (h : Agree s t) : Match s.readHeaders t.readHeaders := by
  obtain ⟨outcome, s', t', hx, hy, hst⟩ := (h.collectBlock [] none 0).exists_eq
  unfold Stream.readHeaders
  rw [hx, hy]
  cases outcome with
  | complete block => exact ⟨rfl, hst⟩
  | exhausted => exact ⟨rfl, hst⟩
  | oversized => exact ⟨rfl, hst⟩

theorem Agree.readHeadersUpTo (h : Agree s t) (limit : Nat) :
    Match (s.readHeadersUpTo limit) (t.readHeadersUpTo limit) := by
  obtain ⟨outcome, s', t', hx, hy, hst⟩ := (h.collectBlock [] (some limit) 0).exists_eq
  unfold Stream.readHeadersUpTo
  rw [hx, hy]
  cases outcome with
  | complete block => exact ⟨rfl, hst⟩
  | exhausted => exact ⟨rfl, hst⟩
  | oversized => exact ⟨rfl, hst⟩

/-! ### Requests -/

theorem Agree.readBody (h : Agree s t) (framing : Framing) :
    Match (s.readBody framing) (t.readBody framing) := by
  cases framing with
  | none => exact ⟨rfl, h⟩
  | text length => exact (h.readPost length).map fun content => content.map Body.text
  | multipart length boundary =>
    exact (h.readMime length boundary).map fun content => content.map (Body.multipart boundary)

theorem Agree.readRequest (h : Agree s t) (limits : Limits) :
    Match (s.readRequest limits) (t.readRequest limits) := by
  obtain ⟨block, s', t', hx, hy, hst⟩ := (h.readHeadersUpTo limits.maxHeaderSize).exists_eq
  unfold Stream.readRequest
  rw [hx, hy]
  cases block with
  | error e => exact ⟨rfl, hst⟩
  | ok raw =>
    simp only
    cases (Head.parse raw).bind fun head => (Framing.ofHead head limits).map (head, ·) with
    | error e => exact ⟨rfl, hst⟩
    | ok framed =>
      obtain ⟨head, framing⟩ := framed
      exact (hst.readBody framing).map fun body => body.map (Request.mk head)

/-! ### Closed streams -/

theorem readByte_of_closed {s : Stream} (hc : s.closed = true) (hb : s.buffer = []) :
    s.readByte = (none, s) := by
  have hfill : s.fill = s := by simp [fill, refill, hc]
  have hread := readByte_of_nil (hfill.symm ▸ hb)
  rwa [hfill] at hread

theorem byteAt_of_closed {s : Stream} (hc : s.closed = true) (hb : s.buffer = []) (n : Nat) :
    s.byteAt n = none := by
  have hread := readByte_of_closed hc hb
  induction n with
  | zero => rw [byteAt, hread]
  | succ n ih => rw [byteAt, hread, ih]

/-- Closed streams agree, whatever they held. -/
theorem agree_close (s t : Stream) : Agree s.close t.close := by
  intro n
  rw [byteAt_of_closed rfl rfl, byteAt_of_closed rfl rfl]

/-! ### Runs -/

/-- **One operation**: streams that agree give the same answer, and agree afterwards. -/
theorem Agree.perform (h : Agree s t) (operation : Operation) :
    Match (s.perform operation) (t.perform operation) := by
  cases operation with
  | readByte => exact h.readByte.map Answer.byte
  | readBytes count => exact (h.readBytes count).map Answer.bytes
  | readHeaders => exact h.readHeaders.map Answer.headers
  | readHeadersUpTo limit => exact (h.readHeadersUpTo limit).map Answer.limitedHeaders
  | readPost size => exact (h.readPost size).map Answer.post
  | readMime size boundary => exact (h.readMime size boundary).map Answer.mime
  | readRequest limits => exact (h.readRequest limits).map Answer.request
  | close => exact ⟨rfl, agree_close s t⟩

/-- **Any number of operations**: streams that agree give the same answers. -/
theorem Agree.run (h : Agree s t) (operations : List Operation) :
    Match (s.run operations) (t.run operations) := by
  induction operations generalizing s t with
  | nil => exact ⟨rfl, h⟩
  | cons operation later ih =>
    obtain ⟨answer, s', t', hx, hy, hst⟩ := (h.perform operation).exists_eq
    unfold Stream.run
    rw [hx, hy]
    exact (ih hst).map (answer :: ·)

end Operations

end FormCapture.Stream
