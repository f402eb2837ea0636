import FormCapture.Proofs.Stream.Refills
import FormCapture.Proofs.Stream.Regrouping
import Mathlib.Data.List.GetD

/-! # Streams on a queue

A socket holds the bytes that have come as one queue (`Source.IsQueue`), and a stream on it (`OnQueue`)
finds no bytes only once its buffer and the queue are empty, or if its wait cannot be bounded at all. So
what comes before it runs dry is known beforehand: `Stream.ahead` (`OnQueue.exists_runsDry`).

Everything that a stream answers is made of the bytes that come before it runs dry: `RunsDry.readByte_eq`,
`RunsDry.readExactly_eq`, `RunsDry.readHeaders_eq_none_iff`. -/

namespace FormCapture

namespace Source

/-- The source is a socket with one queue of bytes, or with none. -/
structure IsQueue (s : Source) : Prop where
  queue : s.arrivals = [] ∨ ∃ bytes, s.arrivals = [.data bytes]
  refusals : s.refusals = 0
  refusesZero : s.refusesZero = true

variable {s : Source}

theorem isQueue_socket (bytes : Bytes) : (socket bytes).IsQueue := ⟨Or.inr ⟨bytes, rfl⟩, rfl, rfl⟩

theorem IsQueue.feed (h : s.IsQueue) (bytes : Bytes) : (s.feed bytes).IsQueue := by
  unfold Source.feed
  rcases h.queue with hq | ⟨queued, hq⟩
  · rw [hq]
    exact ⟨Or.inr ⟨bytes, rfl⟩, h.refusals, h.refusesZero⟩
  · rw [hq]
    exact ⟨Or.inr ⟨queued ++ bytes, rfl⟩, h.refusals, h.refusesZero⟩

theorem IsQueue.read (h : s.IsQueue) : s.read.2.IsQueue := by
  unfold Source.read
  rcases h.queue with hq | ⟨queued, hq⟩
  · rw [hq]
    exact ⟨Or.inl rfl, h.refusals, h.refusesZero⟩
  · rw [hq]
    refine ⟨?_, h.refusals, h.refusesZero⟩
    simp only
    split
    · exact Or.inl rfl
    · exact Or.inr ⟨queued.drop capacity, rfl⟩

theorem IsQueue.setWait (h : s.IsQueue) (milliseconds : Nat) : (s.setWait milliseconds).2.IsQueue :=
  ⟨h.queue, by rw [Source.setWait, h.refusals], h.refusesZero⟩

/-- A socket takes any bound but zero. -/
theorem IsQueue.setWait_eq (h : s.IsQueue) (milliseconds : Nat) :
    (s.setWait milliseconds).1 = true ↔ milliseconds ≠ 0 := by
  simp [Source.setWait, h.refusals, h.refusesZero]

theorem getD_map_some (bytes : Bytes) (n : Nat) : (bytes.map some).getD n none = bytes[n]? := by
  rw [List.getD_eq_getElem?_getD, List.getElem?_map]
  cases bytes[n]? <;> rfl

/-- What a queue has to give is what it holds. -/
theorem outcome_eq_of_queue (hq : s.arrivals = [] ∨ ∃ bytes, s.arrivals = [.data bytes]) (n : Nat) :
    s.outcome n = s.held[n]? := by
  rcases hq with hq | ⟨queued, hq⟩
  · simp [outcome, outcomes, held, hq]
  · have houtcomes : s.outcomes = outcomesOf queued := by simp [outcomes, hq, Arrival.bytes]
    have hheld : s.held = queued := by simp [held, hq, Arrival.bytes]
    rw [outcome, houtcomes, hheld]
    cases queued with
    | nil => cases n <;> rfl
    | cons b rest => exact getD_map_some (b :: rest) n

end Source

namespace Stream

variable {s t : Stream} {wait : Nat}

/-! ### Streams on sockets -/

/-- The stream is open and reads a socket with this bound on its wait. It can have had bytes only if
sockets take the bound. -/
structure OnQueue (s : Stream) (wait : Nat) : Prop where
  isOpen : s.closed = false
  source : s.source.IsQueue
  wait_eq : s.wait = wait
  unbounded : wait = 0 → s.waitApplied = false ∧ s.buffer = []

/-- The bytes that come before the stream runs dry. -/
def ahead (s : Stream) : Bytes := if s.wait = 0 then [] else s.remaining

theorem onQueue_openOn {source : Source} (h : source.IsQueue) (wait : Nat) :
    (openOn source wait).OnQueue wait :=
  ⟨rfl, h, rfl, fun _ => ⟨rfl, rfl⟩⟩

theorem OnQueue.applyWait (h : s.OnQueue wait) : s.applyWait.OnQueue wait := by
  unfold Stream.applyWait
  split
  · exact h
  · refine ⟨h.isOpen, h.source.setWait s.wait, h.wait_eq, fun hw => ⟨?_, (h.unbounded hw).2⟩⟩
    have hzero : s.wait = 0 := h.wait_eq.trans hw
    exact Bool.eq_false_iff.mpr fun haccepted => (h.source.setWait_eq s.wait).mp haccepted hzero

theorem OnQueue.load (h : s.OnQueue wait) (hw : wait ≠ 0) : s.load.OnQueue wait := by
  unfold Stream.load
  split
  · exact ⟨h.isOpen, h.source.read, h.wait_eq, fun hz => absurd hz hw⟩
  · exact ⟨h.isOpen, h.source.read, h.wait_eq, fun hz => absurd hz hw⟩

theorem OnQueue.fill (h : s.OnQueue wait) : s.fill.OnQueue wait := by
  unfold Stream.fill
  split
  · unfold refill
    rw [if_neg (by rw [h.isOpen]; exact Bool.false_ne_true)]
    split
    · next happlied =>
      refine h.applyWait.load fun hz => ?_
      rw [(h.applyWait.unbounded hz).1] at happlied
      cases happlied
    · exact h.applyWait
  · exact h

theorem OnQueue.skip (h : s.OnQueue wait) (count : Nat) : (s.skip count).OnQueue wait :=
  ⟨h.isOpen, h.source, h.wait_eq, fun hz => ⟨(h.unbounded hz).1, by
    rw [buffer_skip, (h.unbounded hz).2, List.drop_nil]⟩⟩

theorem OnQueue.readByte (h : s.OnQueue wait) : s.readByte.2.OnQueue wait := by
  cases hb : s.fill.buffer with
  | nil =>
    rw [readByte_of_nil hb]
    exact h.fill
  | cons b rest =>
    rw [readByte_of_cons hb]
    exact h.fill.skip 1

theorem Gives.onQueue {bytes : Bytes} (hg : Gives s bytes t) (h : s.OnQueue wait) : t.OnQueue wait := by
  induction hg with
  | nil => exact h
  | cons hb _ ih =>
    have hnext := h.readByte
    rw [hb] at hnext
    exact ih hnext

theorem RunsDry.onQueue {bytes : Bytes} (hdry : RunsDry s bytes t) (h : s.OnQueue wait) : t.OnQueue wait := by
  obtain ⟨u, hu, hnone⟩ := hdry
  have hlast := (hu.onQueue h).readByte
  rwa [hnone] at hlast

theorem Accounts.onQueue {step : Step} (ha : Accounts s step t) (h : s.OnQueue wait) :
    t.OnQueue wait := by
  rcases ha.takes with hg | ⟨hdry, -⟩
  · exact hg.onQueue h
  · exact hdry.onQueue h

/-- A stream does not care which socket it reads. -/
theorem OnQueue.withSource (h : s.OnQueue wait) {source : Source} (hsource : source.IsQueue) :
    OnQueue ⟨s.toReader, source⟩ wait :=
  ⟨h.isOpen, hsource, h.wait_eq, h.unbounded⟩

/-! ### What is ahead -/

theorem OnQueue.ready (h : s.OnQueue wait) (hw : wait ≠ 0) : s.Ready :=
  ⟨h.isOpen, Or.inr ((h.source.setWait_eq s.wait).mpr (h.wait_eq ▸ hw))⟩

theorem OnQueue.upcoming_eq (h : s.OnQueue wait) (n : Nat) : s.upcoming n = s.remaining[n]? := by
  rw [upcoming, remaining]
  rcases Nat.lt_or_ge n s.buffer.length with hn | hn
  · rw [List.getD_append _ _ _ _ (by rwa [List.length_map]), List.getElem?_append_left hn,
      Source.getD_map_some]
  · have hlen : (s.buffer.map some).length ≤ n := by rwa [List.length_map]
    rw [List.getD_append_right _ _ _ _ hlen, List.getElem?_append_right hn, List.length_map]
    exact Source.outcome_eq_of_queue h.source.queue _

/-- Without a bound on its wait a stream never has bytes. -/
theorem OnQueue.readByte_of_wait_zero (h : s.OnQueue 0) : s.readByte.1 = none := by
  rw [readByte_of_nil (h.fill.unbounded rfl).2]

/-- **What comes before a stream runs dry**: what is buffered and queued. -/
theorem OnQueue.exists_runsDry (h : s.OnQueue wait) : ∃ t, RunsDry s s.ahead t := by
  rw [ahead, h.wait_eq]
  split
  · next hw =>
    subst hw
    exact ⟨s.readByte.2, s, .nil s, Prod.ext h.readByte_of_wait_zero rfl⟩
  · next hw =>
    obtain ⟨t, ht⟩ := (h.ready hw).exists_gives fun n _ => h.upcoming_eq n
    have hnil : t.remaining = [] := List.append_right_eq_self.mp ht.remaining
    exact ⟨t.readByte.2, t, ht, Prod.ext (readByte_of_remaining_nil hnil) rfl⟩

/-! ### Streams that give all they have -/

/-- Everything that remains comes before the stream finds no bytes. -/
def Pours (s : Stream) : Prop := ∀ n, s.byteAt n = s.remaining[n]?

theorem OnQueue.pours (h : s.OnQueue wait) (hw : wait ≠ 0) : s.Pours := fun n =>
  (byteAt_eq_upcoming (h.ready hw) n).trans (h.upcoming_eq n)

theorem pours_openOn {source : Source} (haccepts : (source.setWait wait).1 = true)
    (hall : ∀ n, source.outcome n = source.held[n]?) : (openOn source wait).Pours := fun n =>
  (byteAt_eq_upcoming (ready_openOn haccepts) n).trans (hall n)

theorem Pours.readByte (h : s.Pours) : s.readByte.2.Pours := by
  intro n
  have hparts := remaining_readByte s
  have hnext : s.readByte.2.byteAt n = s.remaining[n + 1]? := h (n + 1)
  rw [hnext]
  cases hb : s.readByte.1 with
  | some b =>
    rw [hb] at hparts
    rw [← hparts]
    rfl
  | none =>
    rw [hb] at hparts
    have hfirst : s.remaining[0]? = none := (h 0).symm.trans hb
    have hnil : s.remaining = [] := List.eq_nil_of_length_eq_zero
      (Nat.le_zero.mp (List.getElem?_eq_none_iff.mp hfirst))
    have hlater : s.readByte.2.remaining = [] := hparts.trans hnil
    rw [hlater, hnil]
    rfl

theorem Gives.pours {bytes : Bytes} (hg : Gives s bytes t) (h : s.Pours) : t.Pours := by
  induction hg with
  | nil => exact h
  | cons hb _ ih =>
    have hnext := h.readByte
    rw [hb] at hnext
    exact ih hnext

theorem Accounts.pours {step : Step} (ha : Accounts s step t) (h : s.Pours) : t.Pours := by
  rcases ha.takes with hg | ⟨⟨u, hu, hnone⟩, -⟩
  · exact hg.pours h
  · have hlast := (hu.pours h).readByte
    rwa [hnone] at hlast

/-- Streams that give the same have the same left, if both give all they have. -/
theorem Agree.remaining_eq (h : Agree s t) (hs : s.Pours) (ht : t.Pours) :
    t.remaining = s.remaining :=
  List.ext_getElem? fun n => (ht n).symm.trans ((h n).symm.trans (hs n))

/-! ### Answers of a stream that runs dry -/

section Answers

open Header

variable {bytes : Bytes}

theorem RunsDry.readByte_eq (h : RunsDry s bytes t) : s.readByte.1 = bytes.head? := by
  obtain ⟨u, hu, hnone⟩ := h
  cases hu with
  | nil => rw [hnone, List.head?_nil]
  | cons hb _ => rw [hb, List.head?_cons]

/-- Fewer bytes than come are given, as many as are asked for. -/
theorem RunsDry.exists_gives_take (h : RunsDry s bytes t) (n : Nat) :
    ∃ u, Gives s (bytes.take n) u := by
  obtain ⟨u, hu, -⟩ := h
  rw [← List.take_append_drop n bytes] at hu
  obtain ⟨v, hv, -⟩ := hu.exists_of_append
  exact ⟨v, hv⟩

theorem RunsDry.readExactly_eq (h : RunsDry s bytes t) (n : Nat) :
    (s.readExactly n).1 =
      if bytes.length < n then .error (.shortRead n bytes.length) else .ok (bytes.take n) := by
  split
  · next hn => rw [readExactly_of_runsDry h hn]
  · next hn =>
    obtain ⟨u, hu⟩ := h.exists_gives_take n
    have hlen : (bytes.take n).length = n := List.length_take_of_le (Nat.le_of_not_lt hn)
    have hread := readExactly_of_gives hu
    rw [hlen] at hread
    rw [hread]

theorem RunsDry.readPost_eq (h : RunsDry s bytes t) (size : Nat) :
    (s.readPost size).1 =
      if bytes.length < size then .error (.shortRead size bytes.length)
      else .ok (Utf8.decodeLossy (bytes.take size)) := by
  have hpost : (s.readPost size).1 = (s.readExactly size).1.map Utf8.decodeLossy := rfl
  rw [hpost, h.readExactly_eq]
  split <;> rfl

theorem RunsDry.readMime_eq (h : RunsDry s bytes t) (size : Nat) {boundary : Text}
    (hu : Multipart.usable boundary = .ok ()) :
    (s.readMime size boundary).1 =
      if bytes.length < size then .error (.shortRead size bytes.length)
      else Multipart.transcode .linear (bytes.take size) boundary := by
  have hmime : (s.readMime size boundary).1 =
      (s.readExactly size).1.bind fun body => Multipart.transcode .linear body boundary := by
    rw [readMime, hu]
  rw [hmime, h.readExactly_eq]
  split <;> rfl

/-- There is no header block exactly if none is complete when the stream runs dry. -/
theorem RunsDry.readHeaders_eq_none_iff (h : RunsDry s bytes t) :
    s.readHeaders.1 = none ↔ IsOpen bytes := by
  rcases hb : s.collectBlock [] none 0 with ⟨outcome, u⟩
  rw [readHeaders, hb]
  cases collected hb with
  | @complete raw _ hblock =>
    have hnot : ¬ IsOpen bytes := fun hopen => hblock.not_runsDry hopen h
    exact ⟨fun hnone => absurd hnone (Option.some_ne_none _), fun hopen => absurd hopen hnot⟩
  | exhausted hdry hopen =>
    obtain ⟨rfl, -⟩ := h.unique hdry
    exact ⟨fun _ => hopen, fun _ => rfl⟩
  | oversized _ _ _ hlimit => cases hlimit

end Answers

end Stream

end FormCapture
