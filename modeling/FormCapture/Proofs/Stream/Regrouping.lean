import FormCapture.Proofs.Stream.Agreement
import FormCapture.Proofs.Stream.Giving

/-! # Bytes however they arrive

What a source has to give is a sequence of bytes and of places where none come (`Source.outcomes`). How
the bytes are grouped into reads does not show in it, nor why none come. A stream that may read its
source answers with this sequence (`byteAt_eq_upcoming`), so two sources with the same sequence cannot
be told apart through their streams: `run_regrouped`. -/

namespace FormCapture

/-! ### What a source has to give -/

/-- What one read gives, byte by byte; a read without bytes gives nothing once. -/
def outcomesOf : Bytes → List (Option UInt8)
  | [] => [none]
  | b :: bytes => (b :: bytes).map some

theorem outcomesOf_of_ne_nil {bytes : Bytes} (h : bytes ≠ []) : outcomesOf bytes = bytes.map some := by
  cases bytes with
  | nil => exact absurd rfl h
  | cons b bytes => rfl

namespace Source

def outcomes (s : Source) : List (Option UInt8) := s.arrivals.flatMap fun a => outcomesOf a.bytes

/-- The outcome at a place; past the end of the script nothing comes any more. -/
def outcome (s : Source) (n : Nat) : Option UInt8 := s.outcomes.getD n none

/-- A read of an arrival that is too long gives the first of its outcomes and keeps the others. -/
theorem outcomesOf_split {bytes : Bytes} (h : bytes.drop capacity ≠ []) :
    outcomesOf bytes = outcomesOf (bytes.take capacity) ++ outcomesOf (bytes.drop capacity) := by
  have hne : bytes ≠ [] := by
    rintro rfl
    exact h List.drop_nil
  have htake : bytes.take capacity ≠ [] := by
    obtain ⟨b, bytes, rfl⟩ := List.exists_cons_of_ne_nil hne
    simp [capacity]
  rw [outcomesOf_of_ne_nil hne, outcomesOf_of_ne_nil htake, outcomesOf_of_ne_nil h, ← List.map_append,
    List.take_append_drop]

theorem outcomes_eq_of_read {s : Source} (h : s.arrivals ≠ []) :
    s.outcomes = outcomesOf s.read.1 ++ s.read.2.outcomes := by
  obtain ⟨a, later, hs⟩ := List.exists_cons_of_ne_nil h
  unfold outcomes read
  cases a with
  | stall cause => simp only [hs, List.flatMap_cons, Arrival.bytes]
  | data bytes =>
    by_cases hd : bytes.drop capacity = []
    · have htake := List.take_append_drop capacity bytes
      rw [hd, List.append_nil] at htake
      simp only [hs, hd, List.isEmpty_nil, if_true, List.flatMap_cons, Arrival.bytes, htake]
    · have hempty : (bytes.drop capacity).isEmpty = false := by simpa using hd
      simp only [hs, hempty, Bool.false_eq_true, if_false, List.flatMap_cons, Arrival.bytes]
      rw [outcomesOf_split hd, List.append_assoc]

/-- **A read takes from the front of the outcomes** what it gives. -/
theorem outcome_eq_of_read (s : Source) (n : Nat) :
    s.outcome n = (outcomesOf s.read.1 ++ s.read.2.outcomes).getD n none := by
  by_cases h : s.arrivals = []
  · have hread : s.read.1 = [] := by simp [read, h]
    have hlater : s.read.2.outcomes = [] := by simp [read, outcomes, h]
    have hnone : s.outcomes = [] := by simp [outcomes, h]
    rw [hread, hlater, outcome, hnone]
    cases n <;> rfl
  · rw [outcome, outcomes_eq_of_read h]

/-- These bytes come first, in any reads, and anything may come behind them. -/
def Brings (s : Source) (bytes : Bytes) : Prop := bytes.map some <+: s.outcomes

instance (s : Source) (bytes : Bytes) : Decidable (s.Brings bytes) :=
  inferInstanceAs (Decidable (_ <+: _))

theorem Brings.outcome_eq {s : Source} {bytes : Bytes} (h : s.Brings bytes) {n : Nat}
    (hn : n < bytes.length) : s.outcome n = bytes[n]? := by
  obtain ⟨later, hlater⟩ := h
  have hmap : n < (bytes.map some).length := (List.length_map some).symm ▸ hn
  rw [outcome, ← hlater, List.getD_eq_getElem?_getD, List.getElem?_append_left hmap,
    List.getElem?_map, List.getElem?_eq_getElem hn]
  rfl

end Source

/-! ### What a stream has to give -/

namespace Stream

/-- The stream is open, and its source accepts the bound on the wait, or has accepted it before. -/
structure Ready (s : Stream) : Prop where
  isOpen : s.closed = false
  wait : s.waitApplied = true ∨ (s.source.setWait s.wait).1 = true

/-- The outcome at a place, with the bytes in the buffer first. -/
def upcoming (s : Stream) (n : Nat) : Option UInt8 :=
  (s.buffer.map some ++ s.source.outcomes).getD n none

theorem Ready.applyWait {s : Stream} (h : s.Ready) :
    s.applyWait.waitApplied = true ∧ s.applyWait.source.outcomes = s.source.outcomes := by
  unfold Stream.applyWait
  by_cases hw : s.waitApplied = true
  · rw [if_pos hw]
    exact ⟨hw, rfl⟩
  · rw [if_neg hw]
    exact ⟨h.wait.resolve_left hw, rfl⟩

theorem closed_applyWait (s : Stream) : s.applyWait.closed = s.closed := by
  unfold applyWait
  split <;> rfl

theorem ready_load {s : Stream} (hc : s.closed = false) (hw : s.waitApplied = true) :
    s.load.Ready := by
  unfold load
  split
  · exact ⟨hc, Or.inl hw⟩
  · exact ⟨hc, Or.inl hw⟩

/-- With an empty buffer, one read of the source fills it. -/
theorem Ready.fill {s : Stream} (h : s.Ready) (hb : s.buffer = []) :
    ∃ source : Source, source.outcomes = s.source.outcomes ∧
      s.fill.buffer = source.read.1 ∧ s.fill.source = source.read.2 ∧ s.fill.Ready := by
  obtain ⟨hw, ho⟩ := h.applyWait
  have hfill : s.fill = s.applyWait.load := by
    rw [Stream.fill, if_pos (Window.isSpent_iff.mpr hb), refill, h.isOpen, hw]
    rfl
  have hempty : s.applyWait.buffer = [] := (buffer_applyWait s).trans hb
  rw [hfill]
  exact ⟨_, ho, buffer_load hempty, source_load _, ready_load ((closed_applyWait s).trans h.isOpen) hw⟩

theorem Ready.skip {s : Stream} (h : s.Ready) (count : Nat) : (s.skip count).Ready :=
  ⟨h.isOpen, h.wait⟩

/-- One byte is what comes first, and what comes afterwards is the rest. -/
theorem Ready.readByte {s : Stream} (h : s.Ready) :
    s.readByte.1 = s.upcoming 0 ∧ s.readByte.2.Ready ∧
      ∀ n, s.readByte.2.upcoming n = s.upcoming (n + 1) := by
  cases hb : s.buffer with
  | cons b rest =>
    have hfill : s.fill = s := fill_of_ne_nil (by rw [hb]; simp)
    rw [readByte_of_cons (hfill.symm ▸ hb), hfill]
    refine ⟨by simp [upcoming, hb], h.skip 1, fun n => ?_⟩
    rw [upcoming, upcoming, buffer_skip, hb]
    rfl
  | nil =>
    obtain ⟨source, ho, hbuf, hsrc, hready⟩ := h.fill hb
    have hup : ∀ n, s.upcoming n = (outcomesOf source.read.1 ++ source.read.2.outcomes).getD n none := by
      intro n
      rw [← source.outcome_eq_of_read, upcoming, hb, ← ho]
      rfl
    cases hgot : source.read.1 with
    | nil =>
      rw [readByte_of_nil (hbuf.trans hgot)]
      refine ⟨by simp [hup, hgot, outcomesOf], hready, fun n => ?_⟩
      rw [hup, upcoming, hbuf, hsrc, hgot]
      simp [outcomesOf]
    | cons b rest =>
      rw [readByte_of_cons (hbuf.trans hgot)]
      refine ⟨by simp [hup, hgot, outcomesOf], hready.skip 1, fun n => ?_⟩
      have hskip : (s.fill.skip 1).source = s.fill.source := rfl
      rw [hup, upcoming, buffer_skip, hskip, hsrc, hbuf, hgot]
      simp [outcomesOf]

/-- **A stream answers with what is to come**, byte by byte. -/
theorem byteAt_eq_upcoming {s : Stream} (h : s.Ready) (n : Nat) : s.byteAt n = s.upcoming n := by
  induction n generalizing s with
  | zero => exact h.readByte.1
  | succ n ih =>
    obtain ⟨-, hready, hnext⟩ := h.readByte
    rw [byteAt, ih hready, hnext]

/-- A stream gives the bytes that are to come. -/
theorem Ready.exists_gives {s : Stream} (h : s.Ready) {bytes : Bytes}
    (hbytes : ∀ n < bytes.length, s.upcoming n = bytes[n]?) : ∃ t, Gives s bytes t := by
  induction bytes generalizing s with
  | nil => exact ⟨s, .nil s⟩
  | cons b bytes ih =>
    obtain ⟨hfirst, hready, hnext⟩ := h.readByte
    have hb : s.readByte.1 = some b := hfirst.trans (hbytes 0 (Nat.zero_lt_succ _))
    obtain ⟨t, ht⟩ := ih hready fun n hn => (hnext n).trans (hbytes (n + 1) (Nat.succ_lt_succ hn))
    exact ⟨t, .cons (Prod.ext hb rfl) ht⟩

theorem ready_openOn {source : Source} {wait : Nat} (h : (source.setWait wait).1 = true) :
    (openOn source wait).Ready :=
  ⟨rfl, Or.inr h⟩

/-- **The answers do not depend on how the bytes arrive.** Two sources with the same outcomes, grouped
in any two ways, give the same answers to every sequence of operations. -/
theorem run_regrouped {a b : Source} {wait wait' : Nat} (ha : (a.setWait wait).1 = true)
    (hb : (b.setWait wait').1 = true) (h : ∀ n, a.outcome n = b.outcome n)
    (operations : List Operation) :
    ((openOn a wait).run operations).1 = ((openOn b wait').run operations).1 := by
  have hagree : Agree (openOn a wait) (openOn b wait') := by
    intro n
    rw [byteAt_eq_upcoming (ready_openOn ha), byteAt_eq_upcoming (ready_openOn hb)]
    exact h n
  exact (hagree.run operations).answer

/-- A request whose body is broken off, and what comes later, in three arrivals. -/
def sampleSource : Source :=
  { arrivals := [.data (Bytes.ofAscii "GET / HTTP/1.1\r\nContent-Length: 2\r\n\r\nh"),
      .stall .timedOut, .data (Bytes.ofAscii "i!")] }

/-- The same outcomes, with each byte on its own and an empty read in the place of the stall. -/
def sampleSource₂ : Source :=
  { arrivals := (Bytes.ofAscii "GET / HTTP/1.1\r\nContent-Length: 2\r\n\r\nh").map
      (fun b => .data [b]) ++ [.data [], .data (Bytes.ofAscii "i"), .data (Bytes.ofAscii "!")] }

theorem run_regrouped_sampleSource :
    ((openOn sampleSource 10).run [.readRequest {}, .readBytes 2, .close, .readByte]).1 =
        [.request (.error (.shortRead 2 1)), .bytes (some (Bytes.ofAscii "i!")), .closed, .byte none] ∧
      ((openOn sampleSource 10).run [.readRequest {}, .readBytes 2, .close, .readByte]).1 =
        ((openOn sampleSource₂ 20).run [.readRequest {}, .readBytes 2, .close, .readByte]).1 := by
  have hsame : sampleSource.outcomes = sampleSource₂.outcomes := by decide +kernel
  refine ⟨by decide +kernel, run_regrouped (by decide) (by decide) (fun n => ?_) _⟩
  rw [Source.outcome, Source.outcome, hsame]

end Stream

end FormCapture
