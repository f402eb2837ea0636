import FormCapture.Proofs.Stream.Pulls
import FormCapture.Proofs.Stream.Queue

/-! # Bounded waits

No read of a source is made before a bound on its wait has been accepted. `IsBounded` is the order in which
the calls of a whole run come: bounds that are refused, then one that is accepted, then reads only. What has
been called so far says whether the bound has been accepted (`Waited`), and every request for a byte keeps
this (`Waited.pulled`).

A run is cut into turns, one for each operation (`Course`). `run_bounded` puts the order of the calls beside
what each turn does, and what is left to do after the stream has been closed. -/

namespace FormCapture

/-- **Calls whose waits are bounded**: bounds that are refused, and once one is accepted reads only. -/
inductive IsBounded (wait : Nat) : List SourceCall → Prop
  | refused (refusals : Nat) :
      IsBounded wait (List.replicate refusals (.setWait wait false))
  | accepted (refusals : Nat) (reads : List Bytes) :
      IsBounded wait
        (List.replicate refusals (.setWait wait false) ++ .setWait wait true :: reads.map .read)

namespace Stream

/-! ### The order of the calls -/

section Runs

variable {s t u : Stream} {wait : Nat} {made : List SourceCall}

/-- What the calls made so far say of the stream. -/
structure Waited (wait : Nat) (s : Stream) (made : List SourceCall) : Prop where
  wait_eq : s.wait = wait
  refused : s.waitApplied = false →
    ∃ refusals, made = List.replicate refusals (.setWait wait false)
  accepted : s.waitApplied = true → ∃ (refusals : Nat) (reads : List Bytes),
    made = List.replicate refusals (.setWait wait false) ++ .setWait wait true :: reads.map .read

theorem waited_openOn (source : Source) (wait : Nat) : Waited wait (openOn source wait) [] :=
  ⟨rfl, fun _ => ⟨0, rfl⟩, fun h => Bool.noConfusion h⟩

theorem Waited.isBounded (h : Waited wait s made) : IsBounded wait made := by
  cases hw : s.waitApplied with
  | false =>
    obtain ⟨refusals, rfl⟩ := h.refused hw
    exact .refused refusals
  | true =>
    obtain ⟨refusals, reads, rfl⟩ := h.accepted hw
    exact .accepted refusals reads

/-- **One request keeps the order of the calls.** -/
theorem Waited.pulled (h : Waited wait s made) {pull : Pull} (hpull : Pulled s pull t) :
    Waited wait t (made ++ pull.calls) := by
  have hwait : t.wait = wait := hpull.wait.trans h.wait_eq
  have happlied := hpull.waitApplied
  obtain ⟨pulled, got⟩ := pull
  cases hpull.allowed with
  | buffered | closed =>
    have hsame : t.waitApplied = s.waitApplied := Bool.eq_iff_iff.mpr (by simpa using happlied)
    rw [List.append_nil]
    exact ⟨hwait, fun hw => h.refused (hsame ▸ hw), fun hw => h.accepted (hsame ▸ hw)⟩
  | refused _ _ hw =>
    have hsame : t.waitApplied = false := by simpa [hw] using happlied
    obtain ⟨refusals, rfl⟩ := h.refused hw
    refine ⟨hwait, fun _ => ⟨refusals + 1, ?_⟩, fun htrue => ?_⟩
    · rw [h.wait_eq, List.replicate_succ']
    · rw [hsame] at htrue
      cases htrue
  | first got _ _ hw =>
    have happly : t.waitApplied = true := happlied.mpr (Or.inr List.mem_cons_self)
    obtain ⟨refusals, rfl⟩ := h.refused hw
    refine ⟨hwait, fun hfalse => ?_, fun _ => ⟨refusals, [got], ?_⟩⟩
    · rw [happly] at hfalse
      cases hfalse
    · rw [h.wait_eq]
      rfl
  | later got _ _ hw =>
    have happly : t.waitApplied = true := happlied.mpr (Or.inl hw)
    obtain ⟨refusals, reads, rfl⟩ := h.accepted hw
    refine ⟨hwait, fun hfalse => ?_, fun _ => ⟨refusals, reads ++ [got], ?_⟩⟩
    · rw [happly] at hfalse
      cases hfalse
    · rw [List.map_append, List.append_assoc, List.cons_append]
      rfl

theorem Waited.pulls (h : Waited wait s made) {pulls : List Pull} (hpulls : Pulls s pulls t) :
    Waited wait t (made ++ pulls.flatMap Pull.calls) := by
  induction hpulls generalizing made with
  | nil => rwa [List.flatMap_nil, List.append_nil]
  | failed hpull _ =>
    rw [List.flatMap_singleton]
    exact h.pulled hpull
  | cons hpull _ _ ih =>
    rw [List.flatMap_cons, ← List.append_assoc]
    exact ih (h.pulled hpull)

theorem Pulls.calls_eq {pulls : List Pull} (h : Pulls s pulls t) :
    t.source.calls = (pulls.flatMap Pull.calls).reverse ++ s.source.calls := by
  induction h with
  | nil => rfl
  | failed hpull _ => rw [List.flatMap_singleton, hpull.calls]
  | cons hpull _ _ ih => rw [ih, hpull.calls, List.flatMap_cons, List.reverse_append, List.append_assoc]

end Runs

/-! ### Turns -/

/-- An operation of a run: its answer and the requests for single bytes that it is made of. -/
structure Turn where
  operation : Operation
  answer : Answer
  pulls : List Pull

/-- The calls that the operation makes on the source, the earliest first. -/
def Turn.calls (turn : Turn) : List SourceCall := turn.pulls.flatMap Pull.calls

/-- **No retry**: no call follows one that yields no data, and the request that makes it fails and is the
last of its operation. -/
structure Turn.StopsAtFailure (turn : Turn) : Prop where
  calls : ∀ call ∈ turn.calls.dropLast, ¬ call.IsVain
  fails : ∀ pull ∈ turn.pulls, (∃ call ∈ pull.calls, call.IsVain) → pull.got = none
  last : ∀ pull ∈ turn.pulls.dropLast, pull.got ≠ none

/-- The turn leads from one stream to the other. Closing makes no request. -/
inductive Takes (s : Stream) : Turn → Stream → Prop
  | asking {turn : Turn} {t : Stream} : turn.operation ≠ .close →
      s.perform turn.operation = (turn.answer, t) → Pulls s turn.pulls t →
      (turn.operation.Asks → turn.pulls ≠ []) → Takes s turn t
  | closing : Takes s ⟨.close, .closed, []⟩ s.close

/-- The turns of a run, one after the other. -/
inductive Course : Stream → List Turn → Stream → Prop
  | nil (s : Stream) : Course s [] s
  | cons {s t u : Stream} {turn : Turn} {later : List Turn} :
      Takes s turn t → Course t later u → Course s (turn :: later) u

/-! ### Closed streams -/

/-- What an operation answers on a stream that has been closed. -/
def Operation.whenClosed : Operation → Answer
  | .readByte => .byte none
  | .readBytes count => .bytes (if 0 < count then none else some [])
  | .readHeaders => .headers none
  | .readHeadersUpTo _ => .limitedHeaders (.error .connectionClosed)
  | .readPost size => .post (if 0 < size then .error (.shortRead size 0) else .ok [])
  | .readMime size boundary =>
    .mime ((Multipart.usable boundary).bind fun _ =>
      if 0 < size then .error (.shortRead size 0) else .ok [])
  | .readRequest _ => .request (.error .connectionClosed)
  | .close => .closed

section Closed

variable {s : Stream}

theorem buffer_close (s : Stream) : s.close.buffer = [] := Window.isSpent_iff.mp rfl

theorem collectBlock_of_closed (hb : s.buffer = []) (hc : s.closed = true) (limit : Option Nat) :
    s.collectBlock [] limit 0 = (.exhausted, s) := by
  rw [collectBlock_eq, if_neg (by decide), readByte_of_closed hc hb]

theorem readBytes_of_closed (hb : s.buffer = []) (hc : s.closed = true) (count : Nat) :
    (s.readBytes count).1 = if 0 < count then none else some [] := by
  have hnone : s.readByte.1 = none := by rw [readByte_of_closed hc hb]
  rw [(s.readBytes_eq_readEach count).1, hnone]
  cases count with
  | zero => rfl
  | succ count => simp

theorem perform_of_closed (hb : s.buffer = []) (hc : s.closed = true) (operation : Operation) :
    (s.perform operation).1 = operation.whenClosed := by
  have hblock := collectBlock_of_closed hb hc
  have hdry : RunsDry s [] s := ⟨s, .nil s, readByte_of_closed hc hb⟩
  cases operation with
  | readByte => rw [perform, readByte_of_closed hc hb, Operation.whenClosed]
  | readBytes count => rw [perform, readBytes_of_closed hb hc, Operation.whenClosed]
  | readHeaders => rw [perform, readHeaders, hblock, Operation.whenClosed]
  | readHeadersUpTo limit => rw [perform, readHeadersUpTo, hblock, Operation.whenClosed]
  | readPost size =>
    rw [perform, hdry.readPost_eq, List.take_nil, Utf8.decodeLossy_nil, Operation.whenClosed,
      List.length_nil]
  | readMime size boundary =>
    cases hu : Multipart.usable boundary with
    | error e =>
      rw [perform, readMime, Operation.whenClosed, hu]
      rfl
    | ok _ =>
      have hscan : (Multipart.scan .linear [] boundary).result = .ok none := rfl
      have hempty : Multipart.transcode .linear [] boundary = .ok [] := by
        rw [Multipart.transcode, Multipart.transcodeBytes, hscan]
        exact congrArg Except.ok Utf8.decodeLossy_nil
      rw [perform, hdry.readMime_eq size hu, List.take_nil, hempty, Operation.whenClosed, hu]
      rfl
  | readRequest limits =>
    rw [perform, readRequest, readHeadersUpTo, hblock, Operation.whenClosed]
  | close => rfl

end Closed

/-! ### Turns of a run -/

section Turns

variable {s t u : Stream} {turn : Turn} {turns later : List Turn} {wait : Nat}
  {made : List SourceCall}

theorem Takes.waited (h : Takes s turn t) (hw : Waited wait s made) :
    Waited wait t (made ++ turn.calls) := by
  cases h with
  | asking _ _ hpulls _ => exact hw.pulls hpulls
  | closing =>
    rw [Turn.calls, List.flatMap_nil, List.append_nil]
    exact ⟨hw.wait_eq, hw.refused, hw.accepted⟩

theorem Takes.calls_eq (h : Takes s turn t) :
    t.source.calls = turn.calls.reverse ++ s.source.calls := by
  cases h with
  | asking _ _ hpulls _ => exact hpulls.calls_eq
  | closing => rfl

theorem Takes.stopsAtFailure (h : Takes s turn t) : turn.StopsAtFailure := by
  cases h with
  | asking _ _ hpulls _ =>
    exact ⟨fun _ => hpulls.not_isVain, fun _ => hpulls.got_of_isVain, hpulls.got_ne_none⟩
  | closing => exact ⟨nofun, nofun, nofun⟩

/-- **The next operation tries again.** -/
theorem Takes.calls_ne_nil (h : Takes s turn t) (hvain : ∃ call ∈ turn.calls, call.IsVain)
    {next : Turn} (hnext : Takes t next u) (hasks : next.operation.Asks) : next.calls ≠ [] := by
  obtain ⟨call, hcall, hvain⟩ := hvain
  cases h with
  | closing => cases hcall
  | asking _ _ hpulls _ =>
    obtain ⟨hb, hc⟩ := hpulls.of_isVain hcall hvain
    cases hnext with
    | closing => exact hasks.elim
    | asking _ _ hnextPulls hne => exact hnextPulls.calls_ne_nil (hne hasks) hb hc

/-- **A closed stream does not turn to its source**, and stays closed. -/
theorem Takes.of_closed (h : Takes s turn t) (hb : s.buffer = []) (hc : s.closed = true) :
    turn.calls = [] ∧ turn.answer = turn.operation.whenClosed ∧ t.buffer = [] ∧ t.closed = true := by
  cases h with
  | closing => exact ⟨rfl, rfl, buffer_close s, rfl⟩
  | asking _ hp hpulls _ =>
    have hanswer := perform_of_closed hb hc turn.operation
    rw [hp] at hanswer
    obtain ⟨rfl, hcalls⟩ := hpulls.of_closed hb hc
    exact ⟨hcalls, hanswer, hb, hc⟩

theorem Course.waited (h : Course s turns t) (hw : Waited wait s made) :
    Waited wait t (made ++ turns.flatMap Turn.calls) := by
  induction h generalizing made with
  | nil => rwa [List.flatMap_nil, List.append_nil]
  | cons hturn _ ih =>
    rw [List.flatMap_cons, ← List.append_assoc]
    exact ih (hturn.waited hw)

theorem Course.calls_eq (h : Course s turns t) :
    t.source.calls = (turns.flatMap Turn.calls).reverse ++ s.source.calls := by
  induction h with
  | nil => rfl
  | cons hturn _ ih => rw [ih, hturn.calls_eq, List.flatMap_cons, List.reverse_append, List.append_assoc]

theorem Course.stopsAtFailure (h : Course s turns t) : ∀ turn ∈ turns, turn.StopsAtFailure := by
  induction h with
  | nil => exact fun _ hmem => absurd hmem List.not_mem_nil
  | cons hturn _ ih => exact List.forall_mem_cons.mpr ⟨hturn.stopsAtFailure, ih⟩

theorem Course.of_closed (h : Course s turns t) (hb : s.buffer = []) (hc : s.closed = true) :
    ∀ turn ∈ turns, turn.calls = [] ∧ turn.answer = turn.operation.whenClosed := by
  induction h with
  | nil => exact fun _ hmem => absurd hmem List.not_mem_nil
  | cons hturn _ ih =>
    obtain ⟨hcalls, hanswer, hb, hc⟩ := hturn.of_closed hb hc
    exact List.forall_mem_cons.mpr ⟨⟨hcalls, hanswer⟩, ih hb hc⟩

/-- What comes after some turns starts where they have led. -/
theorem Course.exists_of_append (h : Course s (turns ++ later) u) : ∃ t, Course t later u := by
  induction turns generalizing s with
  | nil => exact ⟨s, h⟩
  | cons turn turns ih =>
    cases h with
    | cons _ hlater => exact ih hlater

theorem run_course (s : Stream) (operations : List Operation) :
    ∃ turns, Course s turns (s.run operations).2 ∧
      turns.map Turn.operation = operations ∧ turns.map Turn.answer = (s.run operations).1 := by
  induction operations generalizing s with
  | nil => exact ⟨[], .nil s, rfl, rfl⟩
  | cons operation operations ih =>
    have hturn : ∃ pulls, Takes s ⟨operation, (s.perform operation).1, pulls⟩
        (s.perform operation).2 := by
      by_cases hclose : operation = .close
      · subst hclose
        exact ⟨[], .closing⟩
      · obtain ⟨pulls, hpulls, hasks⟩ := s.perform_pulls hclose
        exact ⟨pulls, .asking hclose rfl hpulls hasks⟩
    obtain ⟨pulls, hturn⟩ := hturn
    obtain ⟨turns, hturns, hoperations, hanswers⟩ := ih (s.perform operation).2
    refine ⟨_ :: turns, .cons hturn hturns, ?_, ?_⟩
    · rw [List.map_cons, hoperations]
    · rw [List.map_cons, hanswers]
      rfl

end Turns

/-- **No read is unbounded.** Whatever the source does and whatever is asked of a new stream on it, the
calls made on the source are bounds on the wait of the stream, all refused but the last, and reads behind
that one. An operation is made of requests for single bytes, which make no call while bytes are buffered
and no read after a bound that is refused (`Pull.Allowed`). Each operation stops at the first call that
yields no data, and the next one that asks for bytes turns to the source again; once the stream is closed
no operation does. -/
theorem run_bounded (source : Source) (wait : Nat) (operations : List Operation) :
    ∃ turns, Course (openOn source wait) turns ((openOn source wait).run operations).2 ∧
      turns.map Turn.operation = operations ∧
      turns.map Turn.answer = ((openOn source wait).run operations).1 ∧
      ((openOn source wait).run operations).2.source.calls =
        (turns.flatMap Turn.calls).reverse ++ source.calls ∧
      IsBounded wait (turns.flatMap Turn.calls) ∧
      (∀ turn ∈ turns, turn.StopsAtFailure) ∧
      (∀ before turn next after, turns = before ++ turn :: next :: after →
        (∃ call ∈ turn.calls, call.IsVain) → next.operation.Asks → next.calls ≠ []) ∧
      ∀ before turn after, turns = before ++ turn :: after → turn.operation = .close →
        ∀ later ∈ after, later.calls = [] ∧ later.answer = later.operation.whenClosed := by
  obtain ⟨turns, hturns, hoperations, hanswers⟩ := (openOn source wait).run_course operations
  refine ⟨turns, hturns, hoperations, hanswers, hturns.calls_eq,
    (hturns.waited (waited_openOn source wait)).isBounded, hturns.stopsAtFailure, ?_, ?_⟩
  · rintro before turn next after rfl hvain hasks
    obtain ⟨s, hrest⟩ := hturns.exists_of_append
    cases hrest with
    | cons hturn hrest =>
      cases hrest with
      | cons hnext _ => exact hturn.calls_ne_nil hvain hnext hasks
  · rintro before turn after rfl hclose
    obtain ⟨s, hrest⟩ := hturns.exists_of_append
    cases hrest with
    | cons hturn hafter =>
      cases hturn with
      | asking hne => exact absurd hclose hne
      | closing => exact hafter.of_closed (buffer_close s) rfl

/-- Both bytes of the one arrival are handed out before the source is read again. -/
example : ((openOn { arrivals := [.stall .timedOut, .data [1, 2]], refusals := 1 } 10).run
    [.readByte, .readByte, .readByte, .readBytes 3, .close, .readByte]).2.source.calls.reverse =
      [.setWait 10 false, .setWait 10 true, .read [], .read [1, 2], .read []] := by decide +kernel

end Stream

end FormCapture
