import FormCapture.Proofs.Request.Reading
import FormCapture.Proofs.Stream.Operation

/-! # No byte is lost

What an operation takes from its stream, and what it makes of it. `Accounts s step t`: the operation of
the step leads from `s` to `t` as the requests for single bytes do that are answered with what it has
taken, and its answer is made of exactly these bytes (`Operation.Delivers`).

One operation accounts for its bytes (`perform_accounts`), so a run does: what its operations have taken,
one after the other, then what is buffered, then what the source holds are the bytes that the source held
at first (`run_conserves`). This holds after every operation of a run, since each front of a run is a
run. -/

namespace FormCapture.Stream

open Header

/-! ### One operation -/

/-- What an operation answers when it has taken these bytes. -/
def Operation.Delivers : Operation → Bytes → Answer → Prop
  | .readByte, taken, .byte answer => taken = answer.toList
  | .readBytes _, taken, .bytes answer => taken = answer.getD []
  | .readHeaders, taken, .headers answer => ∀ text, answer = some text → text = textOf taken
  | .readHeadersUpTo _, taken, .limitedHeaders answer =>
    ∀ text, answer = .ok text → text = textOf taken
  | .readPost _, taken, .post answer => ∀ text, answer = .ok text → text = Utf8.decodeLossy taken
  | .readMime _ boundary, taken, .mime answer =>
    ∀ text, answer = .ok text → Multipart.transcode .linear taken boundary = .ok text
  | .readRequest _, taken, .request answer =>
    ∀ request, answer = .ok request → ∃ raw bytes framing, taken = raw ++ bytes ∧
      request.head.raw = textOf raw ∧ Framing.bodyOf framing bytes = .ok request.body
  | _, _, _ => False

/-- An operation of a run, with what it has taken and answered. -/
structure Step where
  operation : Operation
  taken : Bytes
  answer : Answer

/-- A step accounts for its bytes. If no bytes came in the end, the buffer is empty: nothing that was in
it can be handed out again. -/
structure Accounts (s : Stream) (step : Step) (t : Stream) : Prop where
  performs : s.perform step.operation = (step.answer, t)
  takes : Gives s step.taken t ∨ RunsDry s step.taken t ∧ t.buffer = []
  delivers : step.operation.Delivers step.taken step.answer

section Operations

variable {s t : Stream} {operation : Operation} {taken : Bytes} {answer : Answer}

/-- The step that ends with the bytes that have come. -/
theorem accounts_of_gives (hp : s.perform operation = (answer, t)) (hg : Gives s taken t)
    (hd : operation.Delivers taken answer) :
    ∃ taken, Accounts s ⟨operation, taken, (s.perform operation).1⟩ (s.perform operation).2 := by
  rw [hp]
  exact ⟨taken, hp, Or.inl hg, hd⟩

/-- The step that ends because no more bytes came. -/
theorem accounts_of_runsDry (hp : s.perform operation = (answer, t)) (hdry : RunsDry s taken t)
    (hd : operation.Delivers taken answer) :
    ∃ taken, Accounts s ⟨operation, taken, (s.perform operation).1⟩ (s.perform operation).2 := by
  rw [hp]
  exact ⟨taken, hp, Or.inr ⟨hdry, hdry.buffer_eq_nil⟩, hd⟩

/-- An operation that asks for a number of bytes takes those that come. -/
theorem accounts_of_readUpTo {n : Nat} (hp : s.perform operation = (answer, (s.readUpTo n).2))
    (hd : operation.Delivers (s.readUpTo n).1 answer) :
    ∃ taken, Accounts s ⟨operation, taken, (s.perform operation).1⟩ (s.perform operation).2 := by
  rcases s.readUpTo_cases n with ⟨-, hg⟩ | ⟨-, hdry⟩
  · exact accounts_of_gives hp hg hd
  · exact accounts_of_runsDry hp hdry hd

theorem readExactly_eq (s : Stream) (count : Nat) :
    s.readExactly count =
      (if (s.readUpTo count).1.length < count then
        .error (.shortRead count (s.readUpTo count).1.length)
      else .ok (s.readUpTo count).1, (s.readUpTo count).2) := rfl

theorem eq_of_readExactly {count : Nat} {bytes : Bytes} (h : (s.readExactly count).1 = .ok bytes) :
    (s.readUpTo count).1 = bytes := by
  rw [readExactly_eq] at h
  split at h
  · cases h
  · exact Except.ok.inj h

theorem accounts_readByte (s : Stream) : ∃ taken, Accounts s
    ⟨.readByte, taken, (s.perform .readByte).1⟩ (s.perform .readByte).2 := by
  rcases hb : s.readByte with ⟨_ | b, t⟩
  · have hp : s.perform .readByte = (.byte none, t) := by rw [perform, hb]
    exact accounts_of_runsDry hp ⟨s, .nil s, hb⟩ rfl
  · have hp : s.perform .readByte = (.byte (some b), t) := by rw [perform, hb]
    exact accounts_of_gives hp (.cons hb (.nil t)) rfl

theorem accounts_readBytes (s : Stream) (count : Nat) : ∃ taken, Accounts s
    ⟨.readBytes count, taken, (s.perform (.readBytes count)).1⟩ (s.perform (.readBytes count)).2 := by
  refine accounts_of_readUpTo rfl ?_
  show (s.readUpTo count).1 = (if count != 0 && (s.readUpTo count).1.isEmpty then none
    else some (s.readUpTo count).1).getD []
  split
  · next hempty =>
    rw [Bool.and_eq_true] at hempty
    exact List.isEmpty_iff.mp hempty.2
  · rfl

theorem accounts_readHeaders (s : Stream) : ∃ taken, Accounts s
    ⟨.readHeaders, taken, (s.perform .readHeaders).1⟩ (s.perform .readHeaders).2 := by
  rcases hb : s.collectBlock [] none 0 with ⟨outcome, t⟩
  cases collected hb with
  | @complete raw t h =>
    have hp : s.perform .readHeaders = (.headers (some (textOf raw)), t) := by
      rw [perform, readHeaders, hb]
      rfl
    refine accounts_of_gives hp h.gives ?_
    rintro text ⟨⟩
    rfl
  | exhausted hdry =>
    have hp : s.perform .readHeaders = (.headers none, t) := by rw [perform, readHeaders, hb]
    refine accounts_of_runsDry hp hdry ?_
    rintro text ⟨⟩
  | oversized hg =>
    have hp : s.perform .readHeaders = (.headers none, t) := by rw [perform, readHeaders, hb]
    refine accounts_of_gives hp hg ?_
    rintro text ⟨⟩

theorem accounts_readHeadersUpTo (s : Stream) (limit : Nat) : ∃ taken, Accounts s
    ⟨.readHeadersUpTo limit, taken, (s.perform (.readHeadersUpTo limit)).1⟩
    (s.perform (.readHeadersUpTo limit)).2 := by
  rcases hb : s.collectBlock [] (some limit) 0 with ⟨outcome, t⟩
  cases collected hb with
  | @complete raw t h =>
    have hp : s.perform (.readHeadersUpTo limit) = (.limitedHeaders (.ok (textOf raw)), t) := by
      rw [perform, h.readHeadersUpTo_eq]
    refine accounts_of_gives hp h.gives ?_
    rintro text ⟨⟩
    rfl
  | exhausted hdry =>
    have hp : s.perform (.readHeadersUpTo limit) =
        (.limitedHeaders (.error .connectionClosed), t) := by
      rw [perform, readHeadersUpTo, hb]
    refine accounts_of_runsDry hp hdry ?_
    rintro text ⟨⟩
  | oversized hg =>
    have hp : s.perform (.readHeadersUpTo limit) =
        (.limitedHeaders (.error (.headersTooLarge limit)), t) := by
      rw [perform, readHeadersUpTo, hb]
    refine accounts_of_gives hp hg ?_
    rintro text ⟨⟩

theorem accounts_readPost (s : Stream) (size : Nat) : ∃ taken, Accounts s
    ⟨.readPost size, taken, (s.perform (.readPost size)).1⟩ (s.perform (.readPost size)).2 := by
  have hp : s.perform (.readPost size) =
      (.post ((s.readExactly size).1.map Utf8.decodeLossy), (s.readUpTo size).2) := rfl
  refine accounts_of_readUpTo hp ?_
  intro text htext
  cases hread : (s.readExactly size).1 with
  | error e =>
    rw [hread] at htext
    cases htext
  | ok bytes =>
    rw [hread] at htext
    rw [eq_of_readExactly hread]
    exact (Except.ok.inj htext).symm

/-- A boundary that cannot be used is refused before anything is taken. -/
theorem accounts_readMime (s : Stream) (size : Nat) (boundary : Text) : ∃ taken, Accounts s
    ⟨.readMime size boundary, taken, (s.perform (.readMime size boundary)).1⟩
    (s.perform (.readMime size boundary)).2 := by
  cases hu : Multipart.usable boundary with
  | error e =>
    have hp : s.perform (.readMime size boundary) = (.mime (.error e), s) := by
      rw [perform, readMime, hu]
    refine accounts_of_gives hp (.nil s) ?_
    rintro text ⟨⟩
  | ok _ =>
    have hp : s.perform (.readMime size boundary) = (.mime ((s.readExactly size).1.bind fun body =>
        Multipart.transcode .linear body boundary), (s.readUpTo size).2) := by
      rw [perform, readMime, hu]
      rfl
    refine accounts_of_readUpTo hp ?_
    intro text htext
    cases hread : (s.readExactly size).1 with
    | error e =>
      rw [hread] at htext
      cases htext
    | ok bytes =>
      rw [hread] at htext
      rw [eq_of_readExactly hread]
      exact htext

theorem accounts_readRequest (s : Stream) (limits : Limits) : ∃ taken, Accounts s
    ⟨.readRequest limits, taken, (s.perform (.readRequest limits)).1⟩
    (s.perform (.readRequest limits)).2 := by
  have hp : s.perform (.readRequest limits) =
    (.request (s.readRequest limits).1, (s.readRequest limits).2) := rfl
  have hr := reading s limits
  generalize (s.readRequest limits).1 = answer, (s.readRequest limits).2 = u at hp hr
  cases hr with
  | exhausted hdry =>
    refine accounts_of_runsDry hp hdry ?_
    rintro request ⟨⟩
  | oversized hg =>
    refine accounts_of_gives hp hg ?_
    rintro request ⟨⟩
  | refused hblock =>
    refine accounts_of_gives hp hblock.gives ?_
    rintro request ⟨⟩
  | short hblock _ hdry =>
    refine accounts_of_runsDry hp (hblock.gives.then_runsDry hdry) ?_
    rintro request ⟨⟩
  | @whole raw bytes t u head framing hblock hc hbody =>
    refine accounts_of_gives hp (hblock.gives.append hbody) ?_
    intro request hrequest
    cases hb : framing.bodyOf bytes with
    | error e =>
      rw [hb] at hrequest
      cases hrequest
    | ok body =>
      rw [hb] at hrequest
      cases hrequest
      exact ⟨raw, bytes, framing, rfl, (check_eq_ok hc).1.raw, hb⟩

/-- **One operation**: every operation on an open stream accounts for its bytes. -/
theorem perform_accounts (s : Stream) (h : operation ≠ .close) :
    ∃ taken, Accounts s ⟨operation, taken, (s.perform operation).1⟩ (s.perform operation).2 := by
  cases operation with
  | readByte => exact s.accounts_readByte
  | readBytes count => exact s.accounts_readBytes count
  | readHeaders => exact s.accounts_readHeaders
  | readHeadersUpTo limit => exact s.accounts_readHeadersUpTo limit
  | readPost size => exact s.accounts_readPost size
  | readMime size boundary => exact s.accounts_readMime size boundary
  | readRequest limits => exact s.accounts_readRequest limits
  | close => exact absurd rfl h

/-- What a step takes is the front of what remains. -/
theorem Accounts.remaining {step : Step} (h : Accounts s step t) :
    step.taken ++ t.remaining = s.remaining := by
  rcases h.takes with hg | ⟨hdry, -⟩
  · exact hg.remaining
  · exact hdry.remaining

end Operations

/-! ### Runs -/

/-- The steps lead from the first stream to the last, each accounting for its bytes. -/
inductive Transcript : Stream → List Step → Stream → Prop
  | nil (s : Stream) : Transcript s [] s
  | cons {s t u : Stream} {step : Step} {later : List Step} :
      Accounts s step t → Transcript t later u → Transcript s (step :: later) u

theorem Transcript.remaining {s t : Stream} {steps : List Step} (h : Transcript s steps t) :
    steps.flatMap Step.taken ++ t.remaining = s.remaining := by
  induction h with
  | nil => rfl
  | cons hstep _ ih => rw [List.flatMap_cons, List.append_assoc, ih, hstep.remaining]

/-- **Any number of operations**: every run is a transcript. -/
theorem run_transcript {operations : List Operation} (s : Stream) (h : .close ∉ operations) :
    ∃ steps, Transcript s steps (s.run operations).2 ∧
      steps.map Step.operation = operations ∧ steps.map Step.answer = (s.run operations).1 := by
  induction operations generalizing s with
  | nil => exact ⟨[], .nil s, rfl, rfl⟩
  | cons operation later ih =>
    obtain ⟨hne, hlater⟩ := not_or.mp (List.mem_cons.not.mp h)
    obtain ⟨taken, hstep⟩ := s.perform_accounts (Ne.symm hne)
    obtain ⟨steps, hsteps, hoperations, hanswers⟩ := ih (s.perform operation).2 hlater
    refine ⟨⟨operation, taken, (s.perform operation).1⟩ :: steps, .cons hstep hsteps, ?_, ?_⟩
    · rw [List.map_cons, hoperations]
    · rw [List.map_cons, hanswers]
      rfl

/-- **Every byte is handed out once and in order**, whatever the source does. After any operations on a
new stream, what they have taken, what is buffered and what the source holds are, in this order, the bytes
that the source held at first; and the cursor is not past what has been filled, nor that past the
capacity. -/
theorem run_conserves (source : Source) (wait : Nat) {operations : List Operation}
    (h : .close ∉ operations) :
    ∃ steps, Transcript (openOn source wait) steps ((openOn source wait).run operations).2 ∧
      steps.map Step.operation = operations ∧
      steps.map Step.answer = ((openOn source wait).run operations).1 ∧
      steps.flatMap Step.taken ++ (((openOn source wait).run operations).2.buffer ++
        ((openOn source wait).run operations).2.source.held) = source.held ∧
      ((openOn source wait).run operations).2.window.cursor ≤
        ((openOn source wait).run operations).2.window.filled ∧
      ((openOn source wait).run operations).2.window.filled ≤ capacity := by
  obtain ⟨steps, hsteps, hoperations, hanswers⟩ := (openOn source wait).run_transcript h
  exact ⟨steps, hsteps, hoperations, hanswers, hsteps.remaining, Window.cursor_le _,
    Window.filled_le _⟩

/-- A source that refuses a bound on its wait at first, and breaks off in a header block and in a body. -/
def brokenSource : Source :=
  { arrivals := [.data (Bytes.ofAscii "POST / HT"), .stall .interrupted,
      .data (Bytes.ofAscii "\r\n\r\nGET / HTTP/1.1\r\nContent-Length: 9\r\n\r\nab"), .data [],
      .data (Bytes.ofAscii "cd")], refusals := 1 }

theorem run_conserves_brokenSource :
    Operation.close ∉ [.readByte, .readHeaders, .readBytes 4, .readRequest {}, .readPost 3] ∧
      ((openOn brokenSource 10).run
        [.readByte, .readHeaders, .readBytes 4, .readRequest {}, .readPost 3]).1 =
        [.byte none, .headers none, .bytes (some (Bytes.ofAscii "\r\n\r\n")),
          .request (.error (.shortRead 9 2)), .post (.error (.shortRead 3 2))] ∧
      ∃ steps, Transcript (openOn brokenSource 10) steps ((openOn brokenSource 10).run
          [.readByte, .readHeaders, .readBytes 4, .readRequest {}, .readPost 3]).2 ∧
        steps.flatMap Step.taken = brokenSource.held := by
  have hclose : Operation.close ∉
      [.readByte, .readHeaders, .readBytes 4, .readRequest {}, .readPost 3] := by decide
  refine ⟨hclose, by decide +kernel, ?_⟩
  obtain ⟨steps, hsteps, -, -, hbytes, -, -⟩ := run_conserves brokenSource 10 hclose
  have hdry : ((openOn brokenSource 10).run
      [.readByte, .readHeaders, .readBytes 4, .readRequest {}, .readPost 3]).2.remaining = [] := by
    decide +kernel
  exact ⟨steps, hsteps, by rwa [← remaining, hdry, List.append_nil] at hbytes⟩

end FormCapture.Stream
