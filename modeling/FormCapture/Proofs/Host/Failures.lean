import FormCapture.Proofs.Host.Calls
import FormCapture.Proofs.Host.Numbers
import FormCapture.Proofs.Request.Settlement
import FormCapture.Proofs.Stream.Queue

/-! # Calls that fail

A call that is refused leaves the host as it was: all checks are made before the first effect
(`perform_error`). The one error that comes after an effect is that of a body which came as a whole and
cannot be cut into parts; what it costs is what `Consumes` says.

That bytes are missing is no error. The connections of a host are queues (`IsQueued`), so the bytes that
come before a stream runs dry are known (`ahead`), and every call that reads answers from them
(`AnswersFrom`). -/

namespace FormCapture

namespace Host

section Failures

variable {h g : Host} {e : Error}

/-! ### A reading call -/

/-- The host in which the stream of a handle has become `t`. -/
def withStream (h : Host) (n : Nat) (session : Session) (socket : Socket) (t : Stream) : Host :=
  { h with
    sockets := h.sockets.set session.descriptor { socket with source := t.source }
    sessions := h.sessions.set n { session with reader := t.toReader } }

theorem perform_of_stream? {c : Call} {n : Nat} {operation : Stream.Operation}
    (hc : c.reading? = some (n, operation)) {session : Session} {socket : Socket}
    (hstream : h.stream? n = some (session, socket)) :
    h.perform c =
      (Call.value (Stream.perform ⟨session.reader, socket.source⟩ operation).1,
        h.withStream n session socket (Stream.perform ⟨session.reader, socket.source⟩ operation).2) := by
  rw [perform_reading hc]
  simp only [useStream?, orUnknownStream, hstream]
  rfl

theorem perform_of_stream?_none {c : Call} {n : Nat} {operation : Stream.Operation}
    (hc : c.reading? = some (n, operation)) (hnone : h.stream? n = none) :
    h.perform c = (.error (.invalidArgument ("unknown stream " ++ toString n)), h) := by
  rw [perform_reading hc]
  simp only [useStream?, orUnknownStream, hnone]
  rfl

/-- A stream that has not moved leaves the host as it was. -/
theorem IsSound.withStream_self (hs : h.IsSound) {n : Nat} {session : Session} {socket : Socket}
    (hstream : h.stream? n = some (session, socket)) :
    h.withStream n session socket ⟨session.reader, socket.source⟩ = h := by
  obtain ⟨hsession, hsocket⟩ := stream?_eq_some.mp hstream
  have hsockets := Table.set_eq_self hs.sockets hsocket
  have hsessions := Table.set_eq_self hs.sessions hsession
  simp only [withStream, hsockets, hsessions]

/-- A stream hands out these bytes, and stays; no other stream and no other connection is touched. -/
structure Consumes (h : Host) (n fd : Nat) (bytes : Bytes) (g : Host) : Prop where
  reads : h.descriptor? n = some fd
  stays : g.descriptor? n = some fd
  taken : bytes ++ (g.buffer n ++ (g.source fd).held) = h.buffer n ++ (h.source fd).held
  sessions : ∀ m, m ≠ n → g.sessions.get? m = h.sessions.get? m
  sockets : ∀ d, d ≠ fd → g.sockets.get? d = h.sockets.get? d

theorem consumes_of_gives {n : Nat} {session : Session} {socket : Socket}
    (hstream : h.stream? n = some (session, socket)) {bytes : Bytes} {t : Stream}
    (hg : Stream.Gives ⟨session.reader, socket.source⟩ bytes t) :
    Consumes h n session.descriptor bytes (h.withStream n session socket t) := by
  obtain ⟨hsession, hsocket⟩ := stream?_eq_some.mp hstream
  have hset : (h.withStream n session socket t).sessions.get? n =
      some { session with reader := t.toReader } :=
    (Table.get?_set_of_some hsession _ _).trans (if_pos rfl)
  refine
    { reads := by rw [descriptor?, hsession, Option.map_some]
      stays := by rw [descriptor?, hset, Option.map_some]
      taken := ?_
      sessions := fun m hm => (Table.get?_set_of_some hsession _ _).trans (if_neg hm)
      sockets := fun d hd => (Table.get?_set_of_some hsocket _ _).trans (if_neg hd) }
  have hsource : (h.withStream n session socket t).source session.descriptor = t.source := by
    rw [withStream, source_set hsocket, if_pos rfl]
  rw [buffer_eq hset, hsource, buffer_eq hsession, source_eq hsocket]
  exact hg.remaining

/-! ### Errors -/

theorem value_eq_error {answer : Stream.Answer} (hv : Call.value answer = .error e) :
    answer = .mime (.error e) ∧ ∀ expected received, e ≠ .shortRead expected received := by
  cases answer with
  | post body => cases body <;> cases hv
  | mime body =>
    cases body with
    | ok text => cases hv
    | error e' =>
      cases e' with
      | shortRead => cases hv
      | _ =>
        cases hv
        exact ⟨rfl, fun _ _ h => nomatch h⟩
  | _ => cases hv

theorem usable_eq_error {boundary : Text} (he : Multipart.usable boundary = .error e) :
    e = .invalidBoundary boundary := by
  unfold Multipart.usable at he
  split at he
  · cases he
    rfl
  · cases he

/-- The errors of a body in parts, other than that bytes are missing: the boundary is refused before
anything is read, or the body has come as a whole and cannot be cut. -/
theorem readMime_error {s t : Stream} {size : Nat} {boundary : Text}
    (hr : s.readMime size boundary = (.error e, t))
    (hne : ∀ expected received, e ≠ .shortRead expected received) :
    e = .invalidBoundary boundary ∧ t = s ∨
      ∃ bytes, bytes.length = size ∧ Stream.Gives s bytes t ∧
        Multipart.transcode .linear bytes boundary = .error e := by
  rw [Stream.readMime] at hr
  cases hu : Multipart.usable boundary with
  | error e' =>
    rw [hu] at hr
    cases hr
    exact Or.inl ⟨usable_eq_error hu, rfl⟩
  | ok _ =>
    rw [hu] at hr
    rcases s.gives_or_runsDry size with ⟨bytes, u, rfl, hg⟩ | ⟨bytes, u, hlt, hdry⟩
    · rw [Stream.readExactly_of_gives hg] at hr
      obtain ⟨htranscode, rfl⟩ := Prod.mk.inj hr
      exact Or.inr ⟨bytes, rfl, hg, htranscode⟩
    · rw [Stream.readExactly_of_runsDry hdry hlt] at hr
      cases hr
      exact absurd rfl (hne _ _)

/-- A call that reads gets an error from a body in parts only. -/
theorem reading_error {c : Call} {n : Nat} {operation : Stream.Operation}
    (hc : c.reading? = some (n, operation)) {s : Stream}
    (hv : Call.value (s.perform operation).1 = .error e) :
    ∃ size boundary, c = .readMime n size boundary ∧
      (e = .invalidBoundary boundary ∧ (s.perform operation).2 = s ∨
        ∃ bytes, bytes.length = size ∧ Stream.Gives s bytes (s.perform operation).2 ∧
          Multipart.transcode .linear bytes boundary = .error e) := by
  obtain ⟨hanswer, hne⟩ := value_eq_error hv
  cases c with
  | readMime _ size boundary =>
    cases hc
    exact ⟨size, boundary, rfl, readMime_error (Prod.ext (Stream.Answer.mime.inj hanswer) rfl) hne⟩
  | readByte | readHeaders | readPost =>
    cases hc
    cases hanswer
  | openStream | closeStream => cases hc

/-- A stream that cannot be opened or closed is refused. -/
theorem perform_error_of_reading?_none {c : Call} (hc : c.reading? = none)
    (he : h.perform c = (.error e, g)) : e.IsRefusal ∧ g = h := by
  cases c with
  | openStream fd =>
    cases fd with
    | negSucc fd =>
      cases he
      exact ⟨trivial, rfl⟩
    | ofNat fd =>
      rw [perform] at he
      cases hopen : h.openStream? fd with
      | none =>
        rw [hopen] at he
        cases he
        exact ⟨trivial, rfl⟩
      | some opened =>
        rw [hopen] at he
        cases he
  | closeStream n =>
    rw [perform, orUnknownStream] at he
    cases hclose : h.closeStream? n with
    | none =>
      rw [hclose] at he
      cases he
      exact ⟨trivial, rfl⟩
    | some last =>
      rw [hclose] at he
      cases he
  | _ => cases hc

/-- A call that a host refuses leaves it as it was, and the only other error is that of a body. -/
theorem IsSound.perform_error (hs : h.IsSound) {c : Call} (he : h.perform c = (.error e, g)) :
    e.IsRefusal ∧ g = h ∨
      ∃ n size boundary fd bytes, c = .readMime n size boundary ∧ bytes.length = size ∧
        Multipart.transcode .linear bytes boundary = .error e ∧ Consumes h n fd bytes g := by
  cases hreading : c.reading? with
  | none => exact Or.inl (perform_error_of_reading?_none hreading he)
  | some reading =>
    obtain ⟨n, operation⟩ := reading
    cases hstream : h.stream? n with
    | none =>
      rw [perform_of_stream?_none hreading hstream] at he
      cases he
      exact Or.inl ⟨trivial, rfl⟩
    | some found =>
      rw [perform_of_stream? hreading hstream] at he
      obtain ⟨hvalue, rfl⟩ := Prod.mk.inj he
      obtain ⟨size, boundary, rfl, hcause⟩ := reading_error hreading hvalue
      rcases hcause with ⟨rfl, hsame⟩ | ⟨bytes, hlen, hg, htranscode⟩
      · rw [hsame]
        exact Or.inl ⟨trivial, hs.withStream_self hstream⟩
      · exact Or.inr ⟨n, size, boundary, _, bytes, rfl, hlen, htranscode, consumes_of_gives hstream hg⟩

/-! ### Hosts on queues -/

/-- Every connection is a queue, and every stream is open and waits as the host wants it to. -/
structure IsQueued (h : Host) : Prop where
  sockets : h.sockets.Holds fun socket => socket.source.IsQueue
  sessions : h.sessions.Holds fun session =>
    ∀ source : Source, source.IsQueue → Stream.OnQueue ⟨session.reader, source⟩ h.wait

theorem isQueued_new (wait : Nat) : IsQueued { wait := wait } where
  sockets := Table.holds_empty 3
  sessions := Table.holds_empty 1

theorem IsQueued.onQueue (hq : h.IsQueued) {n : Nat} {session : Session} {socket : Socket}
    (hsession : h.sessions.get? n = some session)
    (hsocket : h.sockets.get? session.descriptor = some socket) :
    Stream.OnQueue ⟨session.reader, socket.source⟩ h.wait :=
  hq.sessions _ _ hsession _ (hq.sockets _ _ hsocket)

theorem Happens.isQueued {t u : Tally} {s : Step} {answer : Answer} {event : Event}
    (hstep : Happens t s answer event u) (hq : t.host.IsQueued) : u.host.IsQueued := by
  cases hstep with
  | nothing => exact hq
  | connected => exact ⟨hq.sockets.issue (Source.isQueue_socket []), hq.sessions⟩
  | sent hget => exact ⟨hq.sockets.set ((hq.sockets _ _ hget).feed _), hq.sessions⟩
  | hungUp hget | closed hget =>
    have hsource := hq.sockets _ _ hget
    exact ⟨hq.sockets.set hsource, hq.sessions⟩
  | opened =>
    refine ⟨hq.sockets, hq.sessions.issue fun source hsource => ?_⟩
    exact Stream.onQueue_openOn hsource t.host.wait
  | dropped => exact ⟨hq.sockets, hq.sessions.erase _⟩
  | drew _ _ hm hsocket haccounts =>
    have hsession := (Tally.session?_eq_some.mp hm).2
    have hafter := haccounts.onQueue (hq.onQueue hsession hsocket)
    exact ⟨hq.sockets.set hafter.source, hq.sessions.set fun _ hsource => hafter.withSource hsource⟩

theorem run_isQueued (wait : Nat) (steps : List Step) : (run { wait := wait } steps).2.IsQueued := by
  obtain ⟨t, hhost, -, hqueued⟩ := (isCounted_new wait).run (P := fun t => t.host.IsQueued)
    (fun hstep _ => hstep.isQueued) (isQueued_new wait) steps
  exact hhost ▸ hqueued

/-! ### Where no bytes come -/

/-- The bytes that come to a stream on a descriptor before it finds none: those that it has buffered and
those that are queued, or none at all if no socket takes the bound on the wait. -/
def ahead (h : Host) (n fd : Nat) : Bytes :=
  if h.wait = 0 then [] else h.buffer n ++ (h.source fd).held

/-- Calls that read the stream of a handle answer from these bytes, which come before the first place
where none come. -/
structure AnswersFrom (h : Host) (n : Nat) (bytes : Bytes) : Prop where
  comes : ∃ session socket t, h.stream? n = some (session, socket) ∧
    Stream.RunsDry ⟨session.reader, socket.source⟩ bytes t
  readByte : (h.call "readByte".toList [.stream n]).1 =
    .ok (.int (bytes.head?.elim (-1) fun b => b.toNat))
  readHeaders : ∃ v, (h.call "readHeaders".toList [.stream n]).1 = .ok v ∧
    (v = .null ↔ Header.IsOpen bytes)
  readPost : ∀ size : Nat, (h.call "readPost".toList [.stream n, .int size]).1 =
    .ok (if bytes.length < size then .bool false else .text (Utf8.decodeLossy (bytes.take size)))
  readMime : ∀ (size : Nat) (boundary : Text), Multipart.usable boundary = .ok () →
    (h.call "readMime".toList [.stream n, .int size, .text boundary]).1 =
      if bytes.length < size then .ok .null
      else (Multipart.transcode .linear (bytes.take size) boundary).map .text

theorem answersFrom_of_runsDry {n : Nat} {session : Session} {socket : Socket}
    (hstream : h.stream? n = some (session, socket)) {bytes : Bytes} {t : Stream}
    (hdry : Stream.RunsDry ⟨session.reader, socket.source⟩ bytes t) : h.AnswersFrom n bytes := by
  have hcall : ∀ {c : Call} {operation}, c.reading? = some (n, operation) →
      (h.call c.native.name.toList c.values).1 =
        Call.value (Stream.perform ⟨session.reader, socket.source⟩ operation).1 :=
    fun hreading => by rw [call_values, perform_of_stream? hreading hstream]
  refine
    { comes := ⟨session, socket, t, hstream, hdry⟩
      readByte := (hcall (c := .readByte n) rfl).trans ?_
      readHeaders := ⟨_, (hcall (c := .readHeaders n) rfl).trans rfl, ?_⟩
      readPost := fun size => (hcall (c := .readPost n size) rfl).trans ?_
      readMime := fun size boundary husable =>
        (hcall (c := .readMime n size boundary) rfl).trans ?_ }
  · rw [Stream.perform, hdry.readByte_eq]
    rfl
  · rw [← hdry.readHeaders_eq_none_iff]
    cases (Stream.readHeaders ⟨session.reader, socket.source⟩).1 with
    | none => exact ⟨fun _ => rfl, fun _ => rfl⟩
    | some text => exact ⟨fun hv => (by cases hv), fun hn => absurd hn (Option.some_ne_none _)⟩
  · rw [Stream.perform, hdry.readPost_eq]
    split <;> rfl
  · rw [Stream.perform, hdry.readMime_eq size husable]
    split
    · rfl
    · cases ht : Multipart.transcode .linear (bytes.take size) boundary with
      | ok text => rfl
      | error e =>
        obtain ⟨missing, rfl⟩ := Stream.exists_of_transcode_error ht
        rfl

/-- **Every stream of a host on queues** answers from what it has ahead. -/
theorem IsQueued.answersFrom (hq : h.IsQueued) (hs : h.IsSound) {n fd : Nat}
    (hn : h.descriptor? n = some fd) : h.AnswersFrom n (h.ahead n fd) := by
  obtain ⟨session, hsession, rfl⟩ := Option.map_eq_some_iff.mp hn
  obtain ⟨socket, hstream⟩ := hs.stream? hsession
  obtain ⟨-, hsocket⟩ := stream?_eq_some.mp hstream
  have hqueue := hq.onQueue hsession hsocket
  obtain ⟨t, hdry⟩ := hqueue.exists_runsDry
  have hahead : Stream.ahead ⟨session.reader, socket.source⟩ = h.ahead n session.descriptor := by
    rw [Stream.ahead, ahead, hqueue.wait_eq, buffer_eq hsession, source_eq hsocket]
    rfl
  exact answersFrom_of_runsDry hstream (hahead ▸ hdry)

end Failures

/-! ### Hosts that a run leads to -/

/-- The host is what some run of a new host leads to. -/
def IsReached (h : Host) : Prop := ∃ wait steps, h = (run { wait := wait } steps).2

/-- **A call that fails leaves the host as it was**, down to the sources of its connections, unless a body
in parts has come as a whole and cannot be cut: then it has been taken from its stream, which stays. That
bytes are missing is no failure: the calls that read a stream answer from the bytes that come before it
finds none, and say so if these are too few. -/
theorem call_error_or_answers {h : Host} (hr : h.IsReached) :
    (∀ name vs e g, h.call name vs = (.error e, g) →
      e.IsRefusal ∧ g = h ∨
        ∃ (n size : Nat) (boundary : Text) (fd : Nat) (bytes : Bytes) (missing : String),
          name = "readMime".toList ∧ vs = [.stream n, .int size, .text boundary] ∧
          bytes.length = size ∧ e = .malformedMultipart missing ∧
          Multipart.transcode .linear bytes boundary = .error e ∧ Consumes h n fd bytes g) ∧
    ∀ n fd, h.descriptor? n = some fd → h.AnswersFrom n (h.ahead n fd) := by
  obtain ⟨wait, steps, rfl⟩ := hr
  have hs := run_isSound wait steps
  refine ⟨fun name vs e g he => ?_, fun n fd => (run_isQueued wait steps).answersFrom hs⟩
  cases hf : Native.ofName? name with
  | none =>
    rw [call, hf] at he
    cases he
    exact Or.inl ⟨trivial, rfl⟩
  | some f =>
    cases hv : Call.ofValues f vs with
    | error e' =>
      simp only [call, hf, hv] at he
      cases he
      exact Or.inl ⟨Call.onlyRefuses_ofValues f vs e hv, rfl⟩
    | ok c =>
      simp only [call, hf, hv] at he
      rcases hs.perform_error he with hrefused | ⟨n, size, boundary, fd, bytes, rfl, hlen, ht, hcost⟩
      · exact Or.inl hrefused
      · obtain ⟨rfl, rfl⟩ := Call.ofValues_eq_ok_iff.mp hv
        obtain ⟨missing, hmissing⟩ := Stream.exists_of_transcode_error ht
        exact Or.inr ⟨n, size, boundary, fd, bytes, missing, Native.ofName?_eq_some_iff.mp hf, rfl,
          hlen, hmissing, ht, hcost⟩

/-- A stream with a body that breaks off. -/
def stalledHost : Host :=
  (run {} [.connect, .send 3 (Bytes.ofAscii "ab--b"), .call "openStream".toList [.int 3]]).2

theorem call_error_or_answers_stalledHost :
    stalledHost.IsReached ∧
      stalledHost.call "readMime".toList [.stream 1, .int 1, .text []] =
        (.error (.invalidBoundary []), stalledHost) ∧
      (stalledHost.call "readPost".toList [.stream 1, .int 6]).1 = .ok (.bool false) ∧
      ∃ fd bytes, bytes.length = 5 ∧ Consumes stalledHost 1 fd bytes
        (stalledHost.call "readMime".toList [.stream 1, .int 5, .text ['b']]).2 := by
  have hreached : stalledHost.IsReached := ⟨defaultWait, _, rfl⟩
  obtain ⟨herrors, hanswers⟩ := call_error_or_answers hreached
  refine ⟨hreached, ?_, ?_, ?_⟩
  · have hrefused : (stalledHost.call "readMime".toList [.stream 1, .int 1, .text []]).1 =
        .error (.invalidBoundary []) := by decide +kernel
    rcases herrors _ _ _ _ (Prod.ext hrefused rfl) with ⟨-, hsame⟩ | ⟨_, _, _, _, _, _, _, _, _, he, _⟩
    · exact Prod.ext hrefused hsame
    · cases he
  · have hdescriptor : stalledHost.descriptor? 1 = some 3 := by decide +kernel
    have hpost := (hanswers 1 3 hdescriptor).readPost 6
    exact hpost.trans (by decide +kernel)
  · have hbroken : (stalledHost.call "readMime".toList [.stream 1, .int 5, .text ['b']]).1 =
        .error (.malformedMultipart "body ends inside a boundary line") := by decide +kernel
    rcases herrors _ _ _ _ (Prod.ext hbroken rfl) with
      ⟨hrefusal, -⟩ | ⟨_, _, _, fd, bytes, _, -, hvalues, hlen, -, -, hcost⟩
    · cases hrefusal
    · cases hvalues
      exact ⟨fd, bytes, hlen, hcost⟩

end Host

end FormCapture
