import FormCapture.Proofs.Host.Failures

/-! # What a script captures

A script can read a request in two calls: the header block, and then the body that its head declares
(`Head.bodyCall?`). It gets what `Stream.readRequest` makes of the same bytes: the block and the text of the
body, or, where the request fails for want of bytes or for a body that cannot be cut, the value or the error
that stands for it (`Host.Captures`).

The two read different streams, of which one has a limit, so they are followed step by step
(`Host.Follows`): what the stream of a handle answers is what a stream that agrees with it does. -/

namespace FormCapture

/-- The call by which the body that a head declares is read from the stream of a handle. -/
def Head.bodyCall? (head : Head) (n : Nat) : Option Call :=
  match head.contentLength, head.boundary with
  | .ok (some length), .ok (some boundary) => some (.readMime n length boundary)
  | .ok (some length), .ok none => some (.readPost n length)
  | _, _ => none

/-- The call that reads a body with this framing. -/
def Framing.call? (n : Nat) : Framing → Option Call
  | none => .none
  | text length => some (.readPost n length)
  | multipart length boundary => some (.readMime n length boundary)

theorem Framing.call?_of_ofHead {head : Head} {limits : Limits} {framing : Framing}
    (h : Framing.ofHead head limits = .ok framing) (n : Nat) :
    head.bodyCall? n = framing.call? n := by
  unfold Framing.ofHead at h
  unfold Head.bodyCall?
  split at h
  · cases h
  · cases hlength : head.contentLength with
    | error e =>
      rw [hlength] at h
      cases h
    | ok length =>
      rw [hlength] at h
      cases length with
      | none =>
        cases h
        rfl
      | some length =>
        simp only at h
        split at h
        · cases h
        · cases hboundary : head.boundary with
          | error e =>
            rw [hboundary] at h
            cases h
          | ok boundary =>
            rw [hboundary] at h
            cases boundary <;> (cases h; rfl)

theorem Header.ofHead_of_check {limits : Limits} {block : Text} {head : Head} {framing : Framing}
    (h : check limits block = .ok (head, framing)) : Framing.ofHead head limits = .ok framing := by
  obtain ⟨head', -, hframing⟩ := Call.bind_eq_ok.mp h
  cases ho : Framing.ofHead head' limits with
  | error e =>
    rw [ho] at hframing
    cases hframing
  | ok framing' =>
    rw [ho] at hframing
    cases hframing
    exact ho

namespace Host

section Captures

variable {h g : Host} {n fd : Nat} {s : Stream}

/-- A call as a script makes it. -/
def callOf (h : Host) (c : Call) : Except Error Value × Host := h.call c.native.name.toList c.values

/-- The bytes that the stream of a handle has still to hand out. -/
def unread (h : Host) (n fd : Nat) : Bytes := h.buffer n ++ (h.source fd).held

/-- **What a script gets** that reads the header block and then the body which its head declares, where a
request with this result and these bytes left behind it was to be read. -/
def Captures (h : Host) (n fd : Nat) (rest : Bytes) : Except Error Request → Prop
  | .ok request => ∃ g, h.callOf (.readHeaders n) = (.ok (.text request.head.raw), g) ∧
    match request.head.bodyCall? n with
    | none => request.body = .none ∧ g.unread n fd = rest
    | some c => request.body ≠ .none ∧ ∃ last,
        g.callOf c = (.ok (.text request.body.content), last) ∧ last.unread n fd = rest
  | .error .connectionClosed => (h.callOf (.readHeaders n)).1 = .ok .null
  | .error (.shortRead length _) => ∃ head g, Head.parse head.raw = .ok head ∧
    h.callOf (.readHeaders n) = (.ok (.text head.raw), g) ∧
    (head.bodyCall? n = some (.readPost n length) ∧
        (g.callOf (.readPost n length)).1 = .ok (.bool false) ∨
      ∃ boundary, head.bodyCall? n = some (.readMime n length boundary) ∧
        (g.callOf (.readMime n length boundary)).1 = .ok .null)
  | .error (.malformedMultipart missing) => ∃ head g length boundary, Head.parse head.raw = .ok head ∧
    h.callOf (.readHeaders n) = (.ok (.text head.raw), g) ∧
    head.bodyCall? n = some (.readMime n length boundary) ∧
    (g.callOf (.readMime n length boundary)).1 = .error (.malformedMultipart missing)
  -- the head is refused, which scripts are free to do themselves
  | .error _ => True

/-! ### Streams that are followed -/

/-- The stream of a handle reads the connection of a descriptor, and agrees with the given one; both give
all they have. -/
structure Follows (h : Host) (n fd : Nat) (s : Stream) : Prop where
  stream : ∃ session socket, h.stream? n = some (session, socket) ∧ session.descriptor = fd ∧
    Stream.Agree s ⟨session.reader, socket.source⟩ ∧ Stream.Pours ⟨session.reader, socket.source⟩
  pours : s.Pours

theorem Follows.unread_eq (hf : h.Follows n fd s) : h.unread n fd = s.remaining := by
  obtain ⟨session, socket, hstream, rfl, hagree, hpours⟩ := hf.stream
  obtain ⟨hsession, hsocket⟩ := stream?_eq_some.mp hstream
  rw [unread, buffer_eq hsession, source_eq hsocket]
  exact hagree.remaining_eq hf.pours hpours

theorem stream?_withStream {session : Session} {socket : Socket}
    (hstream : h.stream? n = some (session, socket)) (t : Stream) :
    (h.withStream n session socket t).stream? n =
      some ({ session with reader := t.toReader }, { socket with source := t.source }) := by
  obtain ⟨hsession, hsocket⟩ := stream?_eq_some.mp hstream
  refine stream?_eq_some.mpr ⟨?_, ?_⟩
  · exact (Table.get?_set_of_some hsession _ _).trans (if_pos rfl)
  · exact (Table.get?_set_of_some hsocket _ _).trans (if_pos rfl)

/-- **One call**: the stream that is followed says what is answered, and is followed on. -/
theorem Follows.callOf (hf : h.Follows n fd s) {c : Call} {operation : Stream.Operation}
    (hc : c.reading? = some (n, operation)) :
    ∃ g, h.callOf c = (Call.value (s.perform operation).1, g) ∧ g.Follows n fd (s.perform operation).2 := by
  obtain ⟨session, socket, hstream, rfl, hagree, hpours⟩ := hf.stream
  have hopen : operation ≠ .close := by
    rintro rfl
    cases c <;> cases hc
  obtain ⟨_, haccounts⟩ := Stream.perform_accounts ⟨session.reader, socket.source⟩ hopen
  obtain ⟨_, haccounts'⟩ := Stream.perform_accounts s hopen
  have hmatch := hagree.perform operation
  refine ⟨h.withStream n session socket
    (Stream.perform ⟨session.reader, socket.source⟩ operation).2, ?_, ?_⟩
  · rw [Host.callOf, call_values, perform_of_stream? hc hstream, ← hmatch.answer]
  · exact ⟨⟨_, _, stream?_withStream hstream _, rfl, hmatch.agree, haccounts.pours hpours⟩,
      haccounts'.pours hf.pours⟩

/-! ### The header block -/

open FormCapture.Header FormCapture.Stream

variable {t u : Stream} {limits : Limits} {raw bytes : Bytes} {head : Head} {framing : Framing}

theorem Follows.readHeaders (hf : h.Follows n fd s) {limit : Option Nat}
    (hblock : HeadBlock s limit raw t) :
    ∃ g, h.callOf (.readHeaders n) = (.ok (.text (textOf raw)), g) ∧ g.Follows n fd t := by
  have hread : s.perform .readHeaders = (.headers (some (textOf raw)), t) := by
    rw [Stream.perform, hblock.readHeaders_eq]
  obtain ⟨g, hcall, hg⟩ := hf.callOf (c := .readHeaders n) rfl
  rw [hread] at hcall hg
  exact ⟨g, hcall, hg⟩

theorem Follows.readHeaders_of_runsDry (hf : h.Follows n fd s) (hdry : RunsDry s raw t)
    (hopen : IsOpen raw) : (h.callOf (.readHeaders n)).1 = .ok .null := by
  have hread : (s.perform .readHeaders).1 = .headers none :=
    congrArg Stream.Answer.headers (hdry.readHeaders_eq_none_iff.mpr hopen)
  obtain ⟨g, hcall, -⟩ := hf.callOf (c := .readHeaders n) rfl
  rw [hcall, hread]
  rfl

/-! ### The body -/

theorem Follows.readPost_of_runsDry (hf : h.Follows n fd s) (hdry : RunsDry s bytes t) {length : Nat}
    (hshort : bytes.length < length) : (h.callOf (.readPost n length)).1 = .ok (.bool false) := by
  obtain ⟨g, hcall, -⟩ := hf.callOf (c := .readPost n length) rfl
  rw [hcall, Stream.perform, Stream.readPost, readExactly_of_runsDry hdry hshort]
  rfl

theorem Follows.readMime_of_runsDry (hf : h.Follows n fd s) (hdry : RunsDry s bytes t) {length : Nat}
    (hshort : bytes.length < length) {boundary : Text} (hu : Multipart.usable boundary = .ok ()) :
    (h.callOf (.readMime n length boundary)).1 = .ok .null := by
  obtain ⟨g, hcall, -⟩ := hf.callOf (c := .readMime n length boundary) rfl
  rw [hcall, Stream.perform, Stream.readMime, hu, readExactly_of_runsDry hdry hshort]
  rfl

theorem Follows.readPost (hf : h.Follows n fd s) (hgives : Gives s bytes t) :
    ∃ g, h.callOf (.readPost n bytes.length) = (.ok (.text (Utf8.decodeLossy bytes)), g) ∧
      g.Follows n fd t := by
  obtain ⟨g, hcall, hg⟩ := hf.callOf (c := .readPost n bytes.length) rfl
  rw [Stream.perform, Stream.readPost, readExactly_of_gives hgives] at hcall hg
  exact ⟨g, hcall, hg⟩

theorem Follows.readMime (hf : h.Follows n fd s) (hgives : Gives s bytes t) {boundary : Text}
    (hu : Multipart.usable boundary = .ok ()) :
    ∃ g, h.callOf (.readMime n bytes.length boundary) =
        (mimeValue (Multipart.transcode .linear bytes boundary), g) ∧ g.Follows n fd t := by
  obtain ⟨g, hcall, hg⟩ := hf.callOf (c := .readMime n bytes.length boundary) rfl
  rw [Stream.perform, Stream.readMime, hu, readExactly_of_gives hgives] at hcall hg
  exact ⟨g, hcall, hg⟩

/-! ### Requests -/

/-- The header block of a head that is not refused, after which the script knows how to read the body. -/
theorem Follows.readHeaders_of_check (hf : h.Follows n fd s)
    (hblock : HeadBlock s (some limits.maxHeaderSize) raw t)
    (hcheck : check limits (textOf raw) = .ok (head, framing)) :
    ∃ g, h.callOf (.readHeaders n) = (.ok (.text head.raw), g) ∧ g.Follows n fd t ∧
      Head.parse head.raw = .ok head ∧ head.bodyCall? n = framing.call? n := by
  obtain ⟨g, hheaders, hg⟩ := hf.readHeaders hblock
  have hparsed := (check_eq_ok hcheck).1
  rw [← hparsed.raw] at hheaders
  exact ⟨g, hheaders, hg, hparsed.raw.symm ▸ hparsed.parse,
    Framing.call?_of_ofHead (ofHead_of_check hcheck) n⟩

/-- A body that breaks off. -/
theorem Follows.captures_short (hf : h.Follows n fd s)
    (hblock : HeadBlock s (some limits.maxHeaderSize) raw t)
    (hcheck : check limits (textOf raw) = .ok (head, framing)) (hdry : RunsDry t bytes u)
    (hshort : bytes.length < framing.length) (rest : Bytes) :
    h.Captures n fd rest (.error (.shortRead framing.length bytes.length)) := by
  obtain ⟨g, hheaders, hg, hparse, hbody⟩ := hf.readHeaders_of_check hblock hcheck
  refine ⟨head, g, hparse, hheaders, ?_⟩
  cases framing with
  | none => exact absurd hshort (Nat.not_lt_zero _)
  | text length => exact Or.inl ⟨hbody, hg.readPost_of_runsDry hdry hshort⟩
  | multipart length boundary =>
    exact Or.inr ⟨boundary, hbody, hg.readMime_of_runsDry hdry hshort (isUsable_of_check hcheck)⟩

/-- A body that comes as a whole. -/
theorem Follows.captures_whole (hf : h.Follows n fd s)
    (hblock : HeadBlock s (some limits.maxHeaderSize) raw t)
    (hcheck : check limits (textOf raw) = .ok (head, framing)) (hgives : Gives t bytes u)
    (hlen : bytes.length = framing.length) :
    h.Captures n fd u.remaining ((framing.bodyOf bytes).map (Request.mk head)) := by
  obtain ⟨g, hheaders, hg, hparse, hbody⟩ := hf.readHeaders_of_check hblock hcheck
  cases framing with
  | none =>
    obtain rfl := List.length_eq_zero_iff.mp hlen
    cases hgives
    refine ⟨g, hheaders, ?_⟩
    rw [hbody]
    exact ⟨rfl, hg.unread_eq⟩
  | text length =>
    obtain rfl : bytes.length = length := hlen
    obtain ⟨last, hcall, hlast⟩ := hg.readPost hgives
    refine ⟨g, hheaders, ?_⟩
    rw [hbody]
    exact ⟨fun hne => (by cases hne), last, hcall, hlast.unread_eq⟩
  | multipart length boundary =>
    obtain rfl : bytes.length = length := hlen
    obtain ⟨last, hcall, hlast⟩ := hg.readMime hgives (isUsable_of_check hcheck)
    rw [Framing.bodyOf]
    cases ht : Multipart.transcode .linear bytes boundary with
    | ok content =>
      rw [ht] at hcall
      refine ⟨g, hheaders, ?_⟩
      rw [hbody]
      exact ⟨fun hne => (by cases hne), last, hcall, hlast.unread_eq⟩
    | error e =>
      obtain ⟨missing, rfl⟩ := exists_of_transcode_error ht
      rw [ht] at hcall
      exact ⟨head, g, bytes.length, boundary, hparse, hheaders, hbody, congrArg Prod.fst hcall⟩

/-- **A script gets what a request is made of**, from any stream that agrees. -/
theorem Follows.captures (hf : h.Follows n fd s) (limits : Limits) :
    h.Captures n fd (s.readRequest limits).2.remaining (s.readRequest limits).1 := by
  have hreading := reading s limits
  generalize (s.readRequest limits).1 = answer at hreading ⊢
  generalize (s.readRequest limits).2 = last at hreading ⊢
  cases hreading with
  | exhausted hdry hopen => exact hf.readHeaders_of_runsDry hdry hopen
  | oversized => exact trivial
  | refused _ hcheck =>
    rcases error_of_check hcheck with rfl | rfl | ⟨boundary, rfl⟩ <;> exact trivial
  | short hblock hcheck hdry hshort => exact hf.captures_short hblock hcheck hdry hshort _
  | whole hblock hcheck hgives hlen => exact hf.captures_whole hblock hcheck hgives hlen

end Captures

/-! ### Hosts that hold a request -/

section Filled

variable {h : Host} {wait : Nat} {bytes : Bytes}

/-- The peer sends these bytes and closes, and a stream is opened. -/
def requestSteps (sends : List Bytes) : List Step :=
  .connect :: (sends.map (.send 3) ++ [.hangup 3, .call "openStream".toList [.int 3]])

theorem run_append (h : Host) (first later : List Step) :
    (h.run (first ++ later)).2 = ((h.run first).2.run later).2 := by
  induction first generalizing h with
  | nil => rfl
  | cons s first ih => exact ih (h.step s).2

/-- The first connection is open on both sides and holds these bytes; there is no stream yet. -/
structure IsFilled (h : Host) (wait : Nat) (bytes : Bytes) : Prop where
  wait_eq : h.wait = wait
  sessions : h.sessions = Table.empty 1
  socket : ∃ source : Source, h.sockets.get? 3 = some ⟨source, true, true⟩ ∧ source.IsQueue ∧
    source.held = bytes

theorem isFilled_connect (wait : Nat) : IsFilled (({ wait := wait } : Host).connect).2 wait [] where
  wait_eq := rfl
  sessions := rfl
  socket := ⟨_, rfl, Source.isQueue_socket [], rfl⟩

theorem IsFilled.send (hf : h.IsFilled wait bytes) (more : Bytes) :
    (h.send 3 more).2.IsFilled wait (bytes ++ more) := by
  obtain ⟨source, hget, hqueue, hheld⟩ := hf.socket
  have hopen : (h.openSocket? 3).filter Socket.peerIsOpen = some ⟨source, true, true⟩ := by
    rw [openSocket?, hget]
    rfl
  rw [Host.send, hopen]
  refine ⟨hf.wait_eq, hf.sessions, source.feed more, ?_, hqueue.feed more, ?_⟩
  · exact (Table.get?_set_of_some hget _ _).trans (if_pos rfl)
  · rw [Source.held_feed, hheld]

theorem IsFilled.run_sends (hf : h.IsFilled wait bytes) (sends : List Bytes) :
    (h.run (sends.map (.send 3))).2.IsFilled wait (bytes ++ sends.flatten) := by
  induction sends generalizing h bytes with
  | nil =>
    rw [List.flatten_nil, List.append_nil]
    exact hf
  | cons more sends ih =>
    rw [List.flatten_cons, ← List.append_assoc]
    exact ih (hf.send more)

theorem IsFilled.hangup (hf : h.IsFilled wait bytes) :
    ∃ source : Source, (h.hangup 3).2.sockets.get? 3 = some ⟨source, true, false⟩ ∧ source.IsQueue ∧
      source.held = bytes ∧ (h.hangup 3).2.wait = wait ∧ (h.hangup 3).2.sessions = Table.empty 1 := by
  obtain ⟨source, hget, hqueue, hheld⟩ := hf.socket
  have hpeer : (h.sockets.get? 3).filter Socket.peerIsOpen = some ⟨source, true, true⟩ := by
    rw [hget]
    rfl
  rw [Host.hangup, hpeer]
  exact ⟨source, (Table.get?_set_of_some hget _ _).trans (if_pos rfl), hqueue, hheld, hf.wait_eq,
    hf.sessions⟩

/-- The stream that is opened then gives these bytes and no others. -/
theorem IsFilled.follows (hf : h.IsFilled wait bytes) (hw : wait ≠ 0) {s : Stream} (hs : s.Pours)
    (hbytes : s.remaining = bytes) :
    (h.run [.hangup 3, .call "openStream".toList [.int 3]]).2.Follows 1 3 s := by
  obtain ⟨source, hget, hqueue, hheld, hwait, hsessions⟩ := hf.hangup
  have hopen : (h.hangup 3).2.openSocket? 3 = some ⟨source, true, false⟩ :=
    openSocket?_eq_some.mpr ⟨hget, rfl⟩
  have hcall : ((h.hangup 3).2.call "openStream".toList [.int 3]).2 =
      { (h.hangup 3).2 with sessions := (Table.empty 1).issue ⟨{ wait := wait }, 3⟩ } := by
    have hperform : (h.hangup 3).2.call "openStream".toList [.int 3] =
        (h.hangup 3).2.perform (.openStream (.ofNat 3)) := (h.hangup 3).2.call_values (.openStream 3)
    rw [hperform]
    simp only [perform, openStream?, hopen, Option.map_some, hwait, hsessions]
  show ((h.hangup 3).2.call "openStream".toList [.int 3]).2.Follows 1 3 s
  rw [hcall]
  have hpours : (Stream.openOn source wait).Pours :=
    (Stream.onQueue_openOn hqueue wait).pours hw
  have hremaining : (Stream.openOn source wait).remaining = s.remaining := hheld.trans hbytes.symm
  refine ⟨⟨⟨{ wait := wait }, 3⟩, ⟨source, true, false⟩, ?_, rfl, fun n => ?_, hpours⟩, hs⟩
  · exact stream?_eq_some.mpr ⟨rfl, hget⟩
  · rw [hs n, ← hremaining]
    exact (hpours n).symm

end Filled

/-- **The script path and the server path capture the same thing.** A request is read from a source that
gives all it holds; and a host with a bound on its wait holds the same bytes, sent in any pieces. -/
theorem run_captures {source : Source} {streamWait wait : Nat} {sends : List Bytes}
    (haccepts : (source.setWait streamWait).1 = true)
    (hall : ∀ n, source.outcome n = source.held[n]?) (hw : wait ≠ 0)
    (hsends : sends.flatten = source.held) (limits : Limits) :
    (run { wait := wait } (requestSteps sends)).2.Captures 1 3
      ((Stream.openOn source streamWait).readRequest limits).2.remaining
      ((Stream.openOn source streamWait).readRequest limits).1 := by
  have hfilled := (isFilled_connect wait).run_sends sends
  rw [List.nil_append, hsends] at hfilled
  have hfollows := hfilled.follows hw (Stream.pours_openOn haccepts hall) rfl
  rw [← run_append] at hfollows
  exact hfollows.captures limits

/-- A request with a body of two bytes, and one more byte. -/
def countedRequest : Bytes := Bytes.ofAscii "POST / HTTP/1.1\r\nContent-Length: 2\r\n\r\nabc"

def countedHead : Head where
  method := "POST".toList
  target := "/".toList
  version := "HTTP/1.1".toList
  fields := ⟨[("content-length".toList, "2".toList)]⟩
  raw := "POST / HTTP/1.1\nContent-Length: 2\n\n".toList

theorem run_captures_countedRequest :
    ∃ g last : Host,
      (run {} (requestSteps [countedRequest.take 9, countedRequest.drop 9])).2.callOf (.readHeaders 1) =
        (.ok (.text countedHead.raw), g) ∧
      g.callOf (.readPost 1 2) = (.ok (.text "ab".toList), last) ∧
      last.unread 1 3 = Bytes.ofAscii "c" := by
  have hcaptures := @run_captures (Source.ofBytes countedRequest) defaultWait defaultWait
    [countedRequest.take 9, countedRequest.drop 9] rfl
    (Source.outcome_eq_of_queue (Or.inr ⟨_, rfl⟩)) (by decide) (by decide +kernel) {}
  have hanswer : ((Stream.openOn (Source.ofBytes countedRequest) defaultWait).readRequest {}).1 =
      .ok ⟨countedHead, .text "ab".toList⟩ := by decide +kernel
  have hrest : ((Stream.openOn (Source.ofBytes countedRequest) defaultWait).readRequest {}).2.remaining =
      Bytes.ofAscii "c" := by decide +kernel
  have hbody : countedHead.bodyCall? 1 = some (.readPost 1 2) := by decide +kernel
  rw [hanswer, hrest] at hcaptures
  obtain ⟨g, hheaders, hcall⟩ := hcaptures
  rw [hbody] at hcall
  obtain ⟨-, last, hpost, hunread⟩ := hcall
  exact ⟨g, last, hheaders, hpost, hunread⟩

end Host

end FormCapture
