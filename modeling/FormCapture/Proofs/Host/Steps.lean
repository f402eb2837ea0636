import FormCapture.Host.Run
import FormCapture.Proofs.Stream.Refills

/-! # What a step of a host does

Handles come back after `2 ^ 32` streams, so a stream is not known by its handle: streams are numbered
from 1 on as they are opened, and a `Tally` is a host with the number of those that were. The `m`-th stream
has the handle `handleOf m`, and it is the one that calls of this handle mean as long as it is the latest
that has it (`IsLatest`). What the host keeps of it (`Tally.session?`) changes with the table like the
entry under a number that is never handed out twice (`session?_issue`, `session?_set`, `session?_erase`).

`Happens` lists all that a step can do, with the tally that it leads to and the event by which bytes are
moved. Every step does one of these (`Tally.IsCounted.step_happens`), so a law of steps is a case analysis.

Calls that read are one case: each asks one operation of one stream (`Call.reading?`), and what it passes
on is made of the answer (`Call.value`). A refill belongs to one event `drew`, which names the descriptor
that it comes from and the stream that it goes to. -/

namespace FormCapture

/-! ### Tables -/

namespace Table

variable {limit : Nat} {α : Type}

theorem get?_set_of_some {t : Table limit α} {n : Nat} {a : α} (h : t.get? n = some a) (b : α) (m : Nat) :
    (t.set n b).get? m = if m = n then some b else t.get? m := by
  rw [get?_set]
  by_cases hm : m = n
  · rw [if_pos hm, if_pos hm, hm, h]
    rfl
  · rw [if_neg hm, if_neg hm]

variable {t : Table 0 α}

/-- No number that is still to be handed out has an entry. -/
def IsFresh (t : Table 0 α) : Prop := ∀ n, t.next ≤ n → t.get? n = none

theorem isFresh_empty (first : Nat) : (empty first : Table 0 α).IsFresh := fun _ _ => rfl

theorem IsFresh.lt_next (h : t.IsFresh) {n : Nat} {a : α} (hget : t.get? n = some a) : n < t.next := by
  by_contra hn
  rw [h n (Nat.le_of_not_lt hn)] at hget
  cases hget

theorem next_issue (t : Table 0 α) (a : α) : (t.issue a).next = t.next + 1 := Nat.mod_zero _

theorem IsFresh.issue (h : t.IsFresh) (a : α) : (t.issue a).IsFresh := by
  intro n hn
  rw [next_issue] at hn
  rw [get?_issue, if_neg (Nat.ne_of_gt hn)]
  exact h n (Nat.le_of_lt hn)

theorem IsFresh.set (h : t.IsFresh) (n : Nat) (a : α) : (t.set n a).IsFresh := by
  intro m hm
  rw [get?_set, h m hm]
  exact ite_self none

end Table

/-! ### Calls that read -/

namespace Call

/-- The stream that a call reads, and what it asks of it. -/
def reading? : Call → Option (Nat × Stream.Operation)
  | .openStream _ | .closeStream _ => none
  | .readByte n => some (n, .readByte)
  | .readHeaders n => some (n, .readHeaders)
  | .readPost n size => some (n, .readPost size)
  | .readMime n size boundary => some (n, .readMime size boundary)

/-- The value by which a call says that no bytes came, if it asks for any. -/
def noData? : Call → Option Value
  | .openStream _ | .closeStream _ => none
  | .readByte _ => some (.int (-1))
  | .readHeaders _ => some .null
  | .readPost _ size => if size = 0 then none else some (.bool false)
  | .readMime _ size boundary =>
    if size = 0 then none else (Multipart.usable boundary).toOption.map fun _ => .null

/-- What a script gets for an answer to what a call asks. -/
def value : Stream.Answer → Except Error Value
  | .byte b => .ok (.int (b.elim (-1) fun b => b.toNat))
  | .headers block => .ok (block.elim .null .text)
  | .post body => Host.postValue body
  | .mime body => Host.mimeValue body
  -- no call asks for these
  | .bytes _ | .limitedHeaders _ | .request _ | .closed => .ok .undefined

/-- A stream of which nothing remains has no data for a call that asks for some. -/
theorem value_of_remaining_nil {c : Call} {n : Nat} {operation : Stream.Operation} {v : Value}
    (hreading : c.reading? = some (n, operation)) (hv : c.noData? = some v) {s : Stream}
    (hs : s.remaining = []) : value (s.perform operation).1 = .ok v := by
  cases c with
  | openStream | closeStream => cases hreading
  | readByte =>
    cases hreading
    cases hv
    rw [Stream.perform, Stream.readByte_of_remaining_nil hs]
    rfl
  | readHeaders =>
    cases hreading
    cases hv
    rw [Stream.perform, Stream.readHeaders_of_remaining_nil hs]
    rfl
  | readPost handle size =>
    cases hreading
    rw [noData?] at hv
    split at hv
    · cases hv
    · next hsize =>
      cases hv
      have hpost : (s.readPost size).1 = .error (.shortRead size 0) := by
        rw [Stream.readPost]
        simp only [Stream.readExactly_of_remaining_nil hs hsize]
        rfl
      rw [Stream.perform, hpost]
      rfl
  | readMime handle size boundary =>
    cases hreading
    rw [noData?] at hv
    split at hv
    · cases hv
    · next hsize =>
      cases hu : Multipart.usable boundary with
      | error e =>
        rw [hu] at hv
        cases hv
      | ok _ =>
        rw [hu] at hv
        cases hv
        have hmime : (s.readMime size boundary).1 = .error (.shortRead size 0) := by
          rw [Stream.readMime, hu]
          simp only [Stream.readExactly_of_remaining_nil hs hsize]
          rfl
        rw [Stream.perform, hmime]
        rfl

end Call

namespace Host

/-- The call that a step makes, if there is such a function and it takes the values. -/
def Step.call? : Step → Option Call
  | .call name values => (Native.ofName? name).bind fun f => (Call.ofValues f values).toOption
  | _ => none

theorem step_of_call? {s : Step} {c : Call} (hc : s.call? = some c) (h : Host) :
    h.step s = (.result (h.perform c).1, (h.perform c).2) := by
  cases s with
  | call name values =>
    obtain ⟨f, hf, hvalues⟩ := Option.bind_eq_some_iff.mp hc
    cases hv : Call.ofValues f values with
    | error e =>
      rw [hv] at hvalues
      cases hvalues
    | ok c' =>
      rw [hv] at hvalues
      cases hvalues
      have hcall : h.call name values = h.perform c := by simp only [call, hf, hv]
      rw [step, hcall]
  | _ => cases hc

theorem call_of_none {name : Text} {values : List Value}
    (hc : (Step.call name values).call? = none) (h : Host) :
    ∃ e, h.call name values = (.error e, h) := by
  cases hf : Native.ofName? name with
  | none => exact ⟨.unknownFunction name, by simp only [call, hf]⟩
  | some f =>
    cases hv : Call.ofValues f values with
    | error e => exact ⟨e, by simp only [call, hf, hv]⟩
    | ok c =>
      rw [Step.call?, hf, Option.bind_some, hv] at hc
      cases hc

theorem perform_reading {c : Call} {n : Nat} {operation : Stream.Operation}
    (hc : c.reading? = some (n, operation)) (h : Host) :
    h.perform c = h.orUnknownStream n (h.useStream? n fun s =>
      (Call.value (s.perform operation).1, (s.perform operation).2)) := by
  cases c with
  | openStream | closeStream => cases hc
  | _ =>
    cases hc
    rfl

/-! ### The bytes of a descriptor and of a handle -/

/-- Where the bytes of a descriptor come from; nowhere if it has not been handed out. -/
def source (h : Host) (descriptor : Nat) : Source :=
  (h.sockets.get? descriptor).elim (Source.socket []) Socket.source

/-- What the stream of a handle has buffered. -/
def buffer (h : Host) (handle : Nat) : Bytes :=
  (h.sessions.get? handle).elim [] fun session => session.reader.buffer

/-- The descriptor of the connection that a stream reads. -/
def descriptor? (h : Host) (handle : Nat) : Option Nat :=
  (h.sessions.get? handle).map Session.descriptor

/-- A connection that the host has closed. -/
def IsShut (h : Host) (descriptor : Nat) : Prop :=
  ∃ socket, h.sockets.get? descriptor = some socket ∧ socket.isOpen = false

/-! ### Streams by number -/

/-- The handle of the `m`-th stream that is opened. -/
def handleOf (m : Nat) : Nat := m % UInt32.size

/-- When so many streams have been opened, the `m`-th is the latest that has its handle. -/
def IsLatest (m opened : Nat) : Prop := m ≤ opened ∧ opened < m + UInt32.size

instance (m opened : Nat) : Decidable (IsLatest m opened) := inferInstanceAs (Decidable (_ ∧ _))

/-- A handle means one stream. -/
theorem IsLatest.eq_of_handleOf {m k opened : Nat} (hm : IsLatest m opened) (hk : IsLatest k opened)
    (heq : handleOf m = handleOf k) : m = k := by
  simp only [IsLatest, handleOf, UInt32.size] at hm hk heq
  omega

theorem IsLatest.handleOf_ne {m opened : Nat} (hm : IsLatest m opened)
    (hne : opened + 1 ≠ m + UInt32.size) : handleOf m ≠ handleOf (opened + 1) := by
  simp only [IsLatest, handleOf, UInt32.size] at hm hne ⊢
  omega

theorem isLatest_succ_iff {m opened : Nat} (hm : m ≠ opened + 1) :
    IsLatest m (opened + 1) ↔ IsLatest m opened ∧ opened + 1 ≠ m + UInt32.size := by
  simp only [IsLatest, UInt32.size]
  omega

/-- A host, and how many streams have been opened on it so far. -/
structure Tally where
  host : Host
  opened : Nat

namespace Tally

/-- What the host keeps of the `m`-th stream. -/
def session? (t : Tally) (m : Nat) : Option Session :=
  if IsLatest m t.opened then t.host.sessions.get? (handleOf m) else none

def buffer (t : Tally) (m : Nat) : Bytes :=
  (t.session? m).elim [] fun session => session.reader.buffer

def descriptor? (t : Tally) (m : Nat) : Option Nat := (t.session? m).map Session.descriptor

/-- A stream that has been given up, or whose handle another one has got. -/
def IsGone (t : Tally) (m : Nat) : Prop := m ≤ t.opened ∧ t.session? m = none

section Sessions

variable {t : Tally} {m : Nat} {session : Session}

theorem session?_eq_some :
    t.session? m = some session ↔
      IsLatest m t.opened ∧ t.host.sessions.get? (handleOf m) = some session := by
  rw [session?]
  split
  · next hlatest => rw [and_iff_right hlatest]
  · next hnot => exact ⟨fun hnone => (nomatch hnone), fun hthere => absurd hthere.1 hnot⟩

theorem session?_issue (hnext : t.host.sessions.next = handleOf (t.opened + 1)) (session : Session)
    (sockets : Table 0 Socket) (k : Nat) :
    session? ⟨⟨t.host.wait, sockets, t.host.sessions.issue session⟩, t.opened + 1⟩ k =
      if k = t.opened + 1 then some session
      else if t.opened + 1 = k + UInt32.size then none else t.session? k := by
  show (if IsLatest k (t.opened + 1) then (t.host.sessions.issue session).get? (handleOf k) else none) = _
  rw [session?, Table.get?_issue, hnext]
  by_cases hk : k = t.opened + 1
  · have hlatest : IsLatest k (t.opened + 1) := by
      simp only [IsLatest, UInt32.size]
      omega
    rw [if_pos hlatest, if_pos (congrArg handleOf hk), if_pos hk]
  · rw [if_neg hk]
    by_cases hlost : t.opened + 1 = k + UInt32.size
    · rw [if_pos hlost, if_neg fun hlatest => ((isLatest_succ_iff hk).mp hlatest).2 hlost]
    · rw [if_neg hlost]
      by_cases hlatest : IsLatest k t.opened
      · rw [if_pos ((isLatest_succ_iff hk).mpr ⟨hlatest, hlost⟩), if_pos hlatest,
          if_neg (hlatest.handleOf_ne hlost)]
      · rw [if_neg hlatest, if_neg fun hthen => hlatest ((isLatest_succ_iff hk).mp hthen).1]

theorem session?_set (hm : t.session? m = some session) (changed : Session) (sockets : Table 0 Socket)
    (k : Nat) :
    session? ⟨⟨t.host.wait, sockets, t.host.sessions.set (handleOf m) changed⟩, t.opened⟩ k =
      if k = m then some changed else t.session? k := by
  obtain ⟨hlatest, hget⟩ := session?_eq_some.mp hm
  show (if IsLatest k t.opened then (t.host.sessions.set (handleOf m) changed).get? (handleOf k)
    else none) = _
  rw [session?, Table.get?_set_of_some hget]
  by_cases hk : IsLatest k t.opened
  · have hiff : handleOf k = handleOf m ↔ k = m := ⟨hk.eq_of_handleOf hlatest, congrArg handleOf⟩
    simp only [if_pos hk, hiff]
  · have hne : k ≠ m := by
      rintro rfl
      exact hk hlatest
    simp only [if_neg hk, if_neg hne]

theorem session?_erase (hm : t.session? m = some session) (sockets : Table 0 Socket) (k : Nat) :
    session? ⟨⟨t.host.wait, sockets, t.host.sessions.erase (handleOf m)⟩, t.opened⟩ k =
      if k = m then none else t.session? k := by
  obtain ⟨hlatest, -⟩ := session?_eq_some.mp hm
  show (if IsLatest k t.opened then (t.host.sessions.erase (handleOf m)).get? (handleOf k) else none) = _
  rw [session?, Table.get?_erase]
  by_cases hk : IsLatest k t.opened
  · have hiff : handleOf k = handleOf m ↔ k = m := ⟨hk.eq_of_handleOf hlatest, congrArg handleOf⟩
    simp only [if_pos hk, hiff]
  · simp only [if_neg hk, ite_self]

end Sessions

/-- The numbers of a host are those that its tally says: the next handle is that of the next stream, every
entry is that of a stream, and no descriptor that is still to come has a connection. -/
structure IsCounted (t : Tally) : Prop where
  sockets : t.host.sockets.IsFresh
  next : t.host.sessions.next = handleOf (t.opened + 1)
  numbered : ∀ {n session}, t.host.sessions.get? n = some session →
    ∃ m, handleOf m = n ∧ t.session? m = some session

end Tally

/-! ### Steps -/

/-- What becomes of bytes in a step. -/
inductive Event
  /-- They stay where they are. -/
  | idle
  /-- The peer of a connection sends some. -/
  | sent (descriptor : Nat) (bytes : Bytes)
  /-- A stream is opened; one that has its handle gives up `lost`. -/
  | opened (stream descriptor : Nat) (lost : Bytes)
  /-- A stream gives these up. -/
  | dropped (stream : Nat) (bytes : Bytes)
  /-- The source of a descriptor gives `refills` to a stream, which hands out `taken`. -/
  | drew (stream descriptor : Nat) (taken : Bytes) (refills : List Bytes)

namespace Event

def sentOn (descriptor : Nat) : Event → Bytes
  | sent fd bytes => if fd = descriptor then bytes else []
  | _ => []

def readsOn (descriptor : Nat) : Event → List Bytes
  | drew _ fd _ refills => if fd = descriptor then refills else []
  | _ => []

def refillsOf (stream : Nat) : Event → List Bytes
  | drew m _ _ refills => if m = stream then refills else []
  | _ => []

def takenBy (stream : Nat) : Event → Bytes
  | drew m _ taken _ => if m = stream then taken else []
  | _ => []

def droppedBy (stream : Nat) : Event → Bytes
  | dropped m bytes => if m = stream then bytes else []
  | opened m _ lost => if m = stream + UInt32.size then lost else []
  | _ => []

theorem droppedBy_opened (stream m fd : Nat) (lost : Bytes) :
    (opened m fd lost).droppedBy stream = if m = stream + UInt32.size then lost else [] := rfl

theorem of_opened (stream m fd : Nat) (lost : Bytes) :
    (opened m fd lost).takenBy stream = [] ∧ (opened m fd lost).refillsOf stream = [] := ⟨rfl, rfl⟩

/-- The stream that is opened, and the connection that it is to read. -/
def opening? : Event → Option (Nat × Nat)
  | opened m fd _ => some (m, fd)
  | _ => none

end Event

/-- An answer that says that nothing was done. -/
def Answer.isQuiet : Answer → Bool
  | .done success => !success
  | .count _ | .names _ | .result (.error _) => true
  | .descriptor _ | .result (.ok _) => false

/-- **What a step does.** -/
inductive Happens (t : Tally) : Step → Answer → Event → Tally → Prop
  | nothing {s : Step} {answer : Answer} : answer.isQuiet = true → Happens t s answer .idle t
  | connected : Happens t .connect (.descriptor t.host.sockets.next) .idle
      { t with host := { t.host with sockets := t.host.sockets.issue {} } }
  | sent {fd : Nat} {bytes : Bytes} {socket : Socket} :
      t.host.sockets.get? fd = some socket → socket.isOpen = true →
      Happens t (.send fd bytes) (.done true) (.sent fd bytes)
        { t with host := { t.host with
          sockets := t.host.sockets.set fd { socket with source := socket.source.feed bytes } } }
  | hungUp {fd : Nat} {socket : Socket} : t.host.sockets.get? fd = some socket →
      Happens t (.hangup fd) (.done true) .idle
        { t with host := { t.host with
          sockets := t.host.sockets.set fd { socket with peerIsOpen := false } } }
  | closed {fd : Nat} {socket : Socket} :
      t.host.sockets.get? fd = some socket → socket.isOpen = true →
      Happens t (.closeDescriptor fd) (.done true) .idle
        { t with host := { t.host with
          sockets := t.host.sockets.set fd { socket with isOpen := false } } }
  | opened {s : Step} {fd : Nat} {socket : Socket} : s.call? = some (.openStream (.ofNat fd)) →
      t.host.sockets.get? fd = some socket → socket.isOpen = true →
      Happens t s (.result (.ok (.stream (handleOf (t.opened + 1)))))
        (.opened (t.opened + 1) fd (t.host.buffer (handleOf (t.opened + 1))))
        { host := { t.host with
            sessions := t.host.sessions.issue ⟨{ wait := t.host.wait }, fd⟩ }
          opened := t.opened + 1 }
  | dropped {s : Step} {m : Nat} {session : Session} : s.call? = some (.closeStream (handleOf m)) →
      t.session? m = some session →
      Happens t s (.result (.ok .undefined)) (.dropped m session.reader.buffer)
        { t with host := { t.host with sessions := t.host.sessions.erase (handleOf m) } }
  | drew {s : Step} {c : Call} {m : Nat} {session : Session} {socket : Socket} {read : Stream.Step}
      {refills : List Bytes} {after : Stream} :
      s.call? = some c → c.reading? = some (handleOf m, read.operation) →
      t.session? m = some session → t.host.sockets.get? session.descriptor = some socket →
      Stream.Accounts ⟨session.reader, socket.source⟩ read after →
      Stream.Draws ⟨session.reader, socket.source⟩ read.taken refills after →
      Happens t s (.result (Call.value read.answer)) (.drew m session.descriptor read.taken refills)
        { t with host := { t.host with
          sockets := t.host.sockets.set session.descriptor { socket with source := after.source }
          sessions := t.host.sessions.set (handleOf m) { session with reader := after.toReader } } }

theorem openSocket?_eq_some {h : Host} {fd : Nat} {socket : Socket} :
    h.openSocket? fd = some socket ↔ h.sockets.get? fd = some socket ∧ socket.isOpen = true :=
  Option.filter_eq_some_iff

theorem stream?_eq_some {h : Host} {n : Nat} {session : Session} {socket : Socket} :
    h.stream? n = some (session, socket) ↔
      h.sessions.get? n = some session ∧ h.sockets.get? session.descriptor = some socket := by
  rw [stream?, Option.bind_eq_some_iff]
  constructor
  · rintro ⟨found, hsession, hsocket⟩
    obtain ⟨_, hget, heq⟩ := Option.map_eq_some_iff.mp hsocket
    cases heq
    exact ⟨hsession, hget⟩
  · rintro ⟨hsession, hsocket⟩
    exact ⟨session, hsession, Option.map_eq_some_iff.mpr ⟨socket, hsocket, rfl⟩⟩

section EveryStep

variable {t : Tally} {s : Step}

/-- A step that leads to a host does one of the things that `Happens` lists. -/
def Does (t : Tally) (s : Step) (answer : Answer) (g : Host) : Prop :=
  ∃ event u, Happens t s answer event u ∧ u.host = g

theorem Does.nothing {answer : Answer} (hquiet : answer.isQuiet = true) : Does t s answer t.host :=
  ⟨.idle, t, .nothing hquiet, rfl⟩

theorem Tally.IsCounted.perform_openStream (ht : t.IsCounted) {fd : Int}
    (hc : s.call? = some (.openStream fd)) :
    Does t s (.result (t.host.perform (.openStream fd)).1) (t.host.perform (.openStream fd)).2 := by
  cases fd with
  | negSucc n => exact .nothing rfl
  | ofNat n =>
    cases hopen : t.host.openSocket? n with
    | none =>
      have hnone : t.host.openStream? n = none := by rw [openStream?, hopen, Option.map_none]
      simp only [perform, hnone]
      exact .nothing rfl
    | some socket =>
      have hsome : t.host.openStream? n = some (handleOf (t.opened + 1),
          { t.host with sessions := t.host.sessions.issue ⟨{ wait := t.host.wait }, n⟩ }) := by
        rw [openStream?, hopen, Option.map_some, ht.next]
      simp only [perform, hsome]
      obtain ⟨hget, hisOpen⟩ := openSocket?_eq_some.mp hopen
      exact ⟨_, _, .opened hc hget hisOpen, rfl⟩

theorem Tally.IsCounted.perform_closeStream (ht : t.IsCounted) {n : Nat}
    (hc : s.call? = some (.closeStream n)) :
    Does t s (.result (t.host.perform (.closeStream n)).1) (t.host.perform (.closeStream n)).2 := by
  cases hstream : t.host.stream? n with
  | none =>
    have hnone : t.host.closeStream? n = none := by rw [closeStream?, hstream, Option.map_none]
    simp only [perform, orUnknownStream, hnone]
    exact .nothing rfl
  | some found =>
    obtain ⟨m, rfl, hm⟩ := ht.numbered (stream?_eq_some.mp hstream).1
    have hsome : t.host.closeStream? (handleOf m) =
        some { t.host with sessions := t.host.sessions.erase (handleOf m) } := by
      rw [closeStream?, hstream, Option.map_some]
    simp only [perform, orUnknownStream, hsome]
    exact ⟨_, _, .dropped hc hm, rfl⟩

theorem Tally.IsCounted.perform_reading (ht : t.IsCounted) {c : Call} {n : Nat}
    {operation : Stream.Operation} (hc : s.call? = some c) (hreading : c.reading? = some (n, operation)) :
    Does t s (.result (t.host.perform c).1) (t.host.perform c).2 := by
  rw [Host.perform_reading hreading]
  cases hstream : t.host.stream? n with
  | none =>
    simp only [useStream?, orUnknownStream, hstream]
    exact .nothing rfl
  | some found =>
    obtain ⟨session, socket⟩ := found
    obtain ⟨hsession, hsocket⟩ := stream?_eq_some.mp hstream
    obtain ⟨m, rfl, hm⟩ := ht.numbered hsession
    have hopen : operation ≠ .close := by
      rintro rfl
      cases c <;> cases hreading
    obtain ⟨taken, haccounts⟩ :=
      Stream.perform_accounts ⟨session.reader, socket.source⟩ hopen
    obtain ⟨refills, hdraws⟩ := haccounts.draws
    simp only [useStream?, orUnknownStream, hstream]
    exact ⟨_, _, .drew hc hreading hm hsocket haccounts hdraws, rfl⟩

/-- **Every step** does one of these. -/
theorem Tally.IsCounted.step_happens (ht : t.IsCounted) (s : Step) :
    Does t s (t.host.step s).1 (t.host.step s).2 := by
  cases s with
  | connect => exact ⟨.idle, _, .connected, rfl⟩
  | send fd bytes =>
    cases hget : (t.host.openSocket? fd).filter Socket.peerIsOpen with
    | none =>
      simp only [step, send, hget]
      exact .nothing rfl
    | some socket =>
      obtain ⟨hopen, -⟩ := Option.filter_eq_some_iff.mp hget
      simp only [step, send, hget]
      obtain ⟨hfound, hisOpen⟩ := openSocket?_eq_some.mp hopen
      exact ⟨_, _, .sent hfound hisOpen, rfl⟩
  | hangup fd =>
    cases hget : (t.host.sockets.get? fd).filter Socket.peerIsOpen with
    | none =>
      simp only [step, hangup, hget]
      exact .nothing rfl
    | some socket =>
      simp only [step, hangup, hget]
      exact ⟨_, _, .hungUp (Option.filter_eq_some_iff.mp hget).1, rfl⟩
  | closeDescriptor fd =>
    cases hopen : t.host.openSocket? fd with
    | none =>
      simp only [step, closeDescriptor, hopen]
      exact .nothing rfl
    | some socket =>
      simp only [step, closeDescriptor, hopen]
      obtain ⟨hget, hisOpen⟩ := openSocket?_eq_some.mp hopen
      exact ⟨_, _, .closed hget hisOpen, rfl⟩
  | openStreams | functions => exact .nothing rfl
  | call name values =>
    cases hc : (Step.call name values).call? with
    | none =>
      obtain ⟨e, he⟩ := call_of_none hc t.host
      rw [step, he]
      exact .nothing rfl
    | some c =>
      rw [step_of_call? hc]
      cases c with
      | openStream fd => exact ht.perform_openStream hc
      | closeStream n => exact ht.perform_closeStream hc
      | _ => exact ht.perform_reading hc rfl

end EveryStep

end Host

end FormCapture
