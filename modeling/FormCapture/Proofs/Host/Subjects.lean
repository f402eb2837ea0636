import FormCapture.Proofs.Host.Handles
import FormCapture.Proofs.Host.Renumbering

/-! # What a step concerns

Every step concerns at most one connection (`Exchange.subject?`): the one that it names, or the one that
the stream was opened on that is among its values. What it comes to touches this connection and its streams
only (`action_isOn`).

So a step of another connection leaves a mirrored host mirrored (`Mirrors.apply_left`), and a step of the
connection itself does if it is done in both (`Mirrors.apply`, and `Mirrors.issue` for a stream that is
opened, from which on a handle may mean another stream). -/

namespace FormCapture

/-- The stream that a value is. -/
def Value.handle? : Value → Option Nat
  | .stream n => some n
  | _ => none

theorem Call.Concerns.and {c : Call} {fd : Nat} {kept kept' : Nat → Prop} (hc : c.Concerns fd kept)
    (hc' : c.Concerns fd kept') : c.Concerns fd fun n => kept n ∧ kept' n := by
  cases c with
  | openStream d => cases d <;> exact hc
  | _ => exact ⟨hc, hc'⟩

theorem Call.Concerns.imp {c : Call} {fd : Nat} {kept kept' : Nat → Prop} (hc : c.Concerns fd kept)
    (himp : ∀ n, kept n → kept' n) : c.Concerns fd kept' := by
  cases c with
  | openStream d => cases d <;> exact hc
  | _ => exact himp _ hc

namespace Host

/-- The descriptor that the stream of a handle was opened on. -/
def ownerOf (xs : List Exchange) (n : Nat) : Option Nat := (roll xs).owner? n

/-- The descriptor of the connection that a step concerns, where it is known of streams which one they were
opened on. -/
def Exchange.subject? (owner : Nat → Option Nat) (x : Exchange) : Option Nat :=
  match x.step, x.answer with
  | .connect, .descriptor fd => some fd
  | .send fd _, _ | .hangup fd, _ | .closeDescriptor fd, _ => some fd
  | .call name values, _ =>
    match (Step.call name values).call? with
    | some (.openStream (.ofNat fd)) => some fd
    | _ => (values.findSome? Value.handle?).bind owner
  | _, _ => none

/-- The descriptor of the connection that a step concerns after these exchanges. -/
def subjectOf (h : Host) (xs : List Exchange) (s : Step) : Option Nat :=
  (⟨s, (h.step s).1⟩ : Exchange).subject? (ownerOf xs)

section Subjects

variable {owner : Nat → Option Nat} {h k : Host} {s : Step} {c : Call} {d fd : Nat}
  {kept kept' : Nat → Prop} {ρ ρ' : Renumbering}

theorem subject?_of_stream? (hc : s.call? = some c) {n : Nat} (hn : c.stream? = some n)
    (answer : Answer) : (⟨s, answer⟩ : Exchange).subject? owner = owner n := by
  obtain rfl := Step.call?_eq_some_iff.mp hc
  cases c with
  | openStream => cases hn
  | _ =>
    cases hn
    simp only [Exchange.subject?, hc]
    rfl

theorem subject?_of_openStream (hc : s.call? = some (.openStream (.ofNat fd))) (answer : Answer) :
    (⟨s, answer⟩ : Exchange).subject? owner = some fd := by
  obtain rfl := Step.call?_eq_some_iff.mp hc
  simp only [Exchange.subject?, hc]

/-- A step names its subject, or streams of its subject. -/
theorem concerns_of_subject {answer : Answer} (hs : s ≠ .openStreams)
    (hsub : ∀ d, (⟨s, answer⟩ : Exchange).subject? owner = some d → d = fd) :
    s.Concerns fd fun n => owner n = (⟨s, answer⟩ : Exchange).subject? owner := by
  cases s with
  | connect | functions => exact trivial
  | openStreams => exact absurd rfl hs
  | send d | hangup d | closeDescriptor d => exact hsub d rfl
  | call name values =>
    intro c hc
    cases c with
    | openStream d =>
      cases d with
      | negSucc => exact trivial
      | ofNat d => exact hsub d (subject?_of_openStream hc answer)
    | _ => exact (subject?_of_stream? hc rfl answer).symm

theorem Step.Concerns.imp (hs : s.Concerns fd kept)
    (himp : ∀ n, kept n → kept' n) : s.Concerns fd kept' := by
  cases s with
  | call => exact fun c hc => (hs c hc).imp himp
  | _ => exact hs

theorem Step.Concerns.and (hs : s.Concerns fd kept) (hs' : s.Concerns fd kept') :
    s.Concerns fd fun n => kept n ∧ kept' n := by
  cases s with
  | call => exact fun c hc => (hs c hc).and (hs' c hc)
  | _ => exact hs

/-! ### What a step touches -/

/-- What a step comes to touches one connection, and streams of it only. -/
structure Action.IsOn (h : Host) (d : Nat) (action : Action) : Prop where
  sockets : ∀ {m}, action.sockets.number? h.sockets = some m → m = d
  sessions : ∀ {n}, action.sessions.number? h.sessions = some n →
    h.descriptor? n = some d ∨ action.sessions.IsIssue
  entry : ∀ {session}, action.sessions.entry? = some session → session.descriptor = d

theorem Action.IsOn.of_keep {action : Action} (hsockets : action.sockets = .keep)
    (hsessions : action.sessions = .keep) : action.IsOn h d := by
  constructor
  · rw [hsockets]
    exact fun hm => nomatch hm
  · rw [hsessions]
    exact fun hn => nomatch hn
  · rw [hsessions]
    exact fun hsession => nomatch hsession

theorem isOn_failure (e : Error) : (Action.failure e).IsOn h d := .of_keep rfl rfl

theorem isOn_ofSocket (change : Socket → Socket) (found : Option Socket) :
    (Action.ofSocket d change found).IsOn h d := by
  cases found with
  | none => exact .of_keep rfl rfl
  | some socket => exact ⟨fun hm => (Option.some.inj hm).symm, fun hn => (nomatch hn), fun hn => (nomatch hn)⟩

theorem isOn_opening (wait : Nat) (found : Option Socket) : (Action.opening wait d found).IsOn h d := by
  cases found with
  | none => exact isOn_failure _
  | some socket => exact ⟨fun hm => (nomatch hm), fun _ => Or.inr trivial, fun hn => by cases hn; rfl⟩

theorem descriptor?_of_stream? {n : Nat} {session : Session} {socket : Socket}
    (hstream : h.stream? n = some (session, socket)) : h.descriptor? n = some session.descriptor := by
  rw [descriptor?, (stream?_eq_some.mp hstream).1, Option.map_some]

theorem isOn_closing {n : Nat} (hn : ∀ d', h.descriptor? n = some d' → d' = d) :
    (Action.closing n (h.stream? n)).IsOn h d := by
  cases hstream : h.stream? n with
  | none => exact isOn_failure _
  | some found =>
    have hread := descriptor?_of_stream? hstream
    refine ⟨fun hm => (nomatch hm), fun hm => ?_, fun hn => (nomatch hn)⟩
    cases hm
    exact Or.inl (hn _ hread ▸ hread)

theorem isOn_reading {n : Nat} (operation : Stream.Operation)
    (hn : ∀ d', h.descriptor? n = some d' → d' = d) :
    (Action.reading n operation (h.stream? n)).IsOn h d := by
  cases hstream : h.stream? n with
  | none => exact isOn_failure _
  | some found =>
    have hread := descriptor?_of_stream? hstream
    have hd := hn _ hread
    refine ⟨fun hm => (Option.some.inj hm).symm.trans hd, fun hm => ?_, fun hentry => ?_⟩
    · cases hm
      exact Or.inl (hd ▸ hread)
    · cases hentry
      exact hd

/-- **A step touches its subject** and nothing else. -/
theorem action_isOn (howner : ∀ {n d}, h.descriptor? n = some d → owner n = some d)
    (hsub : ∀ d', (⟨s, (h.step s).1⟩ : Exchange).subject? owner = some d' → d' = d) :
    (h.action s).IsOn h d := by
  cases s with
  | connect =>
    have hd := hsub h.sockets.next rfl
    exact ⟨fun hm => (Option.some.inj hm).symm.trans hd, fun hn => (nomatch hn), fun hn => (nomatch hn)⟩
  | send d' | hangup d' | closeDescriptor d' =>
    obtain rfl := hsub d' rfl
    exact isOn_ofSocket _ _
  | openStreams | functions => exact .of_keep rfl rfl
  | call name values =>
    cases hc : (Step.call name values).call? with
    | none =>
      obtain ⟨e, -, hfails, -⟩ := action_of_call?_none (ρ := ⟨id, id⟩) hc h h
      rw [hfails]
      exact isOn_failure e
    | some c =>
      rw [action_of_call? hc]
      have hread : ∀ {n}, c.stream? = some n → ∀ d', h.descriptor? n = some d' → d' = d :=
        fun hn d' hd' => hsub d' ((subject?_of_stream? hc hn _).trans (howner hd'))
      cases c with
      | openStream d' =>
        cases d' with
        | negSucc => exact isOn_failure _
        | ofNat d' =>
          obtain rfl := hsub d' (subject?_of_openStream hc _)
          exact isOn_opening _ _
      | closeStream n => exact isOn_closing (hread rfl)
      | _ =>
        simp only [callAction]
        exact isOn_reading _ (hread rfl)

/-! ### Mirrored hosts -/

/-- What is done to another connection and its streams is not seen. -/
theorem Mirrors.apply_left (hm : Mirrors ρ fd kept h k) {action : Action} (hon : action.IsOn h d)
    (hne : d ≠ fd) (hread : ∀ n, h.descriptor? n = some d → ¬ kept n)
    (hissue : action.sessions.IsIssue → ¬ kept h.sessions.next) :
    Mirrors ρ fd kept (action.apply h).2 k := by
  have hsessions : ∀ n, action.sessions.number? h.sessions = some n → ¬ kept n := by
    intro n hn
    rcases hon.sessions hn with hd | hi
    · exact hread n hd
    · rw [(Table.next_change_of_isIssue hi).2] at hn
      cases hn
      exact hissue hi
  refine
    { wait := hm.wait
      sockets := hm.sockets.change_left fun m hnumber hfd => hne ((hon.sockets hnumber).symm.trans hfd)
      sessions := hm.sessions.change_left hsessions
      reads := fun {n session} hn hget => ?_ }
  have hsame := Table.get?_change_of_ne (t := h.sessions) fun hnumber => hsessions n hnumber hn
  exact hm.reads hn (hsame.symm.trans hget)

/-- **What is done to the connection in both hosts** leaves them alike. -/
theorem Mirrors.apply (hm : Mirrors ρ fd kept h k) {action action' : Action}
    (ha : action.Renumbered ρ action') (hon : action.IsOn h fd)
    (hinj : ∀ n m, kept n → kept m → ρ.handle n = ρ.handle m → n = m)
    (hread : ∀ n, h.descriptor? n = some fd → kept n)
    (hconnect : action.sockets.IsIssue → k.sockets.next = ρ.descriptor h.sockets.next)
    (hissue : ¬ action.sessions.IsIssue) : Mirrors ρ fd kept (action.apply h).2 (action'.apply k).2 := by
  have hsessions : ∀ n, action.sessions.number? h.sessions = some n → kept n := fun n hn =>
    hread n ((hon.sessions hn).resolve_right hissue)
  rw [Action.apply, Action.apply, ha.sockets, ha.sessions]
  refine
    { wait := hm.wait
      sockets := hm.sockets.change (fun n m hn hm _ => hn.trans hm.symm) (fun _ => hon.sockets) hconnect
      sessions := hm.sessions.change hinj hsessions fun hi => absurd hi hissue
      reads := fun {n session} hn hget => ?_ }
  rcases Table.get?_change_eq_some hget with hthere | hentry
  · exact hm.reads hn hthere
  · exact hon.entry hentry

theorem renumber_congr (hdescriptor : ρ'.descriptor = ρ.descriptor) :
    Session.renumber ρ' = Session.renumber ρ := by
  funext session
  rw [Session.renumber, Session.renumber, hdescriptor]

/-- Less may be kept, under the same numbers. -/
theorem Mirrors.imp (hm : Mirrors ρ fd kept h k) (hdescriptor : ρ'.descriptor = ρ.descriptor)
    (himp : ∀ n, kept' n → kept n ∧ ρ'.handle n = ρ.handle n) : Mirrors ρ' fd kept' h k where
  wait := hm.wait
  sockets := hdescriptor ▸ hm.sockets
  sessions := fun n hn => by
    obtain ⟨hkept, hsame⟩ := himp n hn
    rw [hsame, hm.sessions n hkept, renumber_congr hdescriptor]
  reads := fun hn => hm.reads (himp _ hn).1

/-- **A stream of the connection is opened in both hosts**, under the next handle of each. -/
theorem Mirrors.issue (hm : Mirrors ρ fd kept h k) (hdescriptor : ρ'.descriptor = ρ.descriptor)
    (hnew : ρ'.handle h.sessions.next = k.sessions.next)
    (hold : ∀ n, kept' n → n ≠ h.sessions.next →
      kept n ∧ ρ'.handle n = ρ.handle n ∧ ρ.handle n ≠ k.sessions.next) {session : Session}
    (hfd : session.descriptor = fd) :
    Mirrors ρ' fd kept' { h with sessions := h.sessions.issue session }
      { k with sessions := k.sessions.issue (session.renumber ρ) } where
  wait := hm.wait
  sockets := hdescriptor ▸ hm.sockets
  sessions := by
    rw [renumber_congr hdescriptor]
    exact hm.sessions.issue session hnew hold
  reads := fun {n found} hn hget => by
    rw [Table.get?_issue] at hget
    split at hget
    · cases hget
      exact hfd
    · next hne => exact hm.reads (hold n hn hne).1 hget

end Subjects

end Host

end FormCapture
