import FormCapture.Proofs.Host.Failures

/-! # Steps as changes of two tables

A step changes at most one entry of each table of a host (`Table.Change`), and it makes out which from the
entries alone: `action` says what a step comes to, and `step_eq_apply` that the step does just this. So
steps that concern different entries can be told apart (`Table.get?_change_of_ne`) and exchanged
(`Table.change_comm`). -/

namespace FormCapture

namespace Table

variable {limit : Nat} {α β : Type} {t : Table limit α}

/-- A change of at most one entry. -/
inductive Change (α : Type)
  | keep
  | issue (a : α)
  | set (n : Nat) (a : α)
  | erase (n : Nat)

namespace Change

/-- The number under which a table changes. -/
def number? (t : Table limit α) : Change α → Option Nat
  | keep => none
  | issue _ => some t.next
  | set n _ | erase n => some n

/-- What is entered. -/
def entry? : Change α → Option α
  | keep | erase _ => none
  | issue a | set _ a => some a

/-- Whether a number is handed out. -/
def IsIssue : Change α → Prop
  | issue _ => True
  | _ => False

/-- The same change of a table of other numbers and entries. -/
def map (number : Nat → Nat) (entry : α → β) : Change α → Change β
  | keep => keep
  | issue a => issue (entry a)
  | set n a => set (number n) (entry a)
  | erase n => erase (number n)

end Change

def change (t : Table limit α) : Change α → Table limit α
  | .keep => t
  | .issue a => t.issue a
  | .set n a => t.set n a
  | .erase n => t.erase n

theorem get?_change_of_ne {c : Change α} {n : Nat} (hn : c.number? t ≠ some n) :
    (t.change c).get? n = t.get? n := by
  cases c with
  | keep => rfl
  | issue a =>
    have hne : n ≠ t.next := fun heq => hn (congrArg some heq.symm)
    rw [change, get?_issue, if_neg hne]
  | set m a =>
    have hne : n ≠ m := fun heq => hn (congrArg some heq.symm)
    rw [change, get?_set, if_neg hne]
  | erase m =>
    have hne : n ≠ m := fun heq => hn (congrArg some heq.symm)
    rw [change, get?_erase, if_neg hne]

theorem get?_change_eq_some {c : Change α} {n : Nat} {a : α}
    (hget : (t.change c).get? n = some a) : t.get? n = some a ∨ c.entry? = some a := by
  cases c with
  | keep => exact Or.inl hget
  | issue b =>
    rw [change, get?_issue] at hget
    split at hget
    · exact Or.inr hget
    · exact Or.inl hget
  | set m b =>
    rw [change, get?_set] at hget
    split at hget
    · obtain ⟨_, -, rfl⟩ := Option.map_eq_some_iff.mp hget
      exact Or.inr rfl
    · exact Or.inl hget
  | erase m =>
    rw [change, get?_erase] at hget
    split at hget
    · cases hget
    · exact Or.inl hget

theorem next_change_of_isIssue {c : Change α} (hc : c.IsIssue) :
    (t.change c).next = (t.next + 1) % limit ∧ c.number? t = some t.next := by
  cases c with
  | issue => exact ⟨rfl, rfl⟩
  | _ => exact hc.elim

theorem next_change_of_not_isIssue {c : Change α} (hc : ¬ c.IsIssue) : (t.change c).next = t.next := by
  cases c with
  | issue => exact absurd trivial hc
  | _ => rfl

theorem next_le_next_change {t : Table 0 α} (c : Change α) : t.next ≤ (t.change c).next := by
  by_cases hc : c.IsIssue
  · rw [(next_change_of_isIssue hc).1, Nat.mod_zero]
    exact Nat.le_succ _
  · exact Nat.le_of_eq (next_change_of_not_isIssue hc).symm

theorem next_change_map_of_not_isIssue {c : Change α} (hc : ¬ c.IsIssue) (u : Table limit β)
    (number : Nat → Nat) (entry : α → β) : (u.change (c.map number entry)).next = u.next := by
  cases c with
  | issue => exact absurd trivial hc
  | _ => rfl

/-! ### Changes that are exchanged -/

theorem set_set {n m : Nat} (hne : n ≠ m) (a b : α) : (t.set n a).set m b = (t.set m b).set n a := by
  simp only [set, List.map_map, mk.injEq, and_true]
  refine List.map_congr_left fun e _ => ?_
  by_cases hn : e.1 = n
  · simp [hn, hne]
  · by_cases hm : e.1 = m
    · simp [hm, Ne.symm hne]
    · simp [hn, hm]

theorem set_erase (n m : Nat) (a : α) : (t.set n a).erase m = (t.erase m).set n a := by
  simp only [set, erase, List.filter_map, mk.injEq, and_true]
  congr 1
  refine List.filter_congr fun e _ => ?_
  by_cases hn : e.1 = n
  · simp [hn]
  · simp [hn]

theorem erase_erase (n m : Nat) : (t.erase n).erase m = (t.erase m).erase n := by
  simp only [erase, List.filter_filter, Bool.and_comm]

theorem issue_set {n : Nat} (hn : n ≠ t.next) (a b : α) : (t.issue a).set n b = (t.set n b).issue a := by
  have hrest := congrArg entries (set_erase (t := t) n t.next b)
  have hfirst : (t.issue a).set n b =
      ⟨(t.next, a) :: ((t.erase t.next).set n b).entries, (t.next + 1) % limit⟩ := by
    simp [issue, set, Ne.symm hn]
  rw [hfirst, ← hrest]
  rfl

theorem issue_erase {n : Nat} (hn : n ≠ t.next) (a : α) : (t.issue a).erase n = (t.erase n).issue a := by
  have hrest := congrArg entries (erase_erase (t := t) t.next n)
  have hfirst : (t.issue a).erase n =
      ⟨(t.next, a) :: ((t.erase t.next).erase n).entries, (t.next + 1) % limit⟩ := by
    simp [issue, erase, Ne.symm hn]
  rw [hfirst, hrest]
  rfl

/-- **Changes under different numbers** can be exchanged. -/
theorem change_comm {c d : Change α} (hne : ∀ n, c.number? t = some n → d.number? t ≠ some n) :
    (t.change c).change d = (t.change d).change c := by
  cases c with
  | keep => rfl
  | issue a =>
    cases d with
    | keep => rfl
    | issue b => exact absurd rfl (hne _ rfl)
    | set m b => exact issue_set (fun heq => hne _ rfl (congrArg some heq)) a b
    | erase m => exact issue_erase (fun heq => hne _ rfl (congrArg some heq)) a
  | set n a =>
    cases d with
    | keep => rfl
    | issue b => exact (issue_set (fun heq => hne _ rfl (congrArg some heq.symm)) b a).symm
    | set m b => exact set_set (fun heq => hne _ rfl (congrArg some heq.symm)) a b
    | erase m => exact set_erase n m a
  | erase n =>
    cases d with
    | keep => rfl
    | issue b => exact (issue_erase (fun heq => hne _ rfl (congrArg some heq.symm)) b).symm
    | set m b => exact (set_erase m n b).symm
    | erase m => exact erase_erase n m

/-! ### Tables that are alike up to numbers -/

/-- The entries under the kept numbers of one table are those of another, up to numbers. -/
def Mirrors (kept : Nat → Prop) (number : Nat → Nat) (entry : α → β) (t : Table limit α)
    (u : Table limit β) : Prop :=
  ∀ n, kept n → u.get? (number n) = (t.get? n).map entry

variable {kept kept' : Nat → Prop} {number number' : Nat → Nat} {entry : α → β} {u : Table limit β}

/-- A change under another number leaves the kept entries alone. -/
theorem Mirrors.change_left (hm : Mirrors kept number entry t u) {c : Change α}
    (hc : ∀ n, c.number? t = some n → ¬ kept n) : Mirrors kept number entry (t.change c) u := by
  intro n hn
  rw [hm n hn, get?_change_of_ne fun hnumber => hc n hnumber hn]

/-- The same change of both keeps them alike. -/
theorem Mirrors.change (hm : Mirrors kept number entry t u)
    (hinj : ∀ n m, kept n → kept m → number n = number m → n = m) {c : Change α}
    (hc : ∀ n, c.number? t = some n → kept n) (hnext : c.IsIssue → u.next = number t.next) :
    Mirrors kept number entry (t.change c) (u.change (c.map number entry)) := by
  intro n hn
  have hiff : ∀ m, kept m → (number n = number m ↔ n = m) := fun m hkept =>
    ⟨hinj n m hn hkept, congrArg number⟩
  cases c with
  | keep => exact hm n hn
  | issue a =>
    simp only [Table.change, Change.map, get?_issue, hnext trivial, hiff _ (hc _ rfl), hm n hn]
    split <;> rfl
  | set m a =>
    simp only [Table.change, Change.map, get?_set, hiff m (hc m rfl), hm n hn]
    split
    · cases t.get? n <;> rfl
    · rfl
  | erase m =>
    simp only [Table.change, Change.map, get?_erase, hiff m (hc m rfl), hm n hn]
    split <;> rfl

/-- A number is handed out in both, and from then on others may be kept and be known by other numbers. -/
theorem Mirrors.issue (hm : Mirrors kept number entry t u) (a : α) (hnew : number' t.next = u.next)
    (hold : ∀ n, kept' n → n ≠ t.next → kept n ∧ number' n = number n ∧ number n ≠ u.next) :
    Mirrors kept' number' entry (t.issue a) (u.issue (entry a)) := by
  intro n hn
  rw [get?_issue, get?_issue]
  by_cases heq : n = t.next
  · rw [if_pos heq, heq, hnew, if_pos rfl]
    rfl
  · obtain ⟨hkept, hsame, hne⟩ := hold n hn heq
    rw [if_neg heq, hsame, if_neg hne, hm n hkept]

end Table

namespace Host

/-! ### Actions -/

/-- What a step answers. -/
inductive Reply
  | plain (answer : Answer)
  /-- The next descriptor. -/
  | descriptor
  /-- The next handle. -/
  | handle

def Reply.answer (h : Host) : Reply → Answer
  | plain answer => answer
  | descriptor => .descriptor h.sockets.next
  | handle => .result (.ok (.stream h.sessions.next))

/-- What a step comes to. -/
structure Action where
  reply : Reply
  sockets : Table.Change Socket := .keep
  sessions : Table.Change Session := .keep

def Action.apply (h : Host) (action : Action) : Answer × Host :=
  (action.reply.answer h,
    { h with sockets := h.sockets.change action.sockets, sessions := h.sessions.change action.sessions })

namespace Action

/-- A call fails, and nothing changes. -/
def failure (e : Error) : Action := ⟨.plain (.result (.error e)), .keep, .keep⟩

/-- A change of a connection that is there. -/
def ofSocket (fd : Nat) (change : Socket → Socket) : Option Socket → Action
  | none => ⟨.plain (.done false), .keep, .keep⟩
  | some socket => ⟨.plain (.done true), .set fd (change socket), .keep⟩

/-- A stream is opened. -/
def opening (wait fd : Nat) : Option Socket → Action
  | none => failure (.invalidArgument ("unknown descriptor " ++ toString fd))
  | some _ => ⟨.handle, .keep, .issue ⟨{ wait := wait }, fd⟩⟩

/-- A stream that is there is given up. -/
def closing (n : Nat) : Option (Session × Socket) → Action
  | none => failure (.invalidArgument ("unknown stream " ++ toString n))
  | some _ => ⟨.plain (.result (.ok .undefined)), .keep, .erase n⟩

/-- A stream that is there reads. -/
def reading (n : Nat) (operation : Stream.Operation) : Option (Session × Socket) → Action
  | none => failure (.invalidArgument ("unknown stream " ++ toString n))
  | some (session, socket) =>
    let (answer, t) := Stream.perform ⟨session.reader, socket.source⟩ operation
    ⟨.plain (.result (Call.value answer)), .set session.descriptor { socket with source := t.source },
      .set n { session with reader := t.toReader }⟩

end Action

def callAction (h : Host) : Call → Action
  | .openStream (.ofNat fd) => .opening h.wait fd (h.openSocket? fd)
  | .openStream (.negSucc m) =>
    .failure (.invalidArgument ("unknown descriptor " ++ toString (Int.negSucc m)))
  | .closeStream n => .closing n (h.stream? n)
  | .readByte n => .reading n .readByte (h.stream? n)
  | .readHeaders n => .reading n .readHeaders (h.stream? n)
  | .readPost n size => .reading n (.readPost size) (h.stream? n)
  | .readMime n size boundary => .reading n (.readMime size boundary) (h.stream? n)

def action (h : Host) : Step → Action
  | .connect => ⟨.descriptor, .issue {}, .keep⟩
  | .send fd bytes =>
    .ofSocket fd (fun socket => { socket with source := socket.source.feed bytes })
      ((h.openSocket? fd).filter Socket.peerIsOpen)
  | .hangup fd =>
    .ofSocket fd (fun socket => { socket with peerIsOpen := false })
      ((h.sockets.get? fd).filter Socket.peerIsOpen)
  | .closeDescriptor fd =>
    .ofSocket fd (fun socket => { socket with isOpen := false }) (h.openSocket? fd)
  | .openStreams => ⟨.plain (.count h.openStreams), .keep, .keep⟩
  | .functions => ⟨.plain (.names (Native.all.map Native.name)), .keep, .keep⟩
  | .call name values =>
    match Native.ofName? name with
    | none => .failure (.unknownFunction name)
    | some f =>
      match Call.ofValues f values with
      | .error e => .failure e
      | .ok c => h.callAction c

theorem apply_callAction (h : Host) (c : Call) :
    (h.callAction c).apply h = (.result (h.perform c).1, (h.perform c).2) := by
  have hreading : ∀ {n : Nat} {operation : Stream.Operation}, c.reading? = some (n, operation) →
      (Action.reading n operation (h.stream? n)).apply h =
        (.result (h.perform c).1, (h.perform c).2) := by
    intro n operation hc
    cases hstream : h.stream? n with
    | none =>
      rw [perform_of_stream?_none hc hstream]
      rfl
    | some found =>
      rw [perform_of_stream? hc hstream]
      rfl
  cases c with
  | openStream fd =>
    cases fd with
    | negSucc m => rfl
    | ofNat fd =>
      simp only [callAction, perform, openStream?]
      cases h.openSocket? fd <;> rfl
  | closeStream n =>
    simp only [callAction, perform, closeStream?]
    cases h.stream? n <;> rfl
  | _ => exact hreading rfl

/-- **A step** does what it comes to. -/
theorem step_eq_apply (h : Host) (s : Step) : h.step s = (h.action s).apply h := by
  cases s with
  | connect | openStreams | functions => rfl
  | send fd bytes =>
    simp only [step, send, action]
    cases (h.openSocket? fd).filter Socket.peerIsOpen <;> rfl
  | hangup fd =>
    simp only [step, hangup, action]
    cases (h.sockets.get? fd).filter Socket.peerIsOpen <;> rfl
  | closeDescriptor fd =>
    simp only [step, closeDescriptor, action]
    cases h.openSocket? fd <;> rfl
  | call name values =>
    simp only [step, call, action]
    cases Native.ofName? name with
    | none => rfl
    | some f =>
      simp only
      cases Call.ofValues f values with
      | error e => rfl
      | ok c => exact (h.apply_callAction c).symm

end Host

end FormCapture
