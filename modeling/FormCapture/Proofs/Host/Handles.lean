import FormCapture.Proofs.Host.Failures
import FormCapture.Proofs.Host.Roll
import Mathlib.Data.List.Range

/-! # Handles and descriptors in the course of a run

What a run has handed out and taken back can be read off its exchanges, that is, its steps with their
answers (`exchanges`): the streams that were opened (`roll`), the handles that were closed, and the same of
descriptors.

Books are kept of this. That every stream of a host is the one that the roll says of its handle holds of all
runs (`IsBooked.reads`). The book of what was closed (`StreamBook`) is kept as long as handles do not come
back, and the book of connections (`ConnectionBook`) in all runs. `IsBooked.isAccountedFor` draws the
conclusions. -/

namespace FormCapture

/-- The stream that a call names. -/
def Call.stream? : Call → Option Nat
  | .openStream _ => none
  | .closeStream n | .readByte n | .readHeaders n | .readPost n _ | .readMime n _ _ => some n

theorem Call.stream?_of_reading? {c : Call} {n : Nat} {operation : Stream.Operation}
    (hc : c.reading? = some (n, operation)) : c.stream? = some n := by
  cases c with
  | openStream | closeStream => cases hc
  | _ =>
    cases hc
    rfl

namespace Host

/-! ### Exchanges -/

/-- A step and what it answered. -/
structure Exchange where
  step : Step
  answer : Answer

/-- The steps of a run with their answers. -/
def exchanges (h : Host) (steps : List Step) : List Exchange :=
  List.zipWith Exchange.mk steps (h.run steps).1

theorem exchanges_cons (h : Host) (s : Step) (later : List Step) :
    h.exchanges (s :: later) = ⟨s, (h.step s).1⟩ :: (h.step s).2.exchanges later := rfl

namespace Exchange

/-- The stream that was opened, and the descriptor that it was opened on. -/
def opening? (x : Exchange) : Option (Nat × Nat) :=
  match x.answer, x.step.call? with
  | .result (.ok (.stream n)), some (.openStream (.ofNat fd)) => some (n, fd)
  | _, _ => none

/-- The stream that was closed. -/
def closing? (x : Exchange) : Option Nat :=
  match x.answer, x.step.call? with
  | .result (.ok .undefined), some (.closeStream n) => some n
  | _, _ => none

/-- The descriptor that was handed out. -/
def connection? (x : Exchange) : Option Nat :=
  match x.answer with
  | .descriptor fd => some fd
  | _ => none

/-- The descriptor that was closed. -/
def shutdown? (x : Exchange) : Option Nat :=
  match x.answer, x.step with
  | .done true, .closeDescriptor fd => some fd
  | _, _ => none

end Exchange

/-- The streams that were opened, with their descriptors. -/
def streamsOpened (xs : List Exchange) : List (Nat × Nat) := xs.filterMap Exchange.opening?

/-- The same, the latest first. -/
def roll (xs : List Exchange) : Roll := (streamsOpened xs).reverse

def handlesIssued (xs : List Exchange) : List Nat := (streamsOpened xs).map Prod.fst

def handlesClosed (xs : List Exchange) : List Nat := xs.filterMap Exchange.closing?

def descriptorsIssued (xs : List Exchange) : List Nat := xs.filterMap Exchange.connection?

def descriptorsClosed (xs : List Exchange) : List Nat := xs.filterMap Exchange.shutdown?

/-- The stream that is given up in an event. -/
def Event.dropping? : Event → Option Nat
  | dropped m _ => some m
  | _ => none

section Books

variable {h g : Host} {t u : Tally} {s : Step} {answer : Answer} {event : Event} {xs : List Exchange}

/-! ### What a step hands out and takes back -/

theorem Answer.of_isQuiet (hquiet : answer.isQuiet = true) :
    (⟨s, answer⟩ : Exchange).opening? = none ∧ (⟨s, answer⟩ : Exchange).closing? = none ∧
      (⟨s, answer⟩ : Exchange).connection? = none ∧ (⟨s, answer⟩ : Exchange).shutdown? = none := by
  cases answer with
  | descriptor => cases hquiet
  | done success =>
    cases success with
    | true => cases hquiet
    | false => exact ⟨rfl, rfl, rfl, rfl⟩
  | count | names => exact ⟨rfl, rfl, rfl, rfl⟩
  | result r =>
    cases r with
    | ok => cases hquiet
    | error => exact ⟨rfl, rfl, rfl, rfl⟩

/-- A call that reads neither opens a stream nor closes one. -/
theorem Exchange.of_reading {c : Call} {reading : Nat × Stream.Operation} (hc : s.call? = some c)
    (hreading : c.reading? = some reading) (r : Except Error Value) :
    (⟨s, .result r⟩ : Exchange).opening? = none ∧ (⟨s, .result r⟩ : Exchange).closing? = none := by
  cases r with
  | error => exact ⟨rfl, rfl⟩
  | ok v =>
    simp only [opening?, closing?, hc]
    cases c with
    | openStream | closeStream => cases hreading
    | _ => cases v <;> exact ⟨rfl, rfl⟩

theorem Happens.opening?_eq (hstep : Happens t s answer event u) :
    (⟨s, answer⟩ : Exchange).opening? =
      event.opening?.map fun opening => (handleOf opening.1, opening.2) := by
  cases hstep with
  | nothing hquiet => exact (Answer.of_isQuiet hquiet).1
  | connected | sent | hungUp | closed | dropped => rfl
  | opened hc =>
    simp only [Exchange.opening?, hc]
    rfl
  | drew hc hreading => exact (Exchange.of_reading hc hreading _).1

theorem Happens.closing?_eq (hstep : Happens t s answer event u) :
    (⟨s, answer⟩ : Exchange).closing? = event.dropping?.map handleOf := by
  cases hstep with
  | nothing hquiet => exact (Answer.of_isQuiet hquiet).2.1
  | connected | sent | hungUp | closed | opened => rfl
  | dropped hc =>
    simp only [Exchange.closing?, hc]
    rfl
  | drew hc hreading => exact (Exchange.of_reading hc hreading _).2

/-! ### The book of streams -/

/-- What is so of the streams of a host when these were opened and these handles were closed so far, and no
handle has come back. -/
structure StreamBook (h : Host) (opened : List (Nat × Nat)) (closed : List Nat) : Prop where
  issued : opened.map Prod.fst = List.range' 1 opened.length
  closed_subset : closed ⊆ opened.map Prod.fst
  there : ∀ n, n ∈ h.sessions.keys ↔ n ∈ opened.map Prod.fst ∧ n ∉ closed
  count : h.openStreams + closed.length = opened.length

theorem streamBook_new (wait : Nat) : StreamBook { wait := wait } [] [] where
  issued := rfl
  closed_subset := List.nil_subset _
  there := fun _ => ⟨fun hn => absurd hn List.not_mem_nil, fun hn => absurd hn.1 List.not_mem_nil⟩
  count := rfl

variable {opened : List (Nat × Nat)} {closed connected shut : List Nat}

theorem StreamBook.not_mem (hb : StreamBook h opened closed) :
    opened.length + 1 ∉ opened.map Prod.fst := by
  rw [hb.issued, List.mem_range'_1]
  omega

/-- A table that has the same numbers leaves the book as it is. -/
theorem StreamBook.of_keys_eq (hb : StreamBook h opened closed)
    (hkeys : g.sessions.keys = h.sessions.keys) : StreamBook g opened closed where
  issued := hb.issued
  closed_subset := hb.closed_subset
  there := fun n => hkeys ▸ hb.there n
  count := by
    rw [openStreams, Table.size_eq, hkeys, ← Table.size_eq]
    exact hb.count

/-- A stream that is opened is entered under a handle that no stream has had. -/
theorem StreamBook.issue (hb : StreamBook h opened closed) (hnext : h.sessions.next = opened.length + 1)
    {session : Session} {fd : Nat} (hissue : g.sessions = h.sessions.issue session) :
    StreamBook g (opened ++ [(opened.length + 1, fd)]) closed := by
  have hnew : opened.length + 1 ∉ closed := fun hn => hb.not_mem (hb.closed_subset hn)
  have hkeys : g.sessions.keys = (opened.length + 1) :: h.sessions.keys := by
    rw [hissue, Table.keys_issue, hnext, List.filter_eq_self.mpr fun n hn => ?_]
    refine bne_iff_ne.mpr ?_
    rintro rfl
    exact hb.not_mem ((hb.there _).mp hn).1
  refine
    { issued := by
        rw [List.map_append, hb.issued, List.length_append, List.length_singleton,
          List.range'_1_concat, List.map_singleton, Nat.add_comm 1]
      closed_subset := fun n hn => List.map_append ▸ List.mem_append_left _ (hb.closed_subset hn)
      there := fun n => ?_
      count := ?_ }
  · rw [hkeys, List.map_append, List.mem_append, List.map_singleton, List.mem_cons, List.mem_singleton,
      hb.there n]
    constructor
    · rintro (rfl | ⟨hn, hopen⟩)
      · exact ⟨Or.inr rfl, hnew⟩
      · exact ⟨Or.inl hn, hopen⟩
    · rintro ⟨hn | rfl, hopen⟩
      · exact Or.inr ⟨hn, hopen⟩
      · exact Or.inl rfl
  · have hcount := hb.count
    rw [openStreams, Table.size_eq] at hcount ⊢
    rw [hkeys, List.length_cons, List.length_append, List.length_singleton]
    omega

/-- A stream that is closed has been there, and is not any more. -/
theorem StreamBook.erase (hb : StreamBook h opened closed) (hs : h.IsSound) {m : Nat}
    (hm : m ∈ h.sessions.keys) (herase : g.sessions = h.sessions.erase m) :
    StreamBook g opened (closed ++ [m]) := by
  refine
    { issued := hb.issued
      closed_subset := ?_
      there := fun n => ?_
      count := ?_ }
  · exact List.append_subset.mpr
      ⟨hb.closed_subset, List.cons_subset.mpr ⟨((hb.there m).mp hm).1, List.nil_subset _⟩⟩
  · rw [herase, Table.keys_erase, List.mem_filter, hb.there n, List.mem_append, List.mem_singleton,
      bne_iff_ne, not_or, and_assoc]
  · have hcount := hb.count
    have hsize := Table.size_erase hs.sessions hm
    rw [openStreams] at hcount
    rw [openStreams, herase, List.length_append, List.length_singleton]
    omega

/-- **One step** keeps the book of streams, unless it brings a handle back. -/
theorem StreamBook.happens (hb : StreamBook t.host opened closed) (ht : t.IsCounted)
    (hs : t.host.IsSound) (hopened : t.opened = opened.length) (hstep : Happens t s answer event u)
    (hfew : u.opened < UInt32.size) :
    StreamBook u.host (opened ++ (⟨s, answer⟩ : Exchange).opening?.toList)
      (closed ++ (⟨s, answer⟩ : Exchange).closing?.toList) := by
  rw [hstep.opening?_eq, hstep.closing?_eq]
  cases hstep with
  | nothing | connected | sent | hungUp | closed =>
    simp only [Event.opening?, Event.dropping?, Option.map_none, Option.toList_none, List.append_nil]
    exact hb.of_keys_eq rfl
  | drew =>
    simp only [Event.opening?, Event.dropping?, Option.map_none, Option.toList_none, List.append_nil]
    exact hb.of_keys_eq (Table.keys_set _ _ _)
  | opened =>
    have hhandle : handleOf (t.opened + 1) = opened.length + 1 := by
      rw [hopened]
      exact Nat.mod_eq_of_lt (hopened ▸ hfew)
    simp only [Event.opening?, Event.dropping?, Option.map_none, Option.map_some, Option.toList_none,
      Option.toList_some, List.append_nil, hhandle]
    exact hb.issue (ht.next.trans hhandle) rfl
  | dropped _ hm =>
    simp only [Event.opening?, Event.dropping?, Option.map_none, Option.map_some, Option.toList_none,
      Option.toList_some, List.append_nil]
    exact hb.erase hs (Table.mem_keys.mpr ⟨_, (Tally.session?_eq_some.mp hm).2⟩) rfl

/-! ### The book of connections -/

/-- What is so of the connections of a host when these descriptors were handed out and these were closed
so far. -/
structure ConnectionBook (h : Host) (connected shut : List Nat) : Prop where
  next : h.sockets.next = 3 + connected.length
  issued : connected = List.range' 3 connected.length
  there : ∀ fd, fd ∈ h.sockets.keys ↔ fd ∈ connected
  isShut : ∀ fd, h.IsShut fd ↔ fd ∈ shut
  once : shut.Nodup

theorem connectionBook_new (wait : Nat) : ConnectionBook { wait := wait } [] [] where
  next := rfl
  issued := rfl
  there := fun _ => Iff.rfl
  isShut := fun _ => ⟨fun ⟨_, hget, _⟩ => (nomatch hget), fun hfd => absurd hfd List.not_mem_nil⟩
  once := .nil

theorem isShut_set {fd : Nat} {socket : Socket} (hget : h.sockets.get? fd = some socket)
    (changed : Socket) (sessions : Table UInt32.size Session) (m : Nat) :
    IsShut ⟨h.wait, h.sockets.set fd changed, sessions⟩ m ↔
      if m = fd then changed.isOpen = false else h.IsShut m := by
  rw [IsShut]
  simp only [Table.get?_set_of_some hget]
  split
  · exact ⟨fun ⟨_, heq, hshut⟩ => Option.some.inj heq ▸ hshut, fun hshut => ⟨_, rfl, hshut⟩⟩
  · exact Iff.rfl

theorem isShut_iff {fd : Nat} {socket : Socket} (hget : h.sockets.get? fd = some socket) :
    h.IsShut fd ↔ socket.isOpen = false :=
  ⟨fun ⟨_, hfound, hshut⟩ => Option.some.inj (hget.symm.trans hfound) ▸ hshut,
    fun hshut => ⟨socket, hget, hshut⟩⟩

/-- A connection stays as open or closed as it is when something else of it is set. -/
theorem isShut_set_isOpen {fd : Nat} {socket : Socket} (hget : h.sockets.get? fd = some socket)
    (source : Source) (peerIsOpen : Bool) (sessions : Table UInt32.size Session) (m : Nat) :
    IsShut ⟨h.wait, h.sockets.set fd ⟨source, socket.isOpen, peerIsOpen⟩, sessions⟩ m ↔ h.IsShut m := by
  rw [isShut_set hget]
  split
  · next heq => rw [heq, isShut_iff hget]
  · exact Iff.rfl

/-- A new connection is open, and no other is touched. -/
theorem isShut_issue (hf : h.sockets.IsFresh) (sessions : Table UInt32.size Session) (m : Nat) :
    IsShut ⟨h.wait, h.sockets.issue {}, sessions⟩ m ↔ h.IsShut m := by
  rw [IsShut, IsShut]
  simp only [Table.get?_issue]
  split
  · next heq =>
    rw [heq, hf _ (Nat.le_refl _)]
    constructor
    · rintro ⟨_, ⟨⟩, hshut⟩
      cases hshut
    · rintro ⟨_, hget, -⟩
      cases hget
  · exact Iff.rfl

/-- A table that has the same numbers, and the same connections open, leaves the book as it is. -/
theorem ConnectionBook.of_keys_eq (hb : ConnectionBook h connected shut)
    (hnext : g.sockets.next = h.sockets.next) (hkeys : g.sockets.keys = h.sockets.keys)
    (hshut : ∀ m, g.IsShut m ↔ h.IsShut m) : ConnectionBook g connected shut where
  next := hnext.trans hb.next
  issued := hb.issued
  there := fun fd => hkeys ▸ hb.there fd
  isShut := fun fd => (hshut fd).trans (hb.isShut fd)
  once := hb.once

/-- A connection that comes is entered under the next descriptor. -/
theorem ConnectionBook.issue (hb : ConnectionBook h connected shut) (hf : h.sockets.IsFresh) :
    ConnectionBook h.connect.2 (connected ++ [h.sockets.next]) shut where
  next := by
    show (h.sockets.issue {}).next = _
    rw [Table.next_issue, hb.next, List.length_append, List.length_singleton, Nat.add_assoc]
  issued := by
    rw [List.length_append, List.length_singleton, List.range'_1_concat, ← hb.issued, ← hb.next]
  there := fun fd => by
    show fd ∈ (h.sockets.issue {}).keys ↔ _
    rw [Table.keys_issue, List.mem_cons, List.mem_filter, bne_iff_ne, hb.there fd, List.mem_append,
      List.mem_singleton]
    by_cases heq : fd = h.sockets.next
    · simp [heq]
    · simp [heq]
  isShut := fun fd => (isShut_issue hf _ fd).trans (hb.isShut fd)
  once := hb.once

/-- A connection that is closed has been open, and is shut from then on. -/
theorem ConnectionBook.close (hb : ConnectionBook h connected shut) {fd : Nat} {socket : Socket}
    (hget : h.sockets.get? fd = some socket) (hopen : socket.isOpen = true)
    (sessions : Table UInt32.size Session) :
    ConnectionBook ⟨h.wait, h.sockets.set fd { socket with isOpen := false }, sessions⟩ connected
      (shut ++ [fd]) := by
  have hnot : fd ∉ shut := by
    rw [← hb.isShut fd, isShut_iff hget, hopen]
    exact Bool.noConfusion
  refine
    { next := hb.next
      issued := hb.issued
      there := fun m => (Table.keys_set h.sockets fd _) ▸ hb.there m
      isShut := fun m => ?_
      once := List.concat_eq_append ▸ hb.once.concat hnot }
  rw [isShut_set hget, List.mem_append, List.mem_singleton, ← hb.isShut m]
  split
  · next heq => exact ⟨fun _ => Or.inr heq, fun _ => rfl⟩
  · next hne => exact ⟨Or.inl, fun hm => hm.resolve_right hne⟩

/-- **One step** keeps the book of connections. -/
theorem ConnectionBook.happens (hb : ConnectionBook t.host connected shut) (ht : t.IsCounted)
    (hstep : Happens t s answer event u) :
    ConnectionBook u.host (connected ++ (⟨s, answer⟩ : Exchange).connection?.toList)
      (shut ++ (⟨s, answer⟩ : Exchange).shutdown?.toList) := by
  cases hstep with
  | nothing hquiet =>
    obtain ⟨-, -, hconnection, hshutdown⟩ := Answer.of_isQuiet (s := s) hquiet
    rw [hconnection, hshutdown, Option.toList_none, List.append_nil, List.append_nil]
    exact hb
  | opened | dropped =>
    simp only [Exchange.connection?, Exchange.shutdown?, Option.toList_none, List.append_nil]
    exact hb.of_keys_eq rfl rfl fun _ => Iff.rfl
  | sent hget | hungUp hget | drew _ _ _ hget =>
    simp only [Exchange.connection?, Exchange.shutdown?, Option.toList_none, List.append_nil]
    exact hb.of_keys_eq rfl (Table.keys_set _ _ _) (isShut_set_isOpen hget _ _ _)
  | connected =>
    simp only [Exchange.connection?, Exchange.shutdown?, Option.toList_none, Option.toList_some,
      List.append_nil]
    exact hb.issue ht.sockets
  | closed hget hopen =>
    simp only [Exchange.connection?, Exchange.shutdown?, Option.toList_none, Option.toList_some,
      List.append_nil]
    exact hb.close hget hopen t.host.sessions

/-! ### The books of a run -/

/-- What the exchanges of a run say of the host that it leads to. -/
structure IsBooked (h : Host) (xs : List Exchange) : Prop where
  sound : h.IsSound
  counted : Tally.IsCounted ⟨h, (streamsOpened xs).length⟩
  inOrder : (roll xs).IsCounted
  reads : ∀ {n fd}, h.descriptor? n = some fd → (roll xs).owner? n = some fd
  streams : (streamsOpened xs).length < UInt32.size →
    StreamBook h (streamsOpened xs) (handlesClosed xs)
  connections : ConnectionBook h (descriptorsIssued xs) (descriptorsClosed xs)

theorem isBooked_new (wait : Nat) : IsBooked { wait := wait } [] where
  sound := isSound_new wait
  counted := isCounted_new wait
  inOrder := .nil
  reads := fun hn => nomatch hn
  streams := fun _ => streamBook_new wait
  connections := connectionBook_new wait

theorem filterMap_concat {α β : Type} (f : α → Option β) (l : List α) (a : α) :
    (l ++ [a]).filterMap f = l.filterMap f ++ (f a).toList := by
  rw [List.filterMap_append]
  cases hf : f a <;> simp [hf]

theorem streamsOpened_concat (xs : List Exchange) (x : Exchange) :
    streamsOpened (xs ++ [x]) = streamsOpened xs ++ x.opening?.toList := filterMap_concat _ _ _

theorem roll_concat (xs : List Exchange) (x : Exchange) :
    roll (xs ++ [x]) = x.opening?.toList ++ roll xs := by
  rw [roll, roll, streamsOpened_concat, List.reverse_append]
  cases x.opening? <;> rfl

theorem length_roll (xs : List Exchange) : (roll xs).length = (streamsOpened xs).length :=
  List.length_reverse

/-- The roll says of each stream of a host which connection it reads. -/
theorem Happens.owner?_eq (hstep : Happens t s answer event u) (ht : t.IsCounted) {r : Roll}
    (hr : ∀ {n fd}, t.host.descriptor? n = some fd → r.owner? n = some fd) {n fd : Nat}
    (hn : u.host.descriptor? n = some fd) :
    Roll.owner? ((⟨s, answer⟩ : Exchange).opening?.toList ++ r) n = some fd := by
  rw [hstep.opening?_eq]
  cases hstep with
  | nothing | connected | sent | hungUp | closed => exact hr hn
  | opened =>
    rw [Host.descriptor?, Table.get?_issue, ht.next] at hn
    show Roll.owner? ((handleOf (t.opened + 1), _) :: r) n = some fd
    rw [Roll.owner?_cons]
    by_cases heq : n = handleOf (t.opened + 1)
    · rw [if_pos heq] at hn
      rw [if_pos heq.symm]
      exact hn
    · rw [if_neg heq] at hn
      rw [if_neg (Ne.symm heq)]
      exact hr hn
  | dropped =>
    refine hr ?_
    rw [Host.descriptor?, Table.get?_erase] at hn
    split at hn
    · cases hn
    · exact hn
  | drew _ _ hm =>
    refine hr ?_
    have hget := (Tally.session?_eq_some.mp hm).2
    rw [Host.descriptor?, Table.get?_set_of_some hget] at hn
    split at hn
    · next heq =>
      rw [Host.descriptor?, heq, hget]
      exact hn
    · exact hn

theorem IsBooked.step (hb : h.IsBooked xs) (s : Step) :
    (h.step s).2.IsBooked (xs ++ [⟨s, (h.step s).1⟩]) := by
  obtain ⟨event, u, hstep, hu⟩ := hb.counted.step_happens s
  have hopening := hstep.opening?_eq
  have hopened : (streamsOpened (xs ++ [⟨s, (h.step s).1⟩])).length = u.opened := by
    rw [streamsOpened_concat, List.length_append, hopening]
    rcases hstep.opened_eq with ⟨hnone, hsame⟩ | ⟨fd, hsome, hmore, -⟩
    · rw [hnone, hsame]
      rfl
    · rw [hsome, hmore]
      rfl
  have hroll := hb.inOrder
  rw [← hu]
  refine
    { sound := hstep.isSound hb.counted hb.sound
      counted := ?_
      inOrder := ?_
      reads := fun hn => roll_concat xs _ ▸ hstep.owner?_eq hb.counted hb.reads hn
      streams := fun hfew => ?_
      connections := ?_ }
  · rw [hopened]
    exact hstep.isCounted hb.counted
  · rw [roll_concat, hopening]
    rcases hstep.opened_eq with ⟨hnone, -⟩ | ⟨fd, hsome, -, -⟩
    · rw [hnone]
      exact hroll
    · rw [hsome, ← length_roll]
      exact .cons fd hroll
  · rw [hopened] at hfew
    have hbefore : (streamsOpened xs).length ≤ u.opened := by
      rw [← hopened, streamsOpened_concat, List.length_append]
      exact Nat.le_add_right _ _
    rw [streamsOpened_concat, handlesClosed, filterMap_concat]
    exact (hb.streams (Nat.lt_of_le_of_lt hbefore hfew)).happens hb.counted hb.sound rfl hstep hfew
  · rw [descriptorsIssued, descriptorsClosed, filterMap_concat, filterMap_concat]
    exact hb.connections.happens hb.counted hstep

/-- **Any number of steps**, by induction. -/
theorem IsBooked.run (hb : h.IsBooked xs) (steps : List Step) :
    (h.run steps).2.IsBooked (xs ++ h.exchanges steps) := by
  induction steps generalizing h xs with
  | nil =>
    rw [exchanges, List.zipWith_nil_left, List.append_nil]
    exact hb
  | cons s later ih =>
    have hlater := ih (hb.step s)
    rw [List.append_assoc] at hlater
    exact hlater

/-! ### What calls accept -/

theorem mem_keys_iff_stream? (hs : h.IsSound) {n : Nat} :
    n ∈ h.sessions.keys ↔ h.stream? n ≠ none := by
  rw [Ne, hs.stream?_eq_none, ← Ne, Option.ne_none_iff_exists', Table.mem_keys]

/-- A call of a stream that is there may fail, but not because its arguments are not valid. -/
theorem perform_ne_invalidArgument {c : Call} {n : Nat} (hc : c.stream? = some n)
    {session : Session} {socket : Socket} (hstream : h.stream? n = some (session, socket))
    (detail : String) : (h.perform c).1 ≠ .error (.invalidArgument detail) := by
  intro he
  cases hreading : c.reading? with
  | none =>
    cases c with
    | closeStream =>
      cases hc
      simp only [perform, closeStream?, hstream] at he
      cases he
    | openStream => cases hc
    | _ => cases hreading
  | some reading =>
    obtain ⟨m, operation⟩ := reading
    obtain rfl : m = n := Option.some.inj ((Call.stream?_of_reading? hreading).symm.trans hc)
    rw [perform_of_stream? hreading hstream] at he
    obtain ⟨_, _, -, ⟨hrefusal, -⟩ | ⟨bytes, -, -, htranscode⟩⟩ := reading_error hreading he
    · cases hrefusal
    · obtain ⟨missing, hmissing⟩ := Stream.exists_of_transcode_error htranscode
      cases hmissing

theorem perform_eq_invalidArgument {c : Call} {n : Nat} (hc : c.stream? = some n)
    (hnone : h.stream? n = none) :
    (h.perform c).1 = .error (.invalidArgument ("unknown stream " ++ toString n)) := by
  cases c with
  | openStream => cases hc
  | closeStream =>
    cases hc
    simp only [perform, closeStream?, hnone]
    rfl
  | _ =>
    cases hc
    rw [perform_of_stream?_none rfl hnone]

/-- A call takes the stream that it names exactly if it is there. -/
theorem accepts_iff (hs : h.IsSound) {c : Call} {n : Nat} (hc : c.stream? = some n) :
    (∀ detail, (h.call c.native.name.toList c.values).1 ≠ .error (.invalidArgument detail)) ↔
      n ∈ h.sessions.keys := by
  rw [call_values, mem_keys_iff_stream? hs]
  constructor
  · intro haccepts hnone
    exact haccepts _ (perform_eq_invalidArgument hc hnone)
  · intro hthere detail
    obtain ⟨⟨session, socket⟩, hstream⟩ := Option.ne_none_iff_exists'.mp hthere
    exact perform_ne_invalidArgument hc hstream detail

theorem IsBooked.openSocket?_iff (hb : h.IsBooked xs) {fd : Nat} :
    (∃ socket, h.openSocket? fd = some socket) ↔
      fd ∈ descriptorsIssued xs ∧ fd ∉ descriptorsClosed xs := by
  rw [← hb.connections.there, ← hb.connections.isShut, Table.mem_keys]
  constructor
  · rintro ⟨socket, hopen⟩
    obtain ⟨hget, hisOpen⟩ := openSocket?_eq_some.mp hopen
    refine ⟨⟨socket, hget⟩, ?_⟩
    rw [isShut_iff hget, hisOpen]
    exact Bool.noConfusion
  · rintro ⟨⟨socket, hget⟩, hnot⟩
    rw [isShut_iff hget, Bool.not_eq_false] at hnot
    exact ⟨socket, openSocket?_eq_some.mpr ⟨hget, hnot⟩⟩

/-- A stream is opened exactly if its connection is open. -/
theorem IsBooked.opens_iff (hb : h.IsBooked xs) (fd : Int) :
    (∃ n, (h.call "openStream".toList [.int fd]).1 = .ok (.stream n)) ↔
      ∃ d : Nat, fd = d ∧ d ∈ descriptorsIssued xs ∧ d ∉ descriptorsClosed xs := by
  have hcall : h.call "openStream".toList [.int fd] = h.perform (.openStream fd) :=
    h.call_values (.openStream fd)
  rw [hcall]
  cases fd with
  | negSucc m =>
    constructor
    · rintro ⟨n, hn⟩
      cases hn
    · rintro ⟨d, hd, -⟩
      cases hd
  | ofNat m =>
    have hopens : (∃ n, (h.perform (.openStream (.ofNat m))).1 = .ok (.stream n)) ↔
        ∃ socket, h.openSocket? m = some socket := by
      cases hopen : h.openSocket? m with
      | none => simp [perform, openStream?, hopen]
      | some socket => simp [perform, openStream?, hopen]
    rw [hopens, hb.openSocket?_iff]
    constructor
    · intro hm
      exact ⟨m, rfl, hm⟩
    · rintro ⟨d, hd, hm⟩
      cases hd
      exact hm

theorem IsBooked.closes_iff (hb : h.IsBooked xs) {fd : Nat} :
    (h.closeDescriptor fd).1 = true ↔ fd ∈ descriptorsIssued xs ∧ fd ∉ descriptorsClosed xs := by
  rw [← hb.openSocket?_iff, closeDescriptor]
  cases h.openSocket? fd with
  | none => simp
  | some socket => simp

/-! ### Conclusions -/

/-- What the answers of a run say of the streams of the host that it leads to. -/
structure HandlesAccounted (h : Host) (xs : List Exchange) : Prop where
  /-- No handle is handed out twice. -/
  handles_nodup : (handlesIssued xs).Nodup
  /-- They are handed out in order from 1 on. -/
  handles_eq : handlesIssued xs = List.range' 1 (handlesIssued xs).length
  /-- A call takes a handle exactly if it has been handed out and not been closed. -/
  accepts : ∀ (c : Call) (n : Nat), c.stream? = some n →
    ((∀ detail, (h.call c.native.name.toList c.values).1 ≠ .error (.invalidArgument detail)) ↔
      n ∈ handlesIssued xs ∧ n ∉ handlesClosed xs)
  openStreams : h.openStreams + (handlesClosed xs).length = (handlesIssued xs).length

/-- **Handles and descriptors are never confused**: what the answers of a run say of the host that it
leads to. -/
structure IsAccountedFor (h : Host) (xs : List Exchange) : Prop where
  /-- As long as there are handles that have not been handed out. -/
  handles : (handlesIssued xs).length < UInt32.size → HandlesAccounted h xs
  /-- No descriptor is handed out twice. -/
  descriptors_nodup : (descriptorsIssued xs).Nodup
  /-- A stream is opened on a descriptor exactly if it has been handed out and not been closed. -/
  opens : ∀ fd : Int, (∃ n, (h.call "openStream".toList [.int fd]).1 = .ok (.stream n)) ↔
    ∃ d : Nat, fd = d ∧ d ∈ descriptorsIssued xs ∧ d ∉ descriptorsClosed xs
  /-- A descriptor can be closed exactly if it has been handed out and not been closed. -/
  closes : ∀ fd, (h.closeDescriptor fd).1 = true ↔
    fd ∈ descriptorsIssued xs ∧ fd ∉ descriptorsClosed xs
  /-- No descriptor is closed twice. -/
  closed_nodup : (descriptorsClosed xs).Nodup
  /-- Closing a connection leaves the streams alone. -/
  closeDescriptor : ∀ fd, (h.closeDescriptor fd).2.sessions = h.sessions
  /-- Closing a stream leaves the connections alone. -/
  closeStream : ∀ n, (h.call "closeStream".toList [.stream n]).2.sockets = h.sockets

theorem sessions_closeDescriptor (h : Host) (fd : Nat) :
    (h.closeDescriptor fd).2.sessions = h.sessions := by
  rw [closeDescriptor]
  split <;> rfl

theorem sockets_closeStream (h : Host) (n : Nat) :
    (h.call "closeStream".toList [.stream n]).2.sockets = h.sockets := by
  have hcall : h.call "closeStream".toList [.stream n] = h.perform (.closeStream n) :=
    h.call_values (.closeStream n)
  rw [hcall, perform, closeStream?]
  cases h.stream? n <;> rfl

theorem IsBooked.handlesAccounted (hb : h.IsBooked xs) (hfew : (streamsOpened xs).length < UInt32.size) :
    h.HandlesAccounted xs := by
  have hbook := hb.streams hfew
  refine
    { handles_nodup := ?_
      handles_eq := ?_
      accepts := fun c n hc => ?_
      openStreams := ?_ }
  · rw [handlesIssued, hbook.issued]
    exact List.nodup_range'
  · rw [handlesIssued, hbook.issued, List.length_range']
  · rw [accepts_iff hb.sound hc, handlesIssued, hbook.there]
  · rw [handlesIssued, List.length_map]
    exact hbook.count

theorem IsBooked.isAccountedFor (hb : h.IsBooked xs) : h.IsAccountedFor xs where
  handles := fun hfew => hb.handlesAccounted (by rwa [handlesIssued, List.length_map] at hfew)
  descriptors_nodup := by
    rw [hb.connections.issued]
    exact List.nodup_range'
  opens := hb.opens_iff
  closes := fun _ => hb.closes_iff
  closed_nodup := hb.connections.once
  closeDescriptor := h.sessions_closeDescriptor
  closeStream := h.sockets_closeStream

end Books

/-- **Every run** of a new host accounts for all descriptors, and for all handles until they come back. -/
theorem run_isAccountedFor (wait : Nat) (steps : List Step) :
    (run { wait := wait } steps).2.IsAccountedFor (exchanges { wait := wait } steps) :=
  ((isBooked_new wait).run steps).isAccountedFor

end Host

end FormCapture
