import FormCapture.Proofs.Host.Steps

/-! # Laws of one step

Several streams may read one connection, so a step is looked at from both sides. From the side of a
descriptor, bytes come from the peer and leave by refills (`Happens.source`). From the side of a stream,
bytes come by refills and leave by being taken or by being dropped (`Happens.buffer`).

Descriptors that are closed stay closed (`Happens.isShut`), streams that are gone do not come back
(`Happens.isGone`), and a stream that has nothing buffered nor queued on a closed connection stays so
(`Happens.isDry`). All laws are those of a host whose numbers are counted (`Happens.isCounted`). -/

namespace FormCapture

/-! ### Sources that are fed and read -/

/-- Bytes come in at the end of a source, and are read from its front. -/
structure Source.Moves (s : Source) (sent : Bytes) (refills : List Bytes) (t : Source) : Prop where
  reads : t.reads = s.reads ++ refills
  held : refills.flatten ++ t.held = s.held ++ sent

theorem Source.Moves.refl (s : Source) : Moves s [] [] s where
  reads := (List.append_nil _).symm
  held := (List.append_nil _).symm

theorem Source.Moves.trans {s t u : Source} {xs ys : Bytes} {refills more : List Bytes}
    (h : Moves s xs refills t) (h' : Moves t ys more u) : Moves s (xs ++ ys) (refills ++ more) u where
  reads := by rw [h'.reads, h.reads, List.append_assoc]
  held := by
    rw [List.flatten_append, List.append_assoc, h'.held, ← List.append_assoc, h.held,
      List.append_assoc]

namespace Host

section Laws

variable {h : Host} {t u : Tally} {s : Step} {answer : Answer} {event : Event} {m fd : Nat}

theorem isCounted_new (wait : Nat) : Tally.IsCounted ⟨{ wait := wait }, 0⟩ where
  sockets := Table.isFresh_empty 3
  next := rfl
  numbered := fun hget => nomatch hget

theorem session?_new (wait m : Nat) : Tally.session? ⟨{ wait := wait }, 0⟩ m = none := ite_self none

/-- An entry that is set is still that of its stream. -/
theorem Tally.IsCounted.set (ht : t.IsCounted) {session : Session} (hm : t.session? m = some session)
    (changed : Session) {sockets : Table 0 Socket} (hsockets : sockets.IsFresh) :
    IsCounted ⟨⟨t.host.wait, sockets, t.host.sessions.set (handleOf m) changed⟩, t.opened⟩ where
  sockets := hsockets
  next := ht.next
  numbered := by
    intro n found hget
    rw [Table.get?_set_of_some (session?_eq_some.mp hm).2] at hget
    simp only [session?_set hm]
    by_cases hn : n = handleOf m
    · rw [if_pos hn] at hget
      exact ⟨m, hn.symm, (if_pos rfl).trans hget⟩
    · rw [if_neg hn] at hget
      obtain ⟨k, rfl, hk⟩ := ht.numbered hget
      exact ⟨k, rfl, (if_neg fun heq => hn (congrArg handleOf heq)).trans hk⟩

theorem Tally.IsCounted.erase (ht : t.IsCounted) {session : Session} (hm : t.session? m = some session) :
    IsCounted ⟨{ t.host with sessions := t.host.sessions.erase (handleOf m) }, t.opened⟩ where
  sockets := ht.sockets
  next := ht.next
  numbered := by
    intro n found hget
    rw [Table.get?_erase] at hget
    simp only [session?_erase hm]
    by_cases hn : n = handleOf m
    · rw [if_pos hn] at hget
      cases hget
    · rw [if_neg hn] at hget
      obtain ⟨k, rfl, hk⟩ := ht.numbered hget
      exact ⟨k, rfl, (if_neg fun heq => hn (congrArg handleOf heq)).trans hk⟩

/-- The stream that is opened gets the next handle, and the entry that was there is no stream's any more. -/
theorem Tally.IsCounted.issue (ht : t.IsCounted) (session : Session) :
    IsCounted ⟨{ t.host with sessions := t.host.sessions.issue session }, t.opened + 1⟩ where
  sockets := ht.sockets
  next := by
    show (t.host.sessions.next + 1) % UInt32.size = _
    rw [ht.next, handleOf, handleOf, Nat.mod_add_mod]
  numbered := by
    intro n found hget
    rw [Table.get?_issue, ht.next] at hget
    simp only [session?_issue ht.next]
    by_cases hn : n = handleOf (t.opened + 1)
    · rw [if_pos hn] at hget
      exact ⟨t.opened + 1, hn.symm, (if_pos rfl).trans hget⟩
    · rw [if_neg hn] at hget
      obtain ⟨k, rfl, hk⟩ := ht.numbered hget
      have hnew : k ≠ t.opened + 1 := fun heq => hn (congrArg handleOf heq)
      have hlost : t.opened + 1 ≠ k + UInt32.size := by
        intro heq
        rw [heq, handleOf, handleOf, Nat.add_mod_right] at hn
        exact hn rfl
      exact ⟨k, rfl, (if_neg hnew).trans ((if_neg hlost).trans hk)⟩

theorem Happens.isCounted (hstep : Happens t s answer event u) (ht : t.IsCounted) : u.IsCounted := by
  cases hstep with
  | nothing => exact ht
  | connected => exact ⟨ht.sockets.issue _, ht.next, ht.numbered⟩
  | sent | hungUp | closed => exact ⟨ht.sockets.set _ _, ht.next, ht.numbered⟩
  | opened => exact ht.issue _
  | dropped _ hm => exact ht.erase hm
  | drew _ _ hm => exact ht.set hm _ (ht.sockets.set _ _)

/-- **What every step keeps**, a whole run keeps. -/
theorem Tally.IsCounted.run {P : Tally → Prop} (ht : t.IsCounted)
    (hkeeps : ∀ {t u s answer event}, Happens t s answer event u → t.IsCounted → P t → P u) (hp : P t)
    (steps : List Step) : ∃ u, u.host = (t.host.run steps).2 ∧ u.IsCounted ∧ P u := by
  induction steps generalizing t with
  | nil => exact ⟨t, rfl, ht, hp⟩
  | cons s later ih =>
    obtain ⟨event, u, hstep, hu⟩ := ht.step_happens s
    have hlast := ih (hstep.isCounted ht) (hkeeps hstep ht hp)
    rw [hu] at hlast
    exact hlast

theorem source_eq {socket : Socket} (hget : h.sockets.get? fd = some socket) :
    h.source fd = socket.source := by
  rw [source, hget, Option.elim_some]

theorem source_set {socket : Socket} (hget : h.sockets.get? fd = some socket)
    (changed : Socket) (sessions : Table UInt32.size Session) (m : Nat) :
    source ⟨h.wait, h.sockets.set fd changed, sessions⟩ m =
      if m = fd then changed.source else h.source m := by
  rw [source, source, Table.get?_set_of_some hget]
  split <;> rfl

/-- **The descriptor's side**: what the peer sends comes behind what is queued, and refills are taken
from the front of the queue. -/
theorem Happens.source (hstep : Happens t s answer event u) (ht : t.IsCounted) (fd : Nat) :
    (t.host.source fd).Moves (event.sentOn fd) (event.readsOn fd) (u.host.source fd) := by
  cases hstep with
  | nothing => exact .refl _
  | connected =>
    have hsame : Host.source { t.host with sockets := t.host.sockets.issue {} } fd =
        t.host.source fd := by
      rw [Host.source, Host.source, Table.get?_issue]
      split
      · next heq =>
        rw [heq, ht.sockets _ (Nat.le_refl _)]
        rfl
      · rfl
    rw [hsame]
    exact .refl _
  | @sent fd' bytes socket hget =>
    rw [source_set hget]
    by_cases heq : fd = fd'
    · subst heq
      rw [if_pos rfl, source_eq hget, Event.sentOn, if_pos rfl]
      exact ⟨(Source.reads_feed _ _).trans (List.append_nil _).symm, Source.held_feed _ _⟩
    · rw [if_neg heq, Event.sentOn, if_neg (Ne.symm heq)]
      exact .refl _
  | @hungUp fd' socket hget | @closed fd' socket hget =>
    rw [source_set hget]
    split
    · next heq =>
      rw [heq, source_eq hget]
      exact .refl _
    · exact .refl _
  | opened | dropped => exact .refl _
  | @drew _ c k session socket read refills after _ _ _ hget _ hdraws =>
    rw [source_set hget]
    by_cases heq : fd = session.descriptor
    · subst heq
      rw [if_pos rfl, source_eq hget, Event.readsOn, if_pos rfl]
      exact ⟨hdraws.reads, hdraws.held.trans (List.append_nil _).symm⟩
    · rw [if_neg heq, Event.readsOn, if_neg (Ne.symm heq)]
      exact .refl _

/-! ### Streams that lose their handle -/

theorem buffer_eq {n : Nat} {session : Session} (hget : h.sessions.get? n = some session) :
    h.buffer n = session.reader.buffer := by
  rw [buffer, hget, Option.elim_some]

theorem Tally.buffer_eq {session : Session} (hm : t.session? m = some session) :
    t.buffer m = session.reader.buffer := by
  rw [buffer, hm, Option.elim_some]

theorem Tally.buffer_of_none (hnone : t.session? m = none) : t.buffer m = [] := by
  rw [buffer, hnone, Option.elim_none]

theorem Tally.session?_of_opened_lt (hm : t.opened < m) : t.session? m = none :=
  if_neg fun hlatest => absurd hlatest.1 (Nat.not_le_of_lt hm)

/-- What the next stream takes the place of is the stream that has its handle. -/
theorem Tally.buffer_of_next (hm : t.opened + 1 = m + UInt32.size) :
    t.host.buffer (handleOf (t.opened + 1)) = t.buffer m := by
  have hlatest : IsLatest m t.opened := by
    simp only [IsLatest, UInt32.size] at hm ⊢
    omega
  have hhandle : handleOf (t.opened + 1) = handleOf m := by
    rw [hm, handleOf, handleOf, Nat.add_mod_right]
  rw [hhandle, buffer, session?, if_pos hlatest]
  rfl

/-- **The stream's side**: refills come behind what is buffered, and bytes are taken or dropped from the
front of the buffer. -/
theorem Happens.buffer (hstep : Happens t s answer event u) (ht : t.IsCounted) (m : Nat) :
    event.takenBy m ++ (event.droppedBy m ++ u.buffer m) =
      t.buffer m ++ (event.refillsOf m).flatten := by
  cases hstep with
  | nothing | connected | sent | hungUp | closed => exact (List.append_nil _).symm
  | @opened _ fd =>
    obtain ⟨htaken, hrefills⟩ := Event.of_opened m (t.opened + 1) fd
      (t.host.buffer (handleOf (t.opened + 1)))
    rw [htaken, hrefills, Event.droppedBy_opened, List.flatten_nil, List.nil_append, List.append_nil,
      Tally.buffer, Tally.session?_issue ht.next]
    by_cases hnew : m = t.opened + 1
    · have hold : t.buffer m = [] :=
        Tally.buffer_of_none (Tally.session?_of_opened_lt (by omega))
      have hne : t.opened + 1 ≠ m + UInt32.size := by
        simp only [UInt32.size]
        omega
      rw [if_neg hne, if_pos hnew, hold]
      rfl
    · rw [if_neg hnew]
      by_cases hlost : t.opened + 1 = m + UInt32.size
      · rw [if_pos hlost, if_pos hlost, Tally.buffer_of_next hlost]
        exact List.append_nil _
      · rw [if_neg hlost, if_neg hlost]
        rfl
  | @dropped _ k session _ hk =>
    simp only [Event.takenBy, Event.droppedBy, Event.refillsOf, List.flatten_nil, List.nil_append,
      List.append_nil]
    rw [Tally.buffer, Tally.session?_erase hk]
    by_cases heq : m = k
    · subst heq
      rw [if_pos rfl, if_pos rfl, Tally.buffer_eq hk]
      exact List.append_nil _
    · rw [if_neg (Ne.symm heq), if_neg heq]
      rfl
  | @drew _ c k session socket read refills after _ _ hk _ _ hdraws =>
    rw [Tally.buffer, Tally.session?_set hk]
    by_cases heq : m = k
    · subst heq
      rw [if_pos rfl, Tally.buffer_eq hk, Event.takenBy, if_pos rfl, Event.refillsOf, if_pos rfl]
      exact hdraws.buffer
    · rw [if_neg heq, Event.takenBy, if_neg (Ne.symm heq), Event.refillsOf, if_neg (Ne.symm heq)]
      exact (List.append_nil _).symm

/-! ### What is closed stays closed -/

theorem Happens.socket (hstep : Happens t s answer event u) (ht : t.IsCounted) {socket : Socket}
    (hget : t.host.sockets.get? fd = some socket) :
    ∃ later, u.host.sockets.get? fd = some later ∧
      (socket.isOpen = false → later.isOpen = false) := by
  have hset : ∀ {d : Nat} {found changed : Socket}, t.host.sockets.get? d = some found →
      (found.isOpen = false → changed.isOpen = false) → ∃ later,
        (t.host.sockets.set d changed).get? fd = some later ∧
          (socket.isOpen = false → later.isOpen = false) := by
    intro d found changed hfound hchanged
    rw [Table.get?_set_of_some hfound]
    by_cases heq : fd = d
    · subst heq
      obtain rfl : found = socket := Option.some.inj (hfound.symm.trans hget)
      exact ⟨changed, if_pos rfl, hchanged⟩
    · exact ⟨socket, (if_neg heq).trans hget, id⟩
  cases hstep with
  | nothing | opened | dropped => exact ⟨socket, hget, id⟩
  | connected =>
    have hne : fd ≠ t.host.sockets.next := Nat.ne_of_lt (ht.sockets.lt_next hget)
    exact ⟨socket, (Table.get?_issue _ _ _).trans ((if_neg hne).trans hget), id⟩
  | sent hfound | hungUp hfound | drew _ _ _ hfound => exact hset hfound id
  | closed hfound => exact hset hfound fun _ => rfl

/-- A descriptor that is handed out has a connection. -/
theorem Happens.exists_socket (hstep : Happens t s (.descriptor fd) event u) :
    ∃ socket, u.host.sockets.get? fd = some socket := by
  cases hstep with
  | nothing hquiet => cases hquiet
  | connected => exact ⟨_, (Table.get?_issue _ _ _).trans (if_pos rfl)⟩

/-- **A descriptor that is closed stays closed**, and the peer sends nothing more on it. -/
theorem Happens.isShut (hstep : Happens t s answer event u) (ht : t.IsCounted)
    (hshut : t.host.IsShut fd) : u.host.IsShut fd ∧ event.sentOn fd = [] := by
  obtain ⟨socket, hget, hclosed⟩ := hshut
  obtain ⟨later, hlater, himp⟩ := hstep.socket ht hget
  refine ⟨⟨later, hlater, himp hclosed⟩, ?_⟩
  cases hstep with
  | @sent d bytes found hfound hopen =>
    have hne : d ≠ fd := by
      rintro rfl
      obtain rfl : found = socket := Option.some.inj (hfound.symm.trans hget)
      rw [hopen] at hclosed
      cases hclosed
    exact if_neg hne
  | _ => rfl

/-! ### Streams that are gone -/

theorem Tally.IsGone.buffer_eq (hgone : t.IsGone m) : t.buffer m = [] := buffer_of_none hgone.2

theorem Tally.IsGone.descriptor?_eq (hgone : t.IsGone m) : t.descriptor? m = none := by
  rw [descriptor?, hgone.2, Option.map_none]

theorem Tally.IsGone.ne (hgone : t.IsGone m) {k : Nat} {session : Session}
    (hk : t.session? k = some session) : m ≠ k := by
  rintro rfl
  rw [hgone.2] at hk
  cases hk

/-- **A stream that is gone does not come back**, and nothing becomes of its bytes. -/
theorem Happens.isGone (hstep : Happens t s answer event u) (ht : t.IsCounted) (hgone : t.IsGone m) :
    u.IsGone m ∧ event.takenBy m = [] ∧ event.droppedBy m = [] ∧ event.refillsOf m = [] := by
  obtain ⟨hle, hnone⟩ := hgone
  cases hstep with
  | nothing | connected | sent | hungUp | closed => exact ⟨⟨hle, hnone⟩, rfl, rfl, rfl⟩
  | opened =>
    refine ⟨⟨Nat.le_succ_of_le hle, ?_⟩, rfl, ?_, rfl⟩
    · rw [Tally.session?_issue ht.next, if_neg (Nat.ne_of_lt (Nat.lt_succ_of_le hle)), hnone]
      exact ite_self none
    · rw [Event.droppedBy]
      split
      · next hlost => rw [Tally.buffer_of_next hlost, Tally.buffer_of_none hnone]
      · rfl
  | dropped _ hk =>
    have hne := Tally.IsGone.ne ⟨hle, hnone⟩ hk
    refine ⟨⟨hle, ?_⟩, rfl, if_neg (Ne.symm hne), rfl⟩
    rw [Tally.session?_erase hk, if_neg hne, hnone]
  | drew _ _ hk =>
    have hne := Tally.IsGone.ne ⟨hle, hnone⟩ hk
    refine ⟨⟨hle, ?_⟩, if_neg (Ne.symm hne), rfl, if_neg (Ne.symm hne)⟩
    rw [Tally.session?_set hk, if_neg hne, hnone]

/-- Only a stream that is gone then drops anything. -/
theorem Happens.isGone_or_droppedBy_eq (hstep : Happens t s answer event u) (ht : t.IsCounted) (m : Nat) :
    u.IsGone m ∨ event.droppedBy m = [] := by
  cases hstep with
  | opened =>
    rw [Event.droppedBy]
    split
    · next hlost =>
      have hne : m ≠ t.opened + 1 := by
        simp only [UInt32.size] at hlost
        omega
      refine Or.inl ⟨hlost ▸ Nat.le_add_right m _, ?_⟩
      rw [Tally.session?_issue ht.next, if_neg hne, if_pos hlost]
    · exact Or.inr rfl
  | dropped _ hk =>
    rw [Event.droppedBy]
    split
    · next heq =>
      subst heq
      refine Or.inl ⟨(Tally.session?_eq_some.mp hk).1.1, ?_⟩
      rw [Tally.session?_erase hk, if_pos rfl]
    · exact Or.inr rfl
  | _ => exact Or.inr rfl

/-- A stream reads the connection that it was opened on. -/
theorem Happens.descriptor?_of_drew {taken : Bytes} {refills : List Bytes}
    (hstep : Happens t s answer (.drew m fd taken refills) u) : t.descriptor? m = some fd := by
  cases hstep with
  | drew _ _ hm => rw [Tally.descriptor?, hm, Option.map_some]

/-- A stream keeps its connection until it is gone. -/
theorem Happens.descriptor? (hstep : Happens t s answer event u) (ht : t.IsCounted)
    (hm : t.descriptor? m = some fd) : u.descriptor? m = some fd ∨ u.IsGone m := by
  obtain ⟨session, hsession, hfd⟩ := Option.map_eq_some_iff.mp hm
  have hle : m ≤ t.opened := (Tally.session?_eq_some.mp hsession).1.1
  cases hstep with
  | nothing | connected | sent | hungUp | closed => exact Or.inl hm
  | opened =>
    have hne : m ≠ t.opened + 1 := Nat.ne_of_lt (Nat.lt_succ_of_le hle)
    rw [Tally.descriptor?, Tally.IsGone, Tally.session?_issue ht.next, if_neg hne]
    split
    · exact Or.inr ⟨Nat.le_succ_of_le hle, rfl⟩
    · exact Or.inl hm
  | dropped _ hk =>
    rw [Tally.descriptor?, Tally.IsGone, Tally.session?_erase hk]
    split
    · exact Or.inr ⟨hle, rfl⟩
    · exact Or.inl hm
  | @drew _ _ k found _ _ _ _ _ _ hk =>
    refine Or.inl ?_
    rw [Tally.descriptor?, Tally.session?_set hk]
    by_cases heq : m = k
    · subst heq
      obtain rfl : found = session := Option.some.inj (hk.symm.trans hsession)
      rw [if_pos rfl]
      exact congrArg some hfd
    · rw [if_neg heq]
      exact hm

/-- A stream that is there was there before, or is new. -/
theorem Happens.descriptor?_or_opened (hstep : Happens t s answer event u) (ht : t.IsCounted)
    (hm : u.descriptor? m = some fd) : t.descriptor? m = some fd ∨ event.opening? = some (m, fd) := by
  cases hstep with
  | nothing | connected | sent | hungUp | closed => exact Or.inl hm
  | opened =>
    rw [Tally.descriptor?, Tally.session?_issue ht.next] at hm
    split at hm
    · next heq =>
      cases hm
      exact Or.inr (by rw [heq]; rfl)
    · split at hm
      · cases hm
      · exact Or.inl hm
  | dropped _ hk =>
    rw [Tally.descriptor?, Tally.session?_erase hk] at hm
    split at hm
    · cases hm
    · exact Or.inl hm
  | drew _ _ hk =>
    rw [Tally.descriptor?, Tally.session?_set hk] at hm
    split at hm
    · next heq =>
      cases hm
      refine Or.inl ?_
      rw [heq, Tally.descriptor?, hk, Option.map_some]
    · exact Or.inl hm

/-- Streams are numbered in the order in which they are opened. -/
theorem Happens.opened_eq (hstep : Happens t s answer event u) :
    event.opening? = none ∧ u.opened = t.opened ∨
      ∃ fd, event.opening? = some (t.opened + 1, fd) ∧ u.opened = t.opened + 1 ∧
        answer = .result (.ok (.stream (handleOf (t.opened + 1)))) := by
  cases hstep with
  | opened => exact Or.inr ⟨_, rfl, rfl, rfl⟩
  | _ => exact Or.inl ⟨rfl, rfl⟩

/-- A connection that the host is told to close is closed then. -/
theorem isShut_closeDescriptor {socket : Socket} (hget : h.sockets.get? fd = some socket) :
    (h.closeDescriptor fd).2.IsShut fd := by
  cases hopen : h.openSocket? fd with
  | none =>
    simp only [closeDescriptor, hopen]
    refine ⟨socket, hget, ?_⟩
    rw [openSocket?, hget, Option.filter_some] at hopen
    split at hopen
    · cases hopen
    · next hclosed => exact Bool.eq_false_iff.mpr hclosed
  | some found =>
    simp only [closeDescriptor, hopen]
    have hfound := (openSocket?_eq_some.mp hopen).1
    exact ⟨_, (Table.get?_set_of_some hfound _ _).trans (if_pos rfl), rfl⟩

/-! ### Streams that have come to their end -/

/-- A stream that can have no more bytes: its connection is closed, and nothing is buffered or queued. -/
structure Tally.IsDry (t : Tally) (m fd : Nat) : Prop where
  reads : t.descriptor? m = some fd
  shut : t.host.IsShut fd
  buffer : t.buffer m = []
  held : (t.host.source fd).held = []

/-- The refills of a stream come from its connection. -/
theorem Happens.refillsOf_eq (hstep : Happens t s answer event u) (hm : t.descriptor? m = some fd) :
    event.refillsOf m = [] ∨ event.refillsOf m = event.readsOn fd := by
  cases event with
  | drew k fd' taken refills =>
    by_cases heq : k = m
    · subst heq
      obtain rfl : fd' = fd := Option.some.inj (hstep.descriptor?_of_drew.symm.trans hm)
      exact Or.inr ((if_pos rfl).trans (if_pos rfl).symm)
    · exact Or.inl (if_neg heq)
  | _ => exact Or.inl rfl

/-- **No bytes come from nowhere.** -/
theorem Happens.isDry (hstep : Happens t s answer event u) (ht : t.IsCounted) (hdry : t.IsDry m fd) :
    u.IsDry m fd ∨ u.IsGone m := by
  obtain ⟨hreads, hshut, hbuffer, hheld⟩ := hdry
  rcases hstep.descriptor? ht hreads with hlater | hgone
  · obtain ⟨hshut', hsent⟩ := hstep.isShut ht hshut
    have hsource := (hstep.source ht fd).held
    rw [hheld, hsent, List.append_nil, List.append_eq_nil_iff] at hsource
    have hrefills : (event.refillsOf m).flatten = [] := by
      rcases hstep.refillsOf_eq hreads with hnone | hsame
      · rw [hnone]
        rfl
      · rw [hsame]
        exact hsource.1
    have hleft := hstep.buffer ht m
    rw [hbuffer, hrefills, List.append_nil, List.append_eq_nil_iff, List.append_eq_nil_iff] at hleft
    exact Or.inl ⟨hlater, hshut', hleft.2.2, hsource.2⟩
  · exact Or.inr hgone

/-- A call that asks such a stream for bytes says that there are none. -/
theorem Tally.IsDry.perform (hdry : t.IsDry m fd) {c : Call} {operation : Stream.Operation}
    {v : Value} (hreading : c.reading? = some (handleOf m, operation)) (hv : c.noData? = some v) :
    (t.host.perform c).1 = .ok v := by
  obtain ⟨session, hsession, hfd⟩ := Option.map_eq_some_iff.mp hdry.reads
  obtain ⟨socket, hsocket, -⟩ := hdry.shut
  have hstream : t.host.stream? (handleOf m) = some (session, socket) :=
    stream?_eq_some.mpr ⟨(session?_eq_some.mp hsession).2, hfd ▸ hsocket⟩
  have hremaining : Stream.remaining ⟨session.reader, socket.source⟩ = [] := by
    have hbuffer := hdry.buffer
    have hheld := hdry.held
    rw [buffer_eq hsession] at hbuffer
    rw [source_eq hsocket] at hheld
    exact List.append_eq_nil_iff.mpr ⟨hbuffer, hheld⟩
  rw [perform_reading hreading]
  simp only [useStream?, orUnknownStream, hstream]
  exact Call.value_of_remaining_nil hreading hv hremaining

/-- No stream is opened on a connection that is closed. -/
theorem IsShut.call_openStream (hshut : h.IsShut fd) :
    h.call "openStream".toList [.int fd] =
      (.error (.invalidArgument ("unknown descriptor " ++ toString fd)), h) := by
  obtain ⟨socket, hget, hclosed⟩ := hshut
  have hnone : h.openStream? fd = none := by
    rw [openStream?, openSocket?, hget, Option.filter_some, hclosed]
    rfl
  have hname : Native.ofName? "openStream".toList = some .openStream := by decide
  have hvalues : Call.ofValues .openStream [.int fd] = .ok (.openStream fd) := rfl
  simp only [call, hname, hvalues]
  show Host.perform h (.openStream (.ofNat fd)) = _
  simp only [Host.perform, hnone]

end Laws

end Host

end FormCapture
