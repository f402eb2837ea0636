import FormCapture.Proofs.Host.Commuting

/-! # Connections that leave each other alone

A run, seen from one of its connections, is the run of a host that has no other: its steps are those that
are left when the steps of other connections are taken out (`exchangesOf`), with the numbers that the
connection and its streams have there (`renumbering`). A handle means a stream only until another has it,
so what a step concerns and what a number becomes depend on the streams that have been opened before.

The two hosts are kept side by side (`Reduces`): a step that is left is done in both (`Reduces.step`), one
that is taken out in the first only (`Reduces.step_left`), and so a whole run answers alike
(`Reduces.run`). -/

namespace FormCapture.Host

/-! ### A run without other connections -/

/-- The numbers that a connection and its streams have on a host that has no other: its descriptor is the
first, and its streams are counted without the others. -/
def renumbering (r : Roll) (fd : Nat) : Renumbering where
  descriptor d := if d = fd then 3 else d
  handle n := if r.owner? n = some fd then handleOf (r.rank fd n) else n

/-- The exchanges that are left when those that concern other connections are taken out, each with all that
came before it. -/
def exchangesOf (fd : Nat) : List Exchange → List Exchange → List (List Exchange × Exchange)
  | _, [] => []
  | before, x :: later =>
    if ∀ d ∈ x.subject? (ownerOf before), d = fd then
      (before, x) :: exchangesOf fd (before ++ [x]) later
    else exchangesOf fd (before ++ [x]) later

/-- The step of an exchange on the host that has no other connection. -/
def stepOf (fd : Nat) (left : List Exchange × Exchange) : Step :=
  left.2.step.renumber (renumbering (roll left.1) fd)

/-- The same step and the same answer up to numbers, that of a stream which is opened included. The number
of all streams is not compared. -/
structure Alike (fd : Nat) (left : List Exchange × Exchange) (y : Exchange) : Prop where
  step : y.step = stepOf fd left
  answer : left.2.step ≠ .openStreams →
    left.2.answer.Renumbered (renumbering (roll (left.1 ++ [left.2])) fd) y.answer

/-- A handle that the exchanges which are left may name: it is not that of a stream of another
connection. -/
def IsLeft (r : Roll) (fd n : Nat) : Prop := r.owner? n = none ∨ r.owner? n = some fd

/-- A host that has no other connection than `fd`, beside one that may have others. -/
structure Reduces (r : Roll) (fd : Nat) (h k : Host) : Prop where
  mirrors : Mirrors (renumbering r fd) fd (IsLeft r fd) h k
  descriptor : h.sockets.next ≤ fd → k.sockets.next = 3
  handle : k.sessions.next = handleOf (r.openedOn fd + 1)

section Isolation

variable {r : Roll} {h k : Host} {s : Step} {fd d n m : Nat} {xs : List Exchange}

/-! ### The numbers -/

theorem handle_of_owner (hn : r.owner? n = some fd) :
    (renumbering r fd).handle n = handleOf (r.rank fd n) := if_pos hn

theorem handle_of_none (hn : r.owner? n = none) : (renumbering r fd).handle n = n :=
  if_neg (hn.trans_ne (Option.some_ne_none fd).symm)

theorem descriptor_self (r : Roll) (fd : Nat) : (renumbering r fd).descriptor fd = 3 := if_pos rfl

/-- A handle that means no stream means none without the other connections. -/
theorem handleOf_rank_ne (hr : r.IsCounted) (hn : r.owner? n = none) (hm : r.owner? m = some fd) :
    handleOf (r.rank fd m) ≠ n := by
  have hout := hr.of_owner?_eq_none hn
  have hpos := Roll.rank_pos hm
  have hrank := r.rank_le fd m
  have hopened : r.openedOn fd ≤ r.length := List.countP_le_length
  simp only [handleOf, UInt32.size] at hout ⊢
  omega

/-- Streams of one connection keep different handles. -/
theorem eq_of_handleOf_rank (hr : r.IsCounted) (hn : r.owner? n = some fd) (hm : r.owner? m = some fd)
    (heq : handleOf (r.rank fd n) = handleOf (r.rank fd m)) : n = m := by
  have hrank : r.rank fd n = r.rank fd m := by
    have hlt := hr.openedOn_lt hn
    have hlt' := hr.openedOn_lt hm
    have hle := r.rank_le fd n
    have hle' := r.rank_le fd m
    simp only [handleOf, UInt32.size] at heq hlt hlt'
    omega
  have hlength : (r.upTo n).length = (r.upTo m).length := by
    by_contra hne
    rcases Nat.lt_or_gt_of_ne hne with hlt | hgt
    · exact absurd hrank (Nat.ne_of_lt (Roll.rank_lt_rank hm hlt))
    · exact absurd hrank (Nat.ne_of_gt (Roll.rank_lt_rank hn hgt))
  rw [← (hr.isLatest hn).1, hlength, (hr.isLatest hm).1]

/-- No two of the handles that are left get the same number. -/
theorem handle_injective (hr : r.IsCounted) (n m : Nat) (hn : IsLeft r fd n) (hm : IsLeft r fd m)
    (heq : (renumbering r fd).handle n = (renumbering r fd).handle m) : n = m := by
  rcases hn with hn | hn
  · rcases hm with hm | hm
    · rwa [handle_of_none hn, handle_of_none hm] at heq
    · rw [handle_of_none hn, handle_of_owner hm] at heq
      exact absurd heq.symm (handleOf_rank_ne hr hn hm)
  · rcases hm with hm | hm
    · rw [handle_of_owner hn, handle_of_none hm] at heq
      exact absurd heq (handleOf_rank_ne hr hm hn)
    · rw [handle_of_owner hn, handle_of_owner hm] at heq
      exact eq_of_handleOf_rank hr hn hm heq

/-- The streams that are there keep their numbers. -/
theorem handle_cons_of_ne (hne : n ≠ m) :
    (renumbering ((m, d) :: r) fd).handle n = (renumbering r fd).handle n := by
  simp only [renumbering, Roll.owner?_cons_of_ne hne, Roll.rank_cons, if_neg (Ne.symm hne)]

theorem handle_cons_self (r : Roll) (m fd : Nat) :
    (renumbering ((m, fd) :: r) fd).handle m = handleOf (r.openedOn fd + 1) := by
  rw [handle_of_owner (r.owner?_cons_self m fd), Roll.rank_cons, if_pos rfl, Roll.openedOn_cons, if_pos rfl]

/-- A stream of another connection takes a handle away at most. -/
theorem isLeft_cons (hne : d ≠ fd) (hn : IsLeft ((m, d) :: r) fd n) :
    IsLeft r fd n ∧ (renumbering ((m, d) :: r) fd).handle n = (renumbering r fd).handle n := by
  have hother : n ≠ m := by
    rintro rfl
    rw [IsLeft, Roll.owner?_cons_self] at hn
    rcases hn with hn | hn
    · cases hn
    · exact hne (Option.some.inj hn)
  rw [IsLeft, Roll.owner?_cons_of_ne hother] at hn
  exact ⟨hn, handle_cons_of_ne hother⟩

/-! ### One step -/

/-- The descriptor of the connection stays the first one that is handed out. -/
theorem Reduces.descriptor_change (hr : Reduces r fd h k) {c c' : Table.Change Socket}
    (hc : c' = c.map (renumbering r fd).descriptor id) (hconnect : c.IsIssue → h.sockets.next = fd)
    (hle : (h.sockets.change c).next ≤ fd) : (k.sockets.change c').next = 3 := by
  by_cases hi : c.IsIssue
  · rw [(Table.next_change_of_isIssue hi).1, hconnect hi, Nat.mod_zero] at hle
    exact absurd hle (Nat.not_succ_le_self fd)
  · rw [Table.next_change_of_not_isIssue hi] at hle
    rw [hc, Table.next_change_map_of_not_isIssue hi]
    exact hr.descriptor hle

/-- **A step of another connection** is not seen. -/
theorem Reduces.step_left (hr : Reduces (roll xs) fd h k) (hb : h.IsBooked xs)
    (hs : subjectOf h xs s = some d) (hne : d ≠ fd) :
    Reduces (roll (h.exchangesWith xs s)) fd (h.step s).2 k := by
  have hon := hb.isOn hs
  have hother : ∀ {r : Roll} {n}, r.owner? n = some d → ¬ IsLeft r fd n := by
    rintro r n hn (hnone | hfd)
    · exact Option.some_ne_none d (hn.symm.trans hnone)
    · exact hne (Option.some.inj (hn.symm.trans hfd))
  rw [exchangesWith, roll_concat]
  by_cases hi : (h.action s).sessions.IsIssue
  · rw [opening?_of_isOn hi hon, step_eq_apply]
    show Reduces ((h.sessions.next, d) :: roll xs) fd _ k
    have hnew : ∀ {n}, (roll xs).owner? n = some d →
        Roll.owner? ((h.sessions.next, d) :: roll xs) n = some d := by
      intro n hn
      rw [Roll.owner?_cons]
      split
      · rfl
      · exact hn
    have hmirrors : Mirrors (renumbering ((h.sessions.next, d) :: roll xs) fd) fd
        (IsLeft ((h.sessions.next, d) :: roll xs) fd) h k :=
      hr.mirrors.imp rfl fun n hn => isLeft_cons hne hn
    refine
      { mirrors := hmirrors.apply_left hon hne (fun n hn => hother (hnew (hb.reads hn)))
          fun _ => hother ((roll xs).owner?_cons_self _ d)
        descriptor := fun hle => hr.descriptor ((Table.next_le_next_change _).trans hle)
        handle := ?_ }
    rw [hr.handle, Roll.openedOn_cons, if_neg hne, Nat.add_zero]
  · rw [opening?_of_not_isIssue hi, step_eq_apply]
    exact
      { mirrors := hr.mirrors.apply_left hon hne (fun n hn => hother (hb.reads hn))
          fun hissue => absurd hissue hi
        descriptor := fun hle => hr.descriptor ((Table.next_le_next_change _).trans hle)
        handle := hr.handle }

theorem Reply.Renumbered.answer {ρ : Renumbering} {reply reply' : Reply} (hr : reply.Renumbered ρ reply')
    (hdescriptor : reply = .descriptor → k.sockets.next = ρ.descriptor h.sockets.next)
    (hhandle : reply ≠ .handle) : (reply.answer h).Renumbered ρ (reply'.answer k) := by
  cases hr with
  | plain ha => exact ha
  | descriptor =>
    rw [Reply.answer, Reply.answer, hdescriptor rfl]
    exact .descriptor _
  | handle => exact absurd rfl hhandle

theorem Reply.Renumbered.of_handle {ρ : Renumbering} {reply : Reply}
    (hr : Reply.handle.Renumbered ρ reply) : reply = .handle := by
  cases hr
  rfl

/-- A stream of the connection is opened in both. -/
theorem Reduces.opening (hr : Reduces r fd h k) (hopened : Roll.IsCounted ((h.sessions.next, fd) :: r))
    {session : Session} (hfd : session.descriptor = fd) :
    Reduces ((h.sessions.next, fd) :: r) fd { h with sessions := h.sessions.issue session }
      { k with sessions := k.sessions.issue (session.renumber (renumbering r fd)) } := by
  have hdescriptor : (renumbering ((h.sessions.next, fd) :: r) fd).descriptor =
      (renumbering r fd).descriptor := rfl
  have hnew : (renumbering ((h.sessions.next, fd) :: r) fd).handle h.sessions.next = k.sessions.next := by
    rw [handle_cons_self, hr.handle]
  have hlast : IsLeft ((h.sessions.next, fd) :: r) fd h.sessions.next :=
    Or.inr (r.owner?_cons_self _ fd)
  refine
    { mirrors := hr.mirrors.issue hdescriptor hnew (fun n hn hother => ?_) hfd
      descriptor := hr.descriptor
      handle := ?_ }
  · have hsame : (renumbering ((h.sessions.next, fd) :: r) fd).handle n =
        (renumbering r fd).handle n := handle_cons_of_ne hother
    have hkept : IsLeft r fd n := by
      rwa [IsLeft, Roll.owner?_cons_of_ne hother] at hn
    refine ⟨hkept, hsame, fun heq => hother ?_⟩
    exact handle_injective hopened n _ hn hlast (hsame.trans (heq.trans hnew.symm))
  · show (k.sessions.next + 1) % UInt32.size = _
    rw [hr.handle, Roll.openedOn_cons, if_pos rfl, handleOf, handleOf, Nat.mod_add_mod]

/-- **A step of the connection**, or of none, is seen as the same step. -/
theorem Reduces.step (hr : Reduces (roll xs) fd h k) (hb : h.IsBooked xs)
    (hsub : ∀ d, subjectOf h xs s = some d → d = fd) (hs : s ≠ .openStreams) :
    Reduces (roll (h.exchangesWith xs s)) fd (h.step s).2
        (k.step (s.renumber (renumbering (roll xs) fd))).2 ∧
      (h.step s).1.Renumbered (renumbering (roll (h.exchangesWith xs s)) fd)
        (k.step (s.renumber (renumbering (roll xs) fd))).1 := by
  have hon : (h.action s).IsOn h fd := action_isOn hb.reads hsub
  have hconcerns : s.Concerns fd (IsLeft (roll xs) fd) := by
    refine (concerns_of_subject hs hsub).imp fun n hn => ?_
    cases hsome : (roll xs).owner? n with
    | none => exact Or.inl hsome
    | some d => exact Or.inr (hsome.trans (congrArg some (hsub d (hn.symm.trans hsome))))
  have ha := hr.mirrors.action hconcerns
  have hcounted := (hb.step s).inOrder
  rw [exchangesWith, step_eq_apply k]
  rw [roll_concat] at hcounted ⊢
  by_cases hi : (h.action s).sessions.IsIssue
  · have hopening := opening?_of_isOn hi hon
    obtain ⟨d, -, haction⟩ := action_of_isIssue hi
    rw [haction] at ha hon
    obtain rfl : d = fd := hon.entry rfl
    rw [hopening] at hcounted ⊢
    rw [step_eq_apply, haction]
    obtain ⟨hreply, hsockets, hsessions⟩ := ha
    have hnext : k.sessions.next =
        (renumbering ((h.sessions.next, d) :: roll xs) d).handle h.sessions.next := by
      rw [handle_cons_self, hr.handle]
    rw [Action.apply, Action.apply, hreply.of_handle, hsockets, hsessions]
    refine ⟨hr.opening hcounted rfl, ?_⟩
    rw [Reply.answer, Reply.answer, hnext]
    exact .value (.stream _)
  · have hconnect : (h.action s).sockets.IsIssue →
        h.sockets.next = fd ∧
          k.sockets.next = (renumbering (roll xs) fd).descriptor h.sockets.next := by
      intro hi
      have hfd := hon.sockets (Table.next_change_of_isIssue hi).2
      rw [hr.descriptor (Nat.le_of_eq hfd), hfd, descriptor_self]
      exact ⟨rfl, rfl⟩
    have hcoherent := h.isCoherent_action s
    rw [opening?_of_not_isIssue hi, step_eq_apply]
    refine
      ⟨{ mirrors := hr.mirrors.apply ha hon (handle_injective hb.inOrder)
            (fun n hn => Or.inr (hb.reads hn)) (fun hi => (hconnect hi).2) hi
         descriptor := hr.descriptor_change ha.sockets fun hi => (hconnect hi).1
         handle := ?_ }, ?_⟩
    · show (k.sessions.change _).next = _
      rw [ha.sessions, Table.next_change_map_of_not_isIssue hi]
      exact hr.handle
    · exact ha.reply.answer (fun hreply => (hconnect (hcoherent.descriptor hreply)).2)
        fun hreply => hi (hcoherent.handle hreply)

/-! ### A whole run -/

theorem exchangesOf_cons_of_forall {x : Exchange} (hsub : ∀ d ∈ x.subject? (ownerOf xs), d = fd)
    (later : List Exchange) :
    exchangesOf fd xs (x :: later) = (xs, x) :: exchangesOf fd (xs ++ [x]) later := if_pos hsub

theorem exchangesOf_cons_of_ne {x : Exchange} (hsub : x.subject? (ownerOf xs) = some d) (hne : d ≠ fd)
    (later : List Exchange) : exchangesOf fd xs (x :: later) = exchangesOf fd (xs ++ [x]) later :=
  if_neg fun hleft => hne (hleft d hsub)

/-- **Any number of steps**, by induction: what is left of them answers alike. -/
theorem Reduces.run (hr : Reduces (roll xs) fd h k) (hb : h.IsBooked xs) (steps : List Step) :
    List.Forall₂ (Alike fd) (exchangesOf fd xs (h.exchanges steps))
      (k.exchanges ((exchangesOf fd xs (h.exchanges steps)).map (stepOf fd))) := by
  induction steps generalizing h k xs with
  | nil => exact .nil
  | cons s later ih =>
    rw [exchanges_cons]
    by_cases hsub : ∀ d ∈ subjectOf h xs s, d = fd
    · rw [exchangesOf_cons_of_forall hsub, List.map_cons, exchanges_cons]
      by_cases hs : s = .openStreams
      · subst hs
        have hroll : roll (xs ++ [⟨.openStreams, (h.step .openStreams).1⟩]) = roll xs :=
          roll_concat xs _
        exact .cons ⟨rfl, fun hne => absurd rfl hne⟩ (ih (hroll.symm ▸ hr) (hb.step _))
      · obtain ⟨hnext, hanswer⟩ := hr.step hb hsub hs
        exact .cons ⟨rfl, fun _ => hanswer⟩ (ih hnext (hb.step s))
    · obtain ⟨d, hd, hne⟩ : ∃ d, subjectOf h xs s = some d ∧ d ≠ fd := by
        by_contra hnone
        exact hsub fun d hd => by_contra fun hne => hnone ⟨d, hd, hne⟩
      rw [exchangesOf_cons_of_ne hd hne]
      exact ih (hr.step_left hb hd hne) (hb.step s)

end Isolation

end FormCapture.Host
