import FormCapture.Proofs.Host.Laws
import Mathlib.Data.List.Nodup
import Mathlib.Data.List.Perm.Basic

/-! # Streams that share a connection

A ledger of a run says of each step what became of bytes, of streams by their numbers. Every run has one
(`run_ledger`), and what each step keeps in balance is in balance after any number of steps: what a peer
has sent has been read by refills or is still queued (`Ledger.source`), and what a stream has had by
refills it has handed out, has dropped or has still buffered (`Ledger.buffer`). Each refill is that of one
stream (`readsOn_perm`), also where handles have come back.

`run_shares` puts this together, with what is left once a descriptor has been closed. -/

namespace FormCapture.Host

/-- A step of a run, what it answered and what became of bytes. -/
structure Entry where
  step : Step
  answer : Answer
  event : Event

/-- The steps lead from the first host to the last, and do what the entries say. -/
inductive Ledger : Tally → List Entry → Tally → Prop
  | nil (t : Tally) : Ledger t [] t
  | cons {t u w : Tally} {entry : Entry} {later : List Entry} :
      t.host.step entry.step = (entry.answer, u.host) → Happens t entry.step entry.answer entry.event u →
      Ledger u later w → Ledger t (entry :: later) w

/-! ### What a ledger says -/

/-- The bytes that the peer of a descriptor has sent. -/
def sentOn (fd : Nat) (entries : List Entry) : Bytes :=
  entries.flatMap fun entry => entry.event.sentOn fd

/-- The refills that were taken from a descriptor, by any stream. -/
def readsOn (fd : Nat) (entries : List Entry) : List Bytes :=
  entries.flatMap fun entry => entry.event.readsOn fd

/-- The refills of a stream. -/
def refillsOf (m : Nat) (entries : List Entry) : List Bytes :=
  entries.flatMap fun entry => entry.event.refillsOf m

/-- The bytes that a stream has handed out. -/
def takenBy (m : Nat) (entries : List Entry) : Bytes :=
  entries.flatMap fun entry => entry.event.takenBy m

/-- The bytes that a stream has given up. -/
def droppedBy (m : Nat) (entries : List Entry) : Bytes :=
  entries.flatMap fun entry => entry.event.droppedBy m

/-- The streams that were opened, with their descriptors. -/
def openings (entries : List Entry) : List (Nat × Nat) :=
  entries.filterMap fun entry => entry.event.opening?

/-- The streams that were opened on a descriptor. -/
def streamsOn (fd : Nat) (entries : List Entry) : List Nat :=
  ((openings entries).filter fun opening => opening.2 = fd).map Prod.fst

section Ledgers

variable {t u : Tally} {entries : List Entry} {m fd : Nat}

/-- **Every run** has a ledger. -/
theorem run_ledger (ht : t.IsCounted) (steps : List Step) :
    ∃ entries u, Ledger t entries u ∧ u.host = (t.host.run steps).2 ∧
      entries.map Entry.step = steps ∧ entries.map Entry.answer = (t.host.run steps).1 := by
  induction steps generalizing t with
  | nil => exact ⟨[], t, .nil t, rfl, rfl, rfl⟩
  | cons s later ih =>
    obtain ⟨event, next, hstep, hnext⟩ := ht.step_happens s
    obtain ⟨entries, u, hledger, hhost, hsteps, hanswers⟩ := ih (hstep.isCounted ht)
    rw [hnext] at hhost hanswers
    refine ⟨⟨s, (t.host.step s).1, event⟩ :: entries, u, .cons ?_ hstep hledger, hhost, ?_, ?_⟩
    · exact Prod.ext rfl hnext.symm
    · rw [List.map_cons, hsteps]
    · rw [List.map_cons, hanswers]
      rfl

theorem Ledger.exists_of_append {xs ys : List Entry} (hl : Ledger t (xs ++ ys) u) :
    ∃ w, Ledger t xs w ∧ Ledger w ys u := by
  induction xs generalizing t with
  | nil => exact ⟨t, .nil t, hl⟩
  | cons entry xs ih =>
    cases hl with
    | cons hperforms hstep hlater =>
      obtain ⟨w, hxs, hys⟩ := ih hlater
      exact ⟨w, .cons hperforms hstep hxs, hys⟩

theorem Ledger.isCounted (hl : Ledger t entries u) (ht : t.IsCounted) : u.IsCounted := by
  induction hl with
  | nil => exact ht
  | cons _ hstep _ ih => exact ih (hstep.isCounted ht)

/-! ### Laws of a run -/

/-- **The descriptor's side** of a run. -/
theorem Ledger.source (hl : Ledger t entries u) (ht : t.IsCounted) (fd : Nat) :
    (t.host.source fd).Moves (sentOn fd entries) (readsOn fd entries) (u.host.source fd) := by
  induction hl with
  | nil => exact .refl _
  | cons _ hstep _ ih =>
    rw [sentOn, readsOn, List.flatMap_cons, List.flatMap_cons]
    exact (hstep.source ht fd).trans (ih (hstep.isCounted ht))

theorem Ledger.isShut (hl : Ledger t entries u) (ht : t.IsCounted) (hshut : t.host.IsShut fd) :
    u.host.IsShut fd ∧ sentOn fd entries = [] := by
  induction hl with
  | nil => exact ⟨hshut, rfl⟩
  | cons _ hstep _ ih =>
    obtain ⟨hlater, hsent⟩ := hstep.isShut ht hshut
    obtain ⟨hlast, hnone⟩ := ih (hstep.isCounted ht) hlater
    refine ⟨hlast, ?_⟩
    rw [sentOn, List.flatMap_cons, hsent]
    exact hnone

/-- A stream that is gone does not occur in the ledger any more. -/
theorem Ledger.isGone (hl : Ledger t entries u) (ht : t.IsCounted) (hgone : t.IsGone m) :
    u.IsGone m ∧ takenBy m entries = [] ∧ droppedBy m entries = [] ∧ refillsOf m entries = [] := by
  induction hl with
  | nil => exact ⟨hgone, rfl, rfl, rfl⟩
  | cons _ hstep _ ih =>
    obtain ⟨hlater, htaken, hdropped, hrefills⟩ := hstep.isGone ht hgone
    obtain ⟨hlast, htaken', hdropped', hrefills'⟩ := ih (hstep.isCounted ht) hlater
    rw [takenBy, droppedBy, refillsOf, List.flatMap_cons, List.flatMap_cons, List.flatMap_cons, htaken,
      hdropped, hrefills]
    exact ⟨hlast, htaken', hdropped', hrefills'⟩

/-- **The stream's side** of a run. What is dropped stands at the end, since a stream that is gone hands
nothing out any more. -/
theorem Ledger.buffer (hl : Ledger t entries u) (ht : t.IsCounted) (m : Nat) :
    takenBy m entries ++ (droppedBy m entries ++ u.buffer m) =
      t.buffer m ++ (refillsOf m entries).flatten := by
  induction hl with
  | nil => exact (List.append_nil _).symm
  | @cons t next u entry later _ hstep hlater ih =>
    have hone := hstep.buffer ht m
    have hmany := ih (hstep.isCounted ht)
    rw [takenBy, droppedBy, refillsOf, List.flatMap_cons, List.flatMap_cons, List.flatMap_cons,
      List.flatten_append, ← List.append_assoc (t.buffer m), ← hone]
    rcases hstep.isGone_or_droppedBy_eq ht m with hgone | hkept
    · obtain ⟨hlast, htaken, hdropped, hrefills⟩ := hlater.isGone (hstep.isCounted ht) hgone
      rw [← takenBy, ← droppedBy, ← refillsOf, htaken, hdropped, hrefills, hgone.buffer_eq,
        hlast.buffer_eq]
      simp only [List.append_nil, List.flatten_nil]
    · rw [hkept, List.nil_append, List.nil_append, List.append_assoc, List.append_assoc]
      exact congrArg (entry.event.takenBy m ++ ·) hmany

/-- A stream that is there has not given anything up. -/
theorem Ledger.droppedBy_eq_nil (hl : Ledger t entries u) (ht : t.IsCounted)
    (hm : u.descriptor? m = some fd) : droppedBy m entries = [] := by
  induction hl with
  | nil => rfl
  | cons _ hstep hlater ih =>
    rw [droppedBy, List.flatMap_cons]
    rcases hstep.isGone_or_droppedBy_eq ht m with hgone | hkept
    · rw [(hlater.isGone (hstep.isCounted ht) hgone).1.descriptor?_eq] at hm
      cases hm
    · rw [hkept]
      exact ih (hstep.isCounted ht) hm

/-- **No bytes come from nowhere**, in any number of steps. -/
theorem Ledger.isDry (hl : Ledger t entries u) (ht : t.IsCounted) (hdry : t.IsDry m fd) :
    u.IsDry m fd ∨ u.IsGone m := by
  induction hl with
  | nil => exact Or.inl hdry
  | cons _ hstep hlater ih =>
    rcases hstep.isDry ht hdry with hstays | hgone
    · exact ih (hstep.isCounted ht) hstays
    · exact Or.inr (hlater.isGone (hstep.isCounted ht) hgone).1

/-! ### Whose refills they are -/

/-- A stream that reads was there at first or has been opened. -/
theorem Ledger.descriptor?_of_drew (hl : Ledger t entries u) (ht : t.IsCounted) {taken : Bytes}
    {refills : List Bytes} (hdrew : .drew m fd taken refills ∈ entries.map Entry.event) :
    t.descriptor? m = some fd ∨ (m, fd) ∈ openings entries := by
  induction hl with
  | nil => cases hdrew
  | @cons t next u entry later _ hstep _ ih =>
    rw [List.map_cons, List.mem_cons] at hdrew
    rcases hdrew with heq | hmem
    · rw [← heq] at hstep
      exact Or.inl hstep.descriptor?_of_drew
    · rcases ih (hstep.isCounted ht) hmem with hm | hopened
      · rcases hstep.descriptor?_or_opened ht hm with hbefore | hevent
        · exact Or.inl hbefore
        · exact Or.inr (List.mem_filterMap.mpr ⟨entry, List.mem_cons_self, hevent⟩)
      · obtain ⟨found, hfound, hopening⟩ := List.mem_filterMap.mp hopened
        exact Or.inr (List.mem_filterMap.mpr ⟨found, List.mem_cons_of_mem entry hfound, hopening⟩)

theorem openings_cons (entry : Entry) (later : List Entry) :
    openings (entry :: later) = entry.event.opening?.toList ++ openings later := by
  rw [openings, List.filterMap_cons]
  cases entry.event.opening? <;> rfl

/-- Streams get their numbers one after the other. -/
theorem Ledger.openings_eq (hl : Ledger t entries u) :
    (openings entries).map Prod.fst = List.range' (t.opened + 1) (openings entries).length ∧
      u.opened = t.opened + (openings entries).length := by
  induction hl with
  | nil => exact ⟨rfl, rfl⟩
  | @cons t next u entry later _ hstep _ ih =>
    obtain ⟨hnumbers, hopened⟩ := ih
    rw [openings_cons]
    rcases hstep.opened_eq with ⟨hopening, hsame⟩ | ⟨fd, hopening, hmore, -⟩
    · rw [hopening, ← hsame]
      exact ⟨hnumbers, hopened⟩
    · rw [hopening, Option.toList_some, List.singleton_append, List.map_cons, List.length_cons,
        List.range'_succ, hnumbers, hopened, hmore]
      exact ⟨rfl, by omega⟩

/-- A stream is opened under its handle. -/
theorem Ledger.answer_of_opening (hl : Ledger t entries u) {entry : Entry} (hentry : entry ∈ entries)
    (hopening : entry.event.opening? = some (m, fd)) :
    entry.answer = .result (.ok (.stream (handleOf m))) := by
  induction hl with
  | nil => cases hentry
  | cons _ hstep _ ih =>
    rcases List.mem_cons.mp hentry with rfl | hlater
    · rcases hstep.opened_eq with ⟨hnone, -⟩ | ⟨d, hsome, -, hanswer⟩
      · rw [hnone] at hopening
        cases hopening
      · rw [hsome] at hopening
        cases hopening
        exact hanswer
    · exact ih hlater

theorem Ledger.openings_nodup (hl : Ledger t entries u) : ((openings entries).map Prod.fst).Nodup := by
  rw [hl.openings_eq.1]
  exact List.nodup_range'

theorem mem_streamsOn : m ∈ streamsOn fd entries ↔ (m, fd) ∈ openings entries := by
  rw [streamsOn, List.mem_map]
  constructor
  · rintro ⟨⟨k, fd'⟩, hmem, rfl⟩
    obtain ⟨hopened, hfd⟩ := List.mem_filter.mp hmem
    obtain rfl : fd' = fd := of_decide_eq_true hfd
    exact hopened
  · intro hopened
    exact ⟨(m, fd), List.mem_filter.mpr ⟨hopened, decide_eq_true rfl⟩, rfl⟩

theorem Ledger.streamsOn_nodup (hl : Ledger t entries u) (fd : Nat) : (streamsOn fd entries).Nodup :=
  hl.openings_nodup.sublist (List.filter_sublist.map _)

/-- A stream that reads a descriptor is one of those that were opened on it, and of no other. -/
theorem Ledger.drew_iff (hl : Ledger t entries u) (ht : t.IsCounted)
    (hnone : ∀ m, t.descriptor? m = none) {fd' : Nat} {taken : Bytes} {refills : List Bytes}
    (hdrew : .drew m fd' taken refills ∈ entries.map Entry.event) (fd : Nat) :
    fd' = fd ↔ m ∈ streamsOn fd entries := by
  have hopened : (m, fd') ∈ openings entries := by
    rcases hl.descriptor?_of_drew ht hdrew with hthere | hopened
    · rw [hnone] at hthere
      cases hthere
    · exact hopened
  rw [mem_streamsOn]
  constructor
  · rintro rfl
    exact hopened
  · intro hopened'
    exact congrArg Prod.snd (List.inj_on_of_nodup_map hl.openings_nodup hopened hopened' rfl)

theorem flatMap_ite_eq {α : Type} {ns : List Nat} (hns : ns.Nodup) (n : Nat) (xs : List α) :
    (ns.flatMap fun m => if n = m then xs else []) = if n ∈ ns then xs else [] := by
  induction ns with
  | nil => rfl
  | cons m ns ih =>
    obtain ⟨hm, hns⟩ := List.nodup_cons.mp hns
    rw [List.flatMap_cons, ih hns]
    by_cases heq : n = m
    · subst heq
      rw [if_pos rfl, if_neg hm, if_pos List.mem_cons_self, List.append_nil]
    · rw [if_neg heq, List.nil_append]
      exact if_congr (by rw [List.mem_cons, or_iff_right heq]) rfl rfl

/-- The refills that come from a descriptor in one step are those of one of its streams. -/
theorem Event.flatMap_refillsOf {event : Event} {ns : List Nat} (hns : ns.Nodup)
    (hmine : ∀ {n fd' taken refills}, event = .drew n fd' taken refills → (fd' = fd ↔ n ∈ ns)) :
    (ns.flatMap fun n => event.refillsOf n) = event.readsOn fd := by
  cases event with
  | drew n fd' taken refills =>
    exact (flatMap_ite_eq hns n refills).trans (if_congr (hmine rfl).symm rfl rfl)
  | _ => exact List.flatMap_eq_nil_iff.mpr fun _ _ => rfl

/-- **Each refill is that of one stream**: sorted by stream, the refills of a descriptor are those of the
streams that read it. -/
theorem readsOn_perm {ns : List Nat} (hns : ns.Nodup)
    (hmine : ∀ {n fd' taken refills}, .drew n fd' taken refills ∈ entries.map Entry.event →
      (fd' = fd ↔ n ∈ ns)) :
    (readsOn fd entries).Perm (ns.flatMap fun n => refillsOf n entries) := by
  induction entries with
  | nil =>
    have hnil : (ns.flatMap fun n => refillsOf n []) = [] :=
      List.flatMap_eq_nil_iff.mpr fun _ _ => rfl
    rw [hnil]
    exact .nil
  | cons entry later ih =>
    have hfirst : (ns.flatMap fun n => entry.event.refillsOf n) = entry.event.readsOn fd :=
      Event.flatMap_refillsOf hns fun heq => hmine (by rw [← heq]; exact List.mem_cons_self)
    have hlater := ih fun hmem => hmine (List.mem_cons_of_mem entry.event hmem)
    rw [readsOn, List.flatMap_cons, ← hfirst]
    simp only [refillsOf, List.flatMap_cons]
    exact (hlater.append_left _).trans (List.flatMap_append_perm _ _ _)

/-! ### Closing a descriptor -/

/-- A descriptor that has been handed out keeps its connection. -/
theorem Ledger.socket (hl : Ledger t entries u) (ht : t.IsCounted) {socket : Socket}
    (hget : t.host.sockets.get? fd = some socket) : ∃ later, u.host.sockets.get? fd = some later := by
  induction hl generalizing socket with
  | nil => exact ⟨socket, hget⟩
  | cons _ hstep _ ih =>
    obtain ⟨later, hlater, -⟩ := hstep.socket ht hget
    exact ih (hstep.isCounted ht) hlater

theorem Ledger.exists_socket (hl : Ledger t entries u) (ht : t.IsCounted)
    (hfd : .descriptor fd ∈ entries.map Entry.answer) : ∃ socket, u.host.sockets.get? fd = some socket := by
  induction hl with
  | nil => cases hfd
  | cons _ hstep hlater ih =>
    rw [List.map_cons, List.mem_cons] at hfd
    rcases hfd with heq | hmem
    · have hissued := hstep
      rw [← heq] at hissued
      obtain ⟨socket, hget⟩ := hissued.exists_socket
      exact hlater.socket (hstep.isCounted ht) hget
    · exact ih (hstep.isCounted ht) hmem

/-- **What is left of a closed connection.** -/
structure Aftermath (fd : Nat) (t : Tally) (entries : List Entry) (u : Tally) : Prop where
  /-- Nothing more is sent. -/
  sent : sentOn fd entries = []
  /-- Refills are taken from what was queued, in order. -/
  queue : (readsOn fd entries).flatten ++ (u.host.source fd).held = (t.host.source fd).held
  /-- A stream hands out what it has buffered, then its refills. -/
  streams : ∀ m, takenBy m entries ++ (droppedBy m entries ++ u.buffer m) =
    t.buffer m ++ (refillsOf m entries).flatten
  refuses : u.host.call "openStream".toList [.int fd] =
    (.error (.invalidArgument ("unknown descriptor " ++ toString fd)), u.host)
  /-- A stream that has nothing buffered when nothing is queued has no data for any call to come, as long
  as it has its handle. -/
  dry : ∀ {m}, u.descriptor? m = some fd → u.buffer m = [] → (u.host.source fd).held = [] →
    ∀ later, ∃ more w, Ledger u more w ∧ more.map Entry.step = later ∧ w.host = (u.host.run later).2 ∧
      (w.IsGone m ∨ ∀ {c operation v}, c.reading? = some (handleOf m, operation) → c.noData? = some v →
        (w.host.perform c).1 = .ok v)

theorem Ledger.aftermath (hl : Ledger t entries u) (ht : t.IsCounted) (hshut : t.host.IsShut fd) :
    Aftermath fd t entries u := by
  obtain ⟨hstays, hsent⟩ := hl.isShut ht hshut
  refine
    { sent := hsent
      queue := by rw [(hl.source ht fd).held, hsent, List.append_nil]
      streams := hl.buffer ht
      refuses := hstays.call_openStream
      dry := ?_ }
  intro m hm hbuffer hheld later
  have hu := hl.isCounted ht
  obtain ⟨more, w, hledger, hhost, hsteps, -⟩ := run_ledger hu later
  refine ⟨more, w, hledger, hsteps, hhost, ?_⟩
  rcases hledger.isDry hu ⟨hm, hstays, hbuffer, hheld⟩ with hdry | hgone
  · exact Or.inr hdry.perform
  · exact Or.inl hgone

end Ledgers

/-! ### Runs of a new host -/

/-- **Where all bytes are** after a run. -/
structure Balance (entries : List Entry) (u : Tally) : Prop where
  /-- What the peer of a descriptor has sent was read, or is still queued. -/
  sent : ∀ fd, sentOn fd entries = (readsOn fd entries).flatten ++ (u.host.source fd).held
  /-- Nothing else was read from the connection. -/
  reads : ∀ fd, (u.host.source fd).reads = readsOn fd entries
  /-- Streams are numbered as they are opened, also when their handles come back. -/
  numbers : (openings entries).map Prod.fst = List.range' 1 u.opened
  handles : ∀ {entry m fd}, entry ∈ entries → entry.event.opening? = some (m, fd) →
    entry.answer = .result (.ok (.stream (handleOf m)))
  /-- What the host keeps are these streams. -/
  counted : u.IsCounted
  /-- Each refill is that of one stream. -/
  shared : ∀ fd, (readsOn fd entries).Perm
    ((streamsOn fd entries).flatMap fun m => refillsOf m entries)
  /-- What a stream has had, it has handed out, has dropped or has still buffered. -/
  streams : ∀ m, takenBy m entries ++ (droppedBy m entries ++ u.buffer m) =
    (refillsOf m entries).flatten
  /-- A stream drops nothing before it is gone. -/
  kept : ∀ {m fd}, u.descriptor? m = some fd → droppedBy m entries = []
  /-- To give up a stream changes nothing else. -/
  closing : ∀ {n last}, u.host.closeStream? n = some last →
    last.sockets = u.host.sockets ∧ ∀ k, k ≠ n → last.sessions.get? k = u.host.sessions.get? k

theorem Ledger.balance {wait : Nat} {entries : List Entry} {u : Tally}
    (hl : Ledger ⟨{ wait := wait }, 0⟩ entries u) : Balance entries u where
  sent fd := ((hl.source (isCounted_new wait) fd).held).symm
  reads fd := (hl.source (isCounted_new wait) fd).reads
  numbers := by
    obtain ⟨hnumbers, hopened⟩ := hl.openings_eq
    rw [hnumbers, hopened, Nat.zero_add, Nat.zero_add]
  handles := hl.answer_of_opening
  counted := hl.isCounted (isCounted_new wait)
  shared fd := by
    have hnone : ∀ m, Tally.descriptor? ⟨{ wait := wait }, 0⟩ m = none := fun m => by
      rw [Tally.descriptor?, session?_new, Option.map_none]
    exact readsOn_perm (hl.streamsOn_nodup fd) fun hdrew =>
      hl.drew_iff (isCounted_new wait) hnone hdrew fd
  streams m := by
    rw [hl.buffer (isCounted_new wait) m, Tally.buffer_of_none (session?_new wait m), List.nil_append]
  kept := hl.droppedBy_eq_nil (isCounted_new wait)
  closing := by
    intro n last hlast
    obtain ⟨_, -, rfl⟩ := Option.map_eq_some_iff.mp hlast
    exact ⟨rfl, fun k hk => (Table.get?_erase _ _ _).trans (if_neg hk)⟩

theorem Balance.opened_le {entries : List Entry} {u : Tally} (hb : Balance entries u) :
    u.opened ≤ entries.length := by
  have hnumbers := congrArg List.length hb.numbers
  rw [List.length_map, List.length_range'] at hnumbers
  exact hnumbers ▸ List.length_filterMap_le _ _

/-- **Streams share a connection without loss.** In every run of a host, what the peer of a descriptor has
sent is what refills have taken and what is still queued; each refill is that of one stream, which hands
it out, drops it when it is given up or loses its handle, or has it still buffered. Once a descriptor has
been closed, no stream can be opened on it, and those that are open hand out what they have buffered and
what was queued, and then have no data for ever. -/
theorem run_shares (wait : Nat) (steps : List Step) :
    ∃ entries u, Ledger ⟨{ wait := wait }, 0⟩ entries u ∧
      u.host = (run { wait := wait } steps).2 ∧
      entries.map Entry.step = steps ∧
      entries.map Entry.answer = (run { wait := wait } steps).1 ∧
      Balance entries u ∧
      ∀ fd before entry after, entries = before ++ entry :: after →
        entry.step = .closeDescriptor fd → .descriptor fd ∈ before.map Entry.answer →
        ∃ mid, Ledger ⟨{ wait := wait }, 0⟩ (before ++ [entry]) mid ∧ Balance (before ++ [entry]) mid ∧
          Ledger mid after u ∧ Aftermath fd mid after u := by
  have hnew := isCounted_new wait
  obtain ⟨entries, u, hledger, hhost, hsteps, hanswers⟩ := run_ledger hnew steps
  refine ⟨entries, u, hledger, hhost, hsteps, hanswers, hledger.balance, ?_⟩
  rintro fd before entry after rfl hclose hfd
  rw [List.append_cons] at hledger
  obtain ⟨mid, hfront, hback⟩ := hledger.exists_of_append
  refine ⟨mid, hfront, hfront.balance, hback, ?_⟩
  obtain ⟨last, hbefore, hlast⟩ := hfront.exists_of_append
  obtain ⟨socket, hget⟩ := hbefore.exists_socket hnew hfd
  have hshut : mid.host.IsShut fd := by
    cases hlast with
    | cons hperforms _ hnil =>
      cases hnil
      rw [hclose] at hperforms
      obtain hsame : (last.host.closeDescriptor fd).2 = mid.host := congrArg Prod.snd hperforms
      exact hsame ▸ isShut_closeDescriptor hget
  exact hback.aftermath (hfront.isCounted hnew) hshut

/-- Two streams take turns with the bytes of one connection before it is closed. -/
def openSteps : List Step :=
  [.connect, .send 3 (Bytes.ofAscii "abcd"), .call "openStream".toList [.int 3],
    .call "openStream".toList [.int 3], .call "readByte".toList [.stream 1],
    .send 3 (Bytes.ofAscii "ef"), .call "readPost".toList [.stream 2, .int 1],
    .send 3 (Bytes.ofAscii "gh")]

/-- Then one of them is given up, and the other reads on. -/
def shutSteps : List Step :=
  [.send 3 (Bytes.ofAscii "ij"), .call "closeStream".toList [.stream 1],
    .call "readPost".toList [.stream 2, .int 3], .call "readHeaders".toList [.stream 2]]

theorem run_shares_sampleSteps :
    ∃ entries u, Ledger ⟨{}, 0⟩ entries u ∧
      u.host = (run {} (openSteps ++ .closeDescriptor 3 :: shutSteps)).2 ∧
      readsOn 3 entries = [Bytes.ofAscii "abcd", Bytes.ofAscii "ef", Bytes.ofAscii "gh", []] ∧
      sentOn 3 entries = Bytes.ofAscii "abcdefgh" ∧
      ∀ later, ∃ more w, Ledger u more w ∧ more.map Entry.step = later ∧
        (w.IsGone 2 ∨ (w.host.perform (.readByte 2)).1 = .ok (.int (-1))) := by
  obtain ⟨entries, u, hledger, hhost, hsteps, hanswers, hbalance, hclose⟩ :=
    run_shares defaultWait (openSteps ++ .closeDescriptor 3 :: shutSteps)
  obtain ⟨before, rest, rfl, hbefore, hrest⟩ := List.map_eq_append_iff.mp hsteps
  obtain ⟨entry, after, rfl, hentry, -⟩ := List.map_eq_cons_iff.mp hrest
  obtain ⟨first, others, rfl, -, -⟩ := List.map_eq_cons_iff.mp hbefore
  have hfd : .descriptor 3 ∈ (first :: others).map Entry.answer := by
    have hfirst : first.answer = .descriptor 3 := (List.cons.inj hanswers).1
    rw [List.map_cons, hfirst]
    exact List.mem_cons_self
  obtain ⟨mid, -, -, -, haftermath⟩ := hclose 3 _ entry after rfl hentry hfd
  have hopened : u.opened = 2 := by
    have hfew := hbalance.opened_le
    have hlength := congrArg List.length hsteps
    have hnext : handleOf (u.opened + 1) = 3 := by
      rw [← hbalance.counted.next, hhost]
      decide +kernel
    rw [List.length_map, show (openSteps ++ .closeDescriptor 3 :: shutSteps).length = 13 from rfl] at hlength
    simp only [handleOf, UInt32.size] at hnext
    omega
  obtain ⟨host, opened⟩ := u
  obtain rfl : opened = 2 := hopened
  obtain rfl : host = _ := hhost
  have hreads : readsOn 3 (first :: others ++ entry :: after) =
      [Bytes.ofAscii "abcd", Bytes.ofAscii "ef", Bytes.ofAscii "gh", []] := by
    rw [← hbalance.reads]
    decide +kernel
  have hheld : ((run {} (openSteps ++ .closeDescriptor 3 :: shutSteps)).2.source 3).held = [] := by
    decide +kernel
  refine ⟨_, _, hledger, rfl, hreads, ?_, fun later => ?_⟩
  · rw [hbalance.sent, hreads, hheld]
    rfl
  · obtain ⟨more, w, hmore, hmoreSteps, -, hend⟩ :=
      haftermath.dry (m := 2) (by decide +kernel) (by decide +kernel) hheld later
    exact ⟨more, w, hmore, hmoreSteps, hend.imp_right fun hdry => hdry rfl rfl⟩

end FormCapture.Host
