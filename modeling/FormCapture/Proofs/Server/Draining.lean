import FormCapture.Server.Pool
import Mathlib

/-! # Pools that are drained

Whatever the turns of the submitter and of the workers are, a pool starts its jobs in the order in which they
are submitted, and goes on until none is left or until as many have panicked as there are workers.

`Moved` is the one inversion of a move. Four things hold of a new pool and are kept by every move: the worker
that receives is the one with the lock, so that no panic poisons it (`Locking`); a worker stops only once
nothing can come any more (`Closing`); the jobs are started one by one from the front, and there is a worker
lost for each that panics (`Starting`); each job that does not panic is ended or is being done (`Ending`).

`run?_drained` puts them together at the end of a run. Until then somebody can go on (`IsSound.exists_step?`),
but each move leaves less to do (`Moved.weight_lt`). -/

namespace FormCapture

/-- A job has panicked in the worker, or is going to. -/
def Worker.isLost : Worker → Bool
  | dead | running (.panics, _) => true
  | free | receiving | running (.completes, _) | stopped => false

/-- The job that the worker will do to its end, if it has one. -/
def Worker.ending? : Worker → Option Task
  | running (.completes, n) => some (.completes, n)
  | free | receiving | running (.panics, _) | stopped | dead => none

/-- How many moves a worker may still make with the jobs that it has. -/
def Worker.weight : Worker → Nat
  | free => 2
  | receiving => 1
  | running _ => 3
  | stopped | dead => 0

namespace Pool

/-! ### The jobs up to a panic -/

/-- **The first of some jobs**, up to and including the `n`-th that panics, or all if fewer panic. -/
inductive IsUpToPanic (n : Nat) (jobs : List Job) : List Job → Prop
  | all : jobs.count .panics < n → IsUpToPanic n jobs jobs
  | front {front rest : List Job} :
      jobs = front ++ .panics :: rest → front.count .panics + 1 = n →
      IsUpToPanic n jobs (front ++ [.panics])

theorem IsUpToPanic.cons_completes {n : Nat} {jobs started : List Job} (h : IsUpToPanic n jobs started) :
    IsUpToPanic n (.completes :: jobs) (.completes :: started) := by
  cases h with
  | all hfew => exact .all (by simpa using hfew)
  | @front head rest hjobs hcount =>
    exact @front _ _ (.completes :: head) rest (congrArg _ hjobs) (by simpa using hcount)

theorem IsUpToPanic.cons_panics {n : Nat} {jobs started : List Job} (h : IsUpToPanic n jobs started) :
    IsUpToPanic (n + 1) (.panics :: jobs) (.panics :: started) := by
  cases h with
  | all hfew => exact .all (by simpa using hfew)
  | @front head rest hjobs hcount =>
    exact @front _ _ (.panics :: head) rest (congrArg _ hjobs) (by simpa using hcount)

theorem startedBy_zero (jobs : List Job) : startedBy 0 jobs = [] := by
  cases jobs with
  | nil => rfl
  | cons job rest => cases job <;> rfl

theorem isUpToPanic_startedBy {n : Nat} (hn : 0 < n) (jobs : List Job) :
    IsUpToPanic n jobs (startedBy n jobs) := by
  induction jobs generalizing n with
  | nil => exact .all hn
  | cons job rest ih =>
    have hne : n ≠ 0 := by omega
    cases job with
    | completes =>
      rw [startedBy, if_neg hne]
      exact (ih hn).cons_completes
    | panics =>
      rw [startedBy, if_neg hne]
      obtain ⟨n, rfl⟩ := Nat.exists_eq_add_one_of_ne_zero hne
      rcases Nat.eq_zero_or_pos n with rfl | hpos
      · rw [Nat.add_sub_cancel, startedBy_zero]
        exact @IsUpToPanic.front _ _ [] rest rfl rfl
      · exact (ih hpos).cons_panics

/-- Jobs that are all started leave a worker less for each panic. -/
theorem startedBy_append {n : Nat} {front : List Job} (h : startedBy n front = front) (rest : List Job) :
    startedBy n (front ++ rest) = front ++ startedBy (n - front.count .panics) rest := by
  induction front generalizing n with
  | nil => rfl
  | cons job front ih =>
    cases job with
    | completes =>
      rw [startedBy] at h
      split at h
      · cases h
      · next hne =>
        rw [List.cons_append, startedBy, if_neg hne, ih (List.cons.inj h).2]
        simp
    | panics =>
      rw [startedBy] at h
      split at h
      · cases h
      · next hne =>
        have hcount : n - 1 - front.count .panics = n - (Job.panics :: front).count .panics := by
          rw [List.count_cons_self]
          omega
        rw [List.cons_append, startedBy, if_neg hne, ih (List.cons.inj h).2, hcount, List.cons_append]

/-! ### One move -/

/-- **What a move does.** -/
inductive Moved (p : Pool) : Move → Pool → Prop
  | submit {task : Task} {rest : List Task} :
      p.unsent = task :: rest → p.workers.all Worker.isGone = false →
      Moved p .submit { p with unsent := rest, queue := p.queue ++ [task] }
  | lose {task : Task} {rest : List Task} :
      p.unsent = task :: rest → p.workers.all Worker.isGone = true →
      Moved p .submit { p with unsent := rest }
  | close : p.unsent = [] → p.closed = false → Moved p .close { p with closed := true }
  | lock {i : Nat} :
      p.workers[i]? = some .free → p.holder = none → p.poisoned = false →
      Moved p (.lock i) { p.setWorker i .receiving with holder := some i }
  | giveUp {i : Nat} :
      p.workers[i]? = some .free → p.poisoned = true → Moved p (.lock i) (p.setWorker i .stopped)
  | receive {i : Nat} {task : Task} {rest : List Task} :
      p.workers[i]? = some .receiving → p.queue = task :: rest →
      Moved p (.receive i) { p.setWorker i (.running task) with
        queue := rest, holder := none, log := p.log ++ [task] }
  | stop {i : Nat} :
      p.workers[i]? = some .receiving → p.queue = [] → p.closed = true →
      Moved p (.receive i) { p.setWorker i .stopped with holder := none }
  | complete {i n : Nat} :
      p.workers[i]? = some (.running (.completes, n)) →
      Moved p (.finish i) { p.setWorker i .free with ended := p.ended ++ [(.completes, n)] }
  | die {i n : Nat} :
      p.workers[i]? = some (.running (.panics, n)) →
      Moved p (.finish i) { p.setWorker i .dead with poisoned := p.poisoned || p.holder == some i }

theorem moved_of_step? {p q : Pool} {move : Move} (h : p.step? move = some q) : Moved p move q := by
  cases move with
  | submit =>
    rw [step?] at h
    split at h
    · cases h
    · next task rest hunsent =>
      split at h
      · next hgone =>
        cases h
        exact .lose hunsent hgone
      · next hgone =>
        cases h
        exact .submit hunsent (by simpa using hgone)
  | close =>
    rw [step?] at h
    split at h
    · next hclose =>
      cases h
      simp only [Bool.and_eq_true, List.isEmpty_iff, Bool.not_eq_true'] at hclose
      exact .close hclose.1 hclose.2
    · cases h
  | lock i =>
    rw [step?] at h
    split at h
    · next hfree =>
      cases hpoisoned : p.poisoned with
      | true =>
        rw [hpoisoned] at h
        cases h
        exact .giveUp hfree.1 hpoisoned
      | false =>
        rw [hpoisoned] at h
        cases h
        exact .lock hfree.1 hfree.2 hpoisoned
    · cases h
  | receive i =>
    rw [step?] at h
    split at h
    · next hreceiving =>
      split at h
      · next task rest hqueue =>
        cases h
        exact .receive hreceiving hqueue
      · next hqueue =>
        split at h
        · next hclosed =>
          cases h
          exact .stop hreceiving hqueue hclosed
        · cases h
    · cases h
  | finish i =>
    rw [step?] at h
    split at h
    · next n hrunning =>
      cases h
      exact .complete hrunning
    · next n hrunning =>
      cases h
      exact .die hrunning
    · cases h

/-- A worker changes and the others stand where they stood. -/
theorem exists_setWorker {p : Pool} {i : Nat} {w : Worker} (h : p.workers[i]? = some w) :
    ∃ front back, p.workers = front ++ w :: back ∧
      ∀ v, (p.setWorker i v).workers = front ++ v :: back := by
  obtain ⟨hi, hget⟩ := List.getElem?_eq_some_iff.mp h
  refine ⟨p.workers.take i, p.workers.drop (i + 1), ?_, fun v => ?_⟩
  · rw [← hget, ← List.drop_eq_getElem_cons hi, List.take_append_drop]
  · exact List.set_eq_take_append_cons_drop.trans (if_pos hi)

theorem getElem?_setWorker {p : Pool} {i : Nat} {w : Worker} (h : p.workers[i]? = some w) (v : Worker)
    (j : Nat) : (p.setWorker i v).workers[j]? = if i = j then some v else p.workers[j]? := by
  have hi : i < p.workers.length := (List.getElem?_eq_some_iff.mp h).1
  rw [setWorker, List.getElem?_set, if_pos hi]

/-! ### The lock -/

/-- **The lock is with the worker that receives**, if there is one, and it is not poisoned. -/
structure Locking (p : Pool) : Prop where
  receiving_iff : ∀ {i}, p.workers[i]? = some .receiving ↔ p.holder = some i
  not_poisoned : p.poisoned = false

section Locking

variable {p q : Pool} {move : Move} {i : Nat} {w : Worker}

theorem Locking.ne_holder (h : Locking p) (hget : p.workers[i]? = some w) (hw : w ≠ .receiving) :
    p.holder ≠ some i := by
  intro hholder
  have hreceiving := h.receiving_iff.mpr hholder
  rw [hget] at hreceiving
  exact hw (Option.some.inj hreceiving)

/-- The worker with the lock gives it back. -/
theorem Locking.release (h : Locking p) (hget : p.workers[i]? = some .receiving) {v : Worker}
    (hv : v ≠ .receiving) (j : Nat) :
    (p.setWorker i v).workers[j]? = some .receiving ↔ none = some j := by
  have hholder : p.holder = some i := h.receiving_iff.mp hget
  rw [getElem?_setWorker hget]
  split
  · simpa using hv
  · next hne =>
    rw [h.receiving_iff, hholder]
    simpa using hne

/-- A worker that does not have the lock does something else without it. -/
theorem Locking.without (h : Locking p) (hget : p.workers[i]? = some w) (hw : w ≠ .receiving) {v : Worker}
    (hv : v ≠ .receiving) (j : Nat) :
    (p.setWorker i v).workers[j]? = some .receiving ↔ p.holder = some j := by
  have hholder := h.ne_holder hget hw
  rw [getElem?_setWorker hget]
  split
  · next he =>
    subst he
    simp only [Option.some.injEq, hv, hholder]
  · exact h.receiving_iff

theorem Moved.locking (h : Moved p move q) (hp : Locking p) : Locking q := by
  cases h with
  | submit | lose | close => exact ⟨hp.receiving_iff, hp.not_poisoned⟩
  | @lock i hget hholder hpoisoned =>
    refine ⟨fun {j} => ?_, hpoisoned⟩
    have hnone : p.workers[j]? ≠ some .receiving := fun hj => by
      rw [hp.receiving_iff, hholder] at hj
      cases hj
    simp only [getElem?_setWorker hget, Option.some.injEq]
    split
    · next he => simp only [he]
    · next hne => simp only [hnone, hne]
  | giveUp _ hpoisoned =>
    rw [hp.not_poisoned] at hpoisoned
    cases hpoisoned
  | receive hget _ => exact ⟨hp.release hget Worker.noConfusion _, hp.not_poisoned⟩
  | stop hget _ _ => exact ⟨hp.release hget Worker.noConfusion _, hp.not_poisoned⟩
  | complete hget =>
    exact ⟨hp.without hget Worker.noConfusion Worker.noConfusion _, hp.not_poisoned⟩
  | @die i n hget =>
    have hholder : (p.holder == some i) = false :=
      beq_eq_false_iff_ne.mpr (hp.ne_holder hget Worker.noConfusion)
    refine ⟨hp.without hget Worker.noConfusion Worker.noConfusion _, ?_⟩
    simp only [hp.not_poisoned, hholder, Bool.or_self]

end Locking

/-! ### The end of the queue -/

/-- **A worker stops only once nothing can come any more.** -/
structure Closing (p : Pool) : Prop where
  unsent_eq : p.closed = true → p.unsent = []
  drained : Worker.stopped ∈ p.workers → p.closed = true ∧ p.queue = []

section Closing

variable {p q : Pool} {move : Move} {i : Nat}

theorem Closing.not_stopped {task : Task} {rest : List Task} (h : Closing p)
    (hunsent : p.unsent = task :: rest) : p.closed = false ∧ Worker.stopped ∉ p.workers := by
  have hopen : p.closed = false := by
    by_contra hclosed
    have hnil := h.unsent_eq (by simpa using hclosed)
    rw [hunsent] at hnil
    cases hnil
  refine ⟨hopen, fun hstopped => ?_⟩
  have hclosed := (h.drained hstopped).1
  rw [hopen] at hclosed
  cases hclosed

theorem Closing.drained_set (h : Closing p) {v : Worker} (hv : v ≠ .stopped)
    (hstopped : Worker.stopped ∈ (p.setWorker i v).workers) : p.closed = true ∧ p.queue = [] := by
  rcases List.mem_or_eq_of_mem_set hstopped with hmem | he
  · exact h.drained hmem
  · exact absurd he.symm hv

theorem Moved.closing (h : Moved p move q) (hlock : Locking p) (hp : Closing p) : Closing q := by
  cases h with
  | submit hunsent _ =>
    obtain ⟨hopen, hstopped⟩ := hp.not_stopped hunsent
    refine ⟨fun hclosed => ?_, fun hmem => absurd hmem hstopped⟩
    rw [hopen] at hclosed
    cases hclosed
  | lose hunsent _ =>
    obtain ⟨hopen, hstopped⟩ := hp.not_stopped hunsent
    refine ⟨fun hclosed => ?_, fun hmem => absurd hmem hstopped⟩
    rw [hopen] at hclosed
    cases hclosed
  | close hunsent _ => exact ⟨fun _ => hunsent, fun hmem => ⟨rfl, (hp.drained hmem).2⟩⟩
  | lock => exact ⟨hp.unsent_eq, hp.drained_set Worker.noConfusion⟩
  | giveUp _ hpoisoned =>
    rw [hlock.not_poisoned] at hpoisoned
    cases hpoisoned
  | receive _ hqueue =>
    refine ⟨hp.unsent_eq, fun hmem => ?_⟩
    obtain ⟨-, hnil⟩ := hp.drained_set Worker.noConfusion hmem
    rw [hqueue] at hnil
    cases hnil
  | stop _ hqueue hclosed => exact ⟨hp.unsent_eq, fun _ => ⟨hclosed, hqueue⟩⟩
  | complete => exact ⟨hp.unsent_eq, hp.drained_set Worker.noConfusion⟩
  | die => exact ⟨hp.unsent_eq, hp.drained_set Worker.noConfusion⟩

end Closing

/-! ### The jobs that are started -/

/-- **The jobs are started one by one from the front**: `n` workers are there, one is lost for each job that
has panicked or will, and the jobs that have not been started are queued, unsent, or were submitted when all
workers were dead. -/
structure Starting (n : Nat) (tasks : List Task) (p : Pool) : Prop where
  length_workers : p.workers.length = n
  count_panics : (p.log.map Prod.fst).count .panics = p.workers.countP Worker.isLost
  startedBy_eq : startedBy n (p.log.map Prod.fst) = p.log.map Prod.fst
  tasks_eq : ∃ lost, tasks = p.log ++ (p.queue ++ (lost ++ p.unsent)) ∧
    (lost = [] ∨ ∀ w ∈ p.workers, w = .dead)

section Starting

variable {n : Nat} {tasks : List Task} {p q : Pool} {move : Move} {i : Nat} {w : Worker}

/-- Neither the lock nor the end of the queue matters, nor do the jobs that are ended. -/
theorem Starting.of_eq (h : Starting n tasks p) (hworkers : q.workers = p.workers) (hlog : q.log = p.log)
    (hqueue : q.queue = p.queue) (hunsent : q.unsent = p.unsent) : Starting n tasks q := by
  obtain ⟨hlength, hpanics, hstarted, htasks⟩ := h
  rw [← hworkers] at hlength
  rw [← hworkers, ← hlog] at hpanics
  rw [← hlog] at hstarted
  rw [← hworkers, ← hlog, ← hqueue, ← hunsent] at htasks
  exact ⟨hlength, hpanics, hstarted, htasks⟩

/-- As long as a worker is not dead no job has been lost. -/
theorem Starting.tasks_eq_of_mem (h : Starting n tasks p) (hw : w ∈ p.workers) (hdead : w ≠ .dead) :
    tasks = p.log ++ (p.queue ++ p.unsent) := by
  obtain ⟨lost, htasks, rfl | hall⟩ := h.tasks_eq
  · exact htasks
  · exact absurd (hall w hw) hdead

theorem length_setWorker (p : Pool) (i : Nat) (v : Worker) :
    (p.setWorker i v).workers.length = p.workers.length := List.length_set

/-- A worker is as lost as before. -/
theorem countP_setWorker (hget : p.workers[i]? = some w) {v : Worker} (hv : v.isLost = w.isLost) :
    (p.setWorker i v).workers.countP Worker.isLost = p.workers.countP Worker.isLost := by
  obtain ⟨front, back, hworkers, hset⟩ := exists_setWorker hget
  rw [hset, hworkers, List.countP_append, List.countP_append, List.countP_cons, List.countP_cons, hv]

/-- A worker that is not lost changes, and no job is started. -/
theorem Starting.set (h : Starting n tasks p) (hget : p.workers[i]? = some w) (hdead : w ≠ .dead)
    {v : Worker} (hv : v.isLost = w.isLost) : Starting n tasks (p.setWorker i v) where
  length_workers := (p.length_setWorker i v).trans h.length_workers
  count_panics := h.count_panics.trans (countP_setWorker hget hv).symm
  startedBy_eq := h.startedBy_eq
  tasks_eq := ⟨[], h.tasks_eq_of_mem (List.mem_of_getElem? hget) hdead, Or.inl rfl⟩

/-- **A job is started by a worker that is not lost**, so fewer have panicked than there are workers. -/
theorem Starting.receive (h : Starting n tasks p) {task : Task} {rest : List Task}
    (hget : p.workers[i]? = some .receiving) (hqueue : p.queue = task :: rest) :
    Starting n tasks { p.setWorker i (.running task) with
      queue := rest, holder := none, log := p.log ++ [task] } := by
  obtain ⟨front, back, hworkers, hset⟩ := exists_setWorker hget
  have hlost : Worker.isLost .receiving = false := rfl
  have hcount := h.count_panics
  have hlength := h.length_workers
  rw [hworkers, List.countP_append, List.countP_cons, hlost] at hcount
  rw [hworkers, List.length_append, List.length_cons] at hlength
  have hfront : front.countP Worker.isLost ≤ front.length := List.countP_le_length
  have hback : back.countP Worker.isLost ≤ back.length := List.countP_le_length
  have hfew : (p.log.map Prod.fst).count .panics < n := by
    simp only [Bool.false_eq_true, if_false] at hcount
    omega
  refine ⟨(p.length_setWorker i _).trans h.length_workers, ?_, ?_, ⟨[], ?_, Or.inl rfl⟩⟩
  · change ((p.log ++ [task]).map Prod.fst).count .panics =
      (p.setWorker i (.running task)).workers.countP Worker.isLost
    rw [List.map_append, List.count_append, hcount, hset, List.countP_append, List.countP_cons]
    obtain ⟨job, number⟩ := task
    cases job with
    | completes => simp [Worker.isLost]
    | panics =>
      simp [Worker.isLost]
      omega
  · change startedBy n ((p.log ++ [task]).map Prod.fst) = (p.log ++ [task]).map Prod.fst
    have hone : ∀ {m : Nat} {job : Job}, 0 < m → startedBy m [job] = [job] := by
      intro m job hm
      cases job <;> simp [startedBy, Nat.ne_of_gt hm]
    rw [List.map_append, startedBy_append h.startedBy_eq, List.map_singleton, hone (by omega)]
  · have htasks := h.tasks_eq_of_mem (List.mem_of_getElem? hget) Worker.noConfusion
    rw [htasks, hqueue]
    simp [setWorker]

theorem Moved.starting (h : Moved p move q) (hclosing : Closing p) (hp : Starting n tasks p) :
    Starting n tasks q := by
  cases h with
  | @submit task rest hunsent hsome =>
    refine ⟨hp.length_workers, hp.count_panics, hp.startedBy_eq, [], ?_, Or.inl rfl⟩
    obtain ⟨w, hw, hgone⟩ := List.all_eq_false.mp hsome
    have hdead : w ≠ .dead := by
      rintro rfl
      exact hgone rfl
    rw [hp.tasks_eq_of_mem hw hdead, hunsent]
    simp
  | @lose task rest hunsent hall =>
    obtain ⟨lost, htasks, -⟩ := hp.tasks_eq
    refine ⟨hp.length_workers, hp.count_panics, hp.startedBy_eq, lost ++ [task], ?_, Or.inr ?_⟩
    · rw [htasks, hunsent]
      simp
    · intro w hw
      have hgone := List.all_eq_true.mp hall w hw
      cases w with
      | dead => rfl
      | stopped => exact absurd hw (hclosing.not_stopped hunsent).2
      | free | receiving | running => cases hgone
  | close => exact hp.of_eq rfl rfl rfl rfl
  | lock hget => exact (hp.set (v := .receiving) hget Worker.noConfusion rfl).of_eq rfl rfl rfl rfl
  | giveUp hget _ => exact hp.set hget Worker.noConfusion rfl
  | receive hget hqueue => exact hp.receive hget hqueue
  | stop hget => exact (hp.set (v := .stopped) hget Worker.noConfusion rfl).of_eq rfl rfl rfl rfl
  | complete hget => exact (hp.set (v := .free) hget Worker.noConfusion rfl).of_eq rfl rfl rfl rfl
  | die hget => exact (hp.set (v := .dead) hget Worker.noConfusion rfl).of_eq rfl rfl rfl rfl

end Starting

/-! ### The jobs that are ended -/

/-- **Each started job that does not panic** is ended or is being done. -/
def Ending (p : Pool) : Prop :=
  (p.ended ++ p.workers.filterMap Worker.ending?).Perm (p.log.filter fun task => task.1 = .completes)

section Ending

variable {p q : Pool} {move : Move} {i : Nat} {w : Worker}

theorem exists_filterMap_setWorker (hget : p.workers[i]? = some w) :
    ∃ front back, p.workers.filterMap Worker.ending? = front ++ (w.ending?.toList ++ back) ∧
      ∀ v, (p.setWorker i v).workers.filterMap Worker.ending? = front ++ (v.ending?.toList ++ back) := by
  obtain ⟨front, back, hworkers, hset⟩ := exists_setWorker hget
  have hcut : ∀ v, (front ++ v :: back).filterMap Worker.ending? =
      front.filterMap Worker.ending? ++ (v.ending?.toList ++ back.filterMap Worker.ending?) := by
    intro v
    rw [List.filterMap_append, List.filterMap_cons]
    cases v.ending? <;> rfl
  exact ⟨_, _, hworkers ▸ hcut w, fun v => (congrArg _ (hset v)).trans (hcut v)⟩

/-- A worker that ends no job goes on without one. -/
theorem Ending.set (h : Ending p) (hget : p.workers[i]? = some w) (hw : w.ending? = none) {v : Worker}
    (hv : v.ending? = none) : Ending (p.setWorker i v) := by
  obtain ⟨front, back, hbefore, hafter⟩ := exists_filterMap_setWorker hget
  have hsame : (p.setWorker i v).workers.filterMap Worker.ending? =
      p.workers.filterMap Worker.ending? := by
    rw [hafter v, hbefore, hw, hv]
  rw [Ending, hsame]
  exact h

theorem Moved.ending (h : Moved p move q) (hp : Ending p) : Ending q := by
  cases h with
  | submit | lose | close => exact hp
  | lock hget => exact hp.set hget rfl (v := .receiving) rfl
  | giveUp hget => exact hp.set hget rfl rfl
  | @receive i task rest hget hqueue =>
    obtain ⟨front, back, hbefore, hafter⟩ := exists_filterMap_setWorker hget
    obtain ⟨job, number⟩ := task
    have hall : (p.ended ++ (front ++ back)).Perm (p.log.filter fun task => task.1 = .completes) := by
      have := hp
      rwa [Ending, hbefore] at this
    change (p.ended ++ (p.setWorker i (.running (job, number))).workers.filterMap Worker.ending?).Perm
      ((p.log ++ [(job, number)]).filter fun task => task.1 = .completes)
    rw [hafter, List.filter_append]
    cases job with
    | panics => simpa [Worker.ending?] using hall
    | completes =>
      have hlast : (p.ended ++ (front ++ (.completes, number) :: back)).Perm
          ((.completes, number) :: (p.ended ++ (front ++ back))) := by
        rw [← List.append_assoc, ← List.append_assoc]
        exact List.perm_middle
      have hone : [(Job.completes, number)].filter (fun task => task.1 = .completes) =
          [(.completes, number)] := rfl
      rw [hone]
      exact hlast.trans ((hall.cons _).trans (List.perm_append_singleton _ _).symm)
  | stop hget => exact hp.set hget rfl (v := .stopped) rfl
  | @complete i n hget =>
    obtain ⟨front, back, hbefore, hafter⟩ := exists_filterMap_setWorker hget
    have hall : (p.ended ++ (front ++ (Job.completes, n) :: back)).Perm
        (p.log.filter fun task => task.1 = .completes) := by
      have := hp
      rwa [Ending, hbefore] at this
    change (p.ended ++ [(Job.completes, n)] ++
      (p.setWorker i .free).workers.filterMap Worker.ending?).Perm
        (p.log.filter fun task => task.1 = .completes)
    rw [hafter, List.append_assoc]
    have hfirst : ((Job.completes, n) :: (front ++ back)).Perm (front ++ (Job.completes, n) :: back) :=
      List.perm_middle.symm
    exact (hfirst.append_left p.ended).trans hall
  | die hget => exact hp.set hget rfl (v := .dead) rfl

end Ending

/-! ### Any number of moves -/

/-- What is known of a pool that was given some jobs, whatever moves have been made. -/
structure IsSound (n : Nat) (jobs : List Job) (p : Pool) : Prop where
  locking : Locking p
  closing : Closing p
  starting : Starting n jobs.zipIdx p
  ending : Ending p

theorem Moved.isSound {n : Nat} {jobs : List Job} {p q : Pool} {move : Move} (h : Moved p move q)
    (hp : IsSound n jobs p) : IsSound n jobs q :=
  ⟨h.locking hp.locking, h.closing hp.locking hp.closing, h.starting hp.closing hp.starting,
    h.ending hp.ending⟩

theorem isSound_new (size : Nat) (jobs : List Job) : IsSound (workerCount size) jobs (new size jobs) := by
  have hfree : ∀ w ∈ (new size jobs).workers, w = .free := fun w hw => List.eq_of_mem_replicate hw
  have hlost : (new size jobs).workers.countP Worker.isLost = 0 := by
    rw [List.countP_eq_zero]
    intro w hw
    rw [hfree w hw]
    exact Bool.false_ne_true
  have hending : (new size jobs).workers.filterMap Worker.ending? = [] := by
    rw [List.filterMap_eq_nil_iff]
    intro w hw
    rw [hfree w hw]
    rfl
  refine ⟨⟨fun {i} => ⟨fun hget => ?_, fun hnone => ?_⟩, rfl⟩, ⟨fun hclosed => ?_, fun hmem => ?_⟩,
    ⟨List.length_replicate, hlost.symm, rfl, [], rfl, Or.inl rfl⟩, ?_⟩
  · cases hfree _ (List.mem_of_getElem? hget)
  · cases hnone
  · cases hclosed
  · cases hfree _ hmem
  · rw [Ending, hending]
    exact List.Perm.refl _

/-- **Any run**, by induction on its moves. -/
theorem IsSound.run {n : Nat} {jobs : List Job} {moves : List Move} {p q : Pool} (h : IsSound n jobs p)
    (hrun : p.run? moves = some q) : IsSound n jobs q := by
  induction moves generalizing p with
  | nil =>
    cases hrun
    exact h
  | cons move rest ih =>
    obtain ⟨mid, hstep, hrest⟩ := Option.bind_eq_some_iff.mp hrun
    exact ih ((moved_of_step? hstep).isSound h) hrest

/-! ### What comes of the jobs -/

section Outcome

variable {n : Nat} {jobs : List Job} {p : Pool}

/-- The jobs that have been started are the first of those that are started in the end. -/
theorem IsSound.exists_startedBy (h : IsSound n jobs p) :
    ∃ more, jobs = p.log.map Prod.fst ++ more ∧ p.log = (p.log.map Prod.fst).zipIdx ∧
      startedBy n jobs =
        p.log.map Prod.fst ++ startedBy (n - p.workers.countP Worker.isLost) more := by
  obtain ⟨lost, htasks, -⟩ := h.starting.tasks_eq
  have hjobs := congrArg (List.map Prod.fst) htasks
  rw [List.zipIdx_map_fst, List.map_append] at hjobs
  refine ⟨_, hjobs, ?_, ?_⟩
  · have hnumbers := htasks.symm
    rw [hjobs, List.zipIdx_append] at hnumbers
    exact (List.append_inj hnumbers (by simp)).1
  · rw [← h.starting.count_panics, ← startedBy_append h.starting.startedBy_eq, ← hjobs]

theorem IsSound.log_prefix (h : IsSound n jobs p) : p.log <+: (startedBy n jobs).zipIdx := by
  obtain ⟨more, -, hlog, hstarted⟩ := h.exists_startedBy
  refine ⟨(startedBy (n - p.workers.countP Worker.isLost) more).zipIdx (0 + (p.log.map Prod.fst).length), ?_⟩
  rw [hstarted, List.zipIdx_append, ← hlog]

/-- **In the end all workers are dead, or one has found the queue at its end**: no more jobs are to be
started. -/
theorem IsSound.log_eq (h : IsSound n jobs p) (hdone : p.isDone = true) :
    p.log = (startedBy n jobs).zipIdx := by
  obtain ⟨more, hjobs, hlog, hstarted⟩ := h.exists_startedBy
  have hgone : ∀ w ∈ p.workers, w.isGone = true :=
    List.all_eq_true.mp (Bool.and_eq_true_iff.mp hdone).2
  have hnone : startedBy (n - p.workers.countP Worker.isLost) more = [] := by
    by_cases hstopped : Worker.stopped ∈ p.workers
    · obtain ⟨hclosed, hqueue⟩ := h.closing.drained hstopped
      have htasks := h.starting.tasks_eq_of_mem hstopped Worker.noConfusion
      have hall := congrArg (List.map Prod.fst) htasks
      rw [hqueue, h.closing.unsent_eq hclosed, List.zipIdx_map_fst, List.append_nil, List.append_nil]
        at hall
      have hmore : more = [] := List.self_eq_append_right.mp (hall.symm.trans hjobs)
      rw [hmore]
      rfl
    · have hdead : p.workers.countP Worker.isLost = p.workers.length := by
        rw [List.countP_eq_length]
        intro w hw
        have hw' := hgone w hw
        cases w with
        | dead => rfl
        | stopped => exact absurd hw hstopped
        | free | receiving | running => cases hw'
      rw [hdead, h.starting.length_workers, Nat.sub_self, startedBy_zero]
  rw [hlog, hstarted, hnone, List.append_nil]

/-- In the end no job is being done. -/
theorem IsSound.ended_perm (h : IsSound n jobs p) (hdone : p.isDone = true) :
    p.ended.Perm (p.log.filter fun task => task.1 = .completes) := by
  have hending := h.ending
  have hnone : p.workers.filterMap Worker.ending? = [] := by
    rw [List.filterMap_eq_nil_iff]
    intro w hw
    have hgone := List.all_eq_true.mp (Bool.and_eq_true_iff.mp hdone).2 w hw
    cases w with
    | stopped | dead => rfl
    | free | receiving | running => cases hgone
  rwa [Ending, hnone, List.append_nil] at hending

/-- **Somebody can go on** until the pool is done: a worker that waits for the lock waits for one that
receives. -/
theorem IsSound.exists_step? (h : IsSound n jobs p) (hdone : p.isDone = false) :
    ∃ move q, p.step? move = some q := by
  cases hunsent : p.unsent with
  | cons task rest =>
    refine ⟨.submit, ?_⟩
    rw [step?, hunsent]
    by_cases hgone : p.workers.all Worker.isGone = true
    · exact ⟨_, if_pos hgone⟩
    · exact ⟨_, if_neg hgone⟩
  | nil =>
  cases hclosed : p.closed with
  | false => exact ⟨.close, _, if_pos (by simp [hunsent, hclosed])⟩
  | true =>
    have hreceive : ∀ i : Nat, p.workers[i]? = some .receiving → ∃ move q, p.step? move = some q := by
      intro i hget
      refine ⟨.receive i, ?_⟩
      rw [step?, if_pos hget]
      cases hqueue : p.queue with
      | nil => exact ⟨_, if_pos hclosed⟩
      | cons task rest => exact ⟨_, rfl⟩
    have hsome : p.workers.all Worker.isGone = false := by simpa [isDone, hclosed] using hdone
    obtain ⟨w, hw, hgone⟩ := List.all_eq_false.mp hsome
    obtain ⟨i, hget⟩ := List.mem_iff_getElem?.mp hw
    cases w with
    | free =>
      cases hholder : p.holder with
      | none => exact ⟨.lock i, _, if_pos ⟨hget, hholder⟩⟩
      | some j => exact hreceive j (h.locking.receiving_iff.mpr hholder)
    | receiving => exact hreceive i hget
    | running task =>
      obtain ⟨job, number⟩ := task
      refine ⟨.finish i, ?_⟩
      rw [step?, hget]
      cases job <;> exact ⟨_, rfl⟩
    | stopped | dead => exact absurd rfl hgone

end Outcome

/-! ### How many moves there can be -/

/-- More than the number of moves that can still be made. -/
def weight (p : Pool) : Nat :=
  4 * p.unsent.length + 3 * p.queue.length + (!p.closed).toNat +
    (p.workers.map Worker.weight).sum

section Weight

variable {p q : Pool} {i : Nat} {w : Worker}

theorem sum_weight_setWorker (hget : p.workers[i]? = some w) (v : Worker) :
    ((p.setWorker i v).workers.map Worker.weight).sum + w.weight =
      (p.workers.map Worker.weight).sum + v.weight := by
  obtain ⟨front, back, hworkers, hset⟩ := exists_setWorker hget
  rw [hset, hworkers]
  simp only [List.map_append, List.map_cons, List.sum_append, List.sum_cons]
  omega

/-- A worker that can do less than before. -/
theorem weight_setWorker_lt (hget : p.workers[i]? = some w) {v : Worker} (hv : v.weight < w.weight) :
    (p.setWorker i v).weight < p.weight := by
  have hsum := sum_weight_setWorker hget v
  simp only [weight, setWorker] at hsum ⊢
  omega

theorem Moved.weight_lt {move : Move} (h : Moved p move q) : q.weight < p.weight := by
  cases h with
  | submit hunsent _ =>
    simp [weight, hunsent]
    omega
  | lose hunsent _ => simp [weight, hunsent]
  | close hunsent hopen => simp [weight, hopen]
  | lock hget => exact weight_setWorker_lt (v := .receiving) hget (by decide)
  | giveUp hget => exact weight_setWorker_lt hget (by decide)
  | @receive i task rest hget hqueue =>
    -- the job weighs more in the queue than in the worker
    have hsum := sum_weight_setWorker hget (.running task)
    simp only [weight, setWorker, Worker.weight, hqueue, List.length_cons] at hsum ⊢
    omega
  | stop hget => exact weight_setWorker_lt (v := .stopped) hget (by decide)
  | complete hget => exact weight_setWorker_lt (v := .free) hget (by simp [Worker.weight])
  | die hget => exact weight_setWorker_lt (v := .dead) hget (by simp [Worker.weight])

end Weight

theorem length_moves_le {moves : List Move} {p q : Pool} (h : p.run? moves = some q) :
    moves.length + q.weight ≤ p.weight := by
  induction moves generalizing p with
  | nil =>
    cases h
    simp
  | cons move rest ih =>
    obtain ⟨mid, hstep, hrest⟩ := Option.bind_eq_some_iff.mp h
    have hmid := ih hrest
    have hfirst := (moved_of_step? hstep).weight_lt
    rw [List.length_cons]
    omega

theorem weight_new (size : Nat) (jobs : List Job) :
    (new size jobs).weight = 4 * jobs.length + 1 + 2 * workerCount size := by
  have hworkers : ((new size jobs).workers.map Worker.weight).sum = 2 * workerCount size := by
    rw [new, List.map_replicate, List.sum_replicate_nat, Worker.weight, Nat.mul_comm]
  rw [weight, hworkers]
  simp [new]

/-! ### Whole runs -/

/-- **A pool is drained.** In any run no panic poisons the lock, and the jobs are started in their order, none
twice. When the pool is done, those up to the panic that takes the last worker have been started, each once,
and each of them that does not panic has been done to its end; these are all jobs if fewer panic than there
are workers. Until then somebody can go on, and not for ever. -/
theorem run?_drained {size : Nat} {jobs : List Job} {moves : List Move} {p : Pool}
    (hrun : (new size jobs).run? moves = some p) :
    p.poisoned = false ∧ p.log <+: (started size jobs).zipIdx ∧
      (p.isDone = true →
        IsUpToPanic (workerCount size) jobs (started size jobs) ∧
          p.log = (started size jobs).zipIdx ∧
          p.ended.Perm (p.log.filter fun task => task.1 = .completes) ∧
          p.ended.length = completed size jobs ∧
          (jobs.count .panics < workerCount size → p.log = jobs.zipIdx)) ∧
      (p.isDone = false → ∃ move q, p.step? move = some q) ∧
      moves.length ≤ 4 * jobs.length + 1 + 2 * workerCount size := by
  have hsound := (isSound_new size jobs).run hrun
  have hcount : 0 < workerCount size := Nat.le_max_right _ _
  have hupTo : IsUpToPanic (workerCount size) jobs (started size jobs) :=
    isUpToPanic_startedBy hcount jobs
  refine ⟨hsound.locking.not_poisoned, hsound.log_prefix, fun hdone => ?_, hsound.exists_step?, ?_⟩
  · have hlog : p.log = (started size jobs).zipIdx := hsound.log_eq hdone
    have hended := hsound.ended_perm hdone
    refine ⟨hupTo, hlog, hended, ?_, fun hfew => ?_⟩
    · have hmap : (started size jobs).count .completes =
          (p.log.filter fun task => task.1 = .completes).length := by
        have hjobs : started size jobs = p.log.map Prod.fst := by rw [hlog, List.zipIdx_map_fst]
        rw [hjobs, List.count, List.countP_map, List.countP_eq_length_filter]
        rfl
      rw [completed, hmap, hended.length_eq]
    · rw [hlog]
      generalize started size jobs = all at hupTo
      cases hupTo with
      | all => rfl
      | front hjobs hmany =>
        rw [hjobs, List.count_append, List.count_cons_self] at hfew
        omega
  · have hmoves := length_moves_le hrun
    rw [weight_new] at hmoves
    omega

/-- Two workers, and five jobs of which the first and the fourth panic. -/
def sampleJobs : List Job := [.panics, .completes, .completes, .panics, .completes]

/-- The first worker dies while the second waits for the lock; the second does two jobs and dies, and the last
job is submitted between its panic and the end. -/
def sampleMoves : List Move :=
  [.submit, .lock 0, .submit, .receive 0, .submit, .lock 1, .finish 0, .receive 1, .submit, .finish 1,
    .lock 1, .receive 1, .finish 1, .lock 1, .receive 1, .finish 1, .submit, .close]

def sampleEnd : Pool where
  unsent := []
  closed := true
  workers := [.dead, .dead]
  log := [(.panics, 0), (.completes, 1), (.completes, 2), (.panics, 3)]
  ended := [(.completes, 1), (.completes, 2)]

theorem run?_drained_sampleMoves :
    (new 2 sampleJobs).run? sampleMoves = some sampleEnd ∧ sampleEnd.isDone = true ∧
      IsUpToPanic 2 sampleJobs (started 2 sampleJobs) ∧
      sampleEnd.log = (started 2 sampleJobs).zipIdx ∧ sampleEnd.ended.length = completed 2 sampleJobs := by
  have hrun : (new 2 sampleJobs).run? sampleMoves = some sampleEnd := by decide
  have hdone : sampleEnd.isDone = true := by decide
  obtain ⟨-, -, hend, -⟩ := run?_drained hrun
  obtain ⟨hupTo, hlog, -, hended, -⟩ := hend hdone
  exact ⟨hrun, hdone, hupTo, hlog, hended⟩

end Pool

end FormCapture
