/-! # Worker pools

Jobs that are done by workers. The submitter puts jobs into a queue and closes it when there are no
more; a worker that is free takes the lock of the queue, takes the first job, gives the lock back and
does the job; one that finds the queue empty and closed stops. A job may panic, and its worker is dead
then. The pool is done when no worker is left that works.

Each job has its number in the order in which they are submitted, so that two jobs that end alike can be
told apart. `Pool.step?` is one move of one of them, so a list of moves is one way in which they can take
turns. `Pool.started` is the jobs that are started whatever the turns: all up to and including the one
whose panic leaves no worker. -/

namespace FormCapture

/-- A job, by how it ends. -/
inductive Job
  | completes
  | panics
  deriving DecidableEq, Repr

/-- A job that is submitted, and how many are submitted before it. -/
abbrev Task := Job × Nat

inductive Worker
  | free
  /-- It holds the lock and waits for a job. -/
  | receiving
  | running (task : Task)
  | stopped
  | dead
  deriving DecidableEq, Repr

def Worker.isGone : Worker → Bool
  | stopped | dead => true
  | free | receiving | running _ => false

structure Pool where
  unsent : List Task
  queue : List Task := []
  closed : Bool := false
  holder : Option Nat := none
  /-- Whether a worker has died while it held the lock. -/
  poisoned : Bool := false
  workers : List Worker
  log : List Task := []
  /-- The jobs that have been done to their end, in the order of their ends. -/
  ended : List Task := []
  deriving DecidableEq, Repr

namespace Pool

/-- The number of workers of a pool for which a size is asked: at least one. -/
def workerCount (size : Nat) : Nat := max size 1

def new (size : Nat) (jobs : List Job) : Pool :=
  { unsent := jobs.zipIdx, workers := List.replicate (workerCount size) .free }

def isDone (p : Pool) : Bool := p.closed && p.workers.all Worker.isGone

/-! ### Moves -/

inductive Move
  | submit
  | close
  | lock (worker : Nat)
  /-- The worker with the lock takes a job, or stops. -/
  | receive (worker : Nat)
  | finish (worker : Nat)
  deriving DecidableEq, Repr

def setWorker (p : Pool) (i : Nat) (w : Worker) : Pool := { p with workers := p.workers.set i w }

/-- The pool after a move, if the move can be made. A job that is submitted when no worker is left is
lost. -/
def step? (p : Pool) : Move → Option Pool
  | .submit =>
    match p.unsent with
    | [] => none
    | task :: rest =>
      if p.workers.all Worker.isGone then some { p with unsent := rest }
      else some { p with unsent := rest, queue := p.queue ++ [task] }
  | .close => if p.unsent.isEmpty && !p.closed then some { p with closed := true } else none
  | .lock i =>
    if p.workers[i]? = some .free ∧ p.holder = none then
      some (if p.poisoned then p.setWorker i .stopped
        else { p.setWorker i .receiving with holder := some i })
    else none
  | .receive i =>
    if p.workers[i]? = some .receiving then
      match p.queue with
      | task :: rest =>
        some { p.setWorker i (.running task) with
          queue := rest, holder := none, log := p.log ++ [task] }
      | [] => if p.closed then some { p.setWorker i .stopped with holder := none } else none
    else none
  | .finish i =>
    match p.workers[i]? with
    | some (.running (.completes, n)) =>
      some { p.setWorker i .free with ended := p.ended ++ [(.completes, n)] }
    | some (.running (.panics, _)) =>
      some { p.setWorker i .dead with poisoned := p.poisoned || p.holder == some i }
    | _ => none

def run? (p : Pool) : List Move → Option Pool
  | [] => some p
  | move :: rest => (p.step? move).bind fun q => q.run? rest

/-! ### The jobs that are started -/

/-- The jobs up to and including the panic that takes the last of some workers. -/
def startedBy (workers : Nat) : List Job → List Job
  | [] => []
  | .completes :: rest => if workers = 0 then [] else .completes :: startedBy workers rest
  | .panics :: rest => if workers = 0 then [] else .panics :: startedBy (workers - 1) rest

def started (size : Nat) (jobs : List Job) : List Job := startedBy (workerCount size) jobs

def completed (size : Nat) (jobs : List Job) : Nat := (started size jobs).count .completes

end Pool

end FormCapture
