import FormCapture.Server.Connection
import Mathlib.Tactic.Common

/-! # What the counters count

The workers of a server share its counters and change them one update at a time. `Tally` is the state of
this: what each connection has still to count, and the counters so far. A list of moves is one way in which
the updates can come, so it stands for any number of workers.

The counters that all updates would lead to stay the same with every move (`step?_after`), since the order
of two updates does not matter, and so do they in every run (`run?_after`). When all is counted, each
counter is the number of connections of its kind (`run?_counts`): every connection is counted once, but for
those that are lost, whose request was captured for a peer that is gone. `run?_lostUpload` is one of them:
its body is counted and itself is not. -/

namespace FormCapture

/-! ### Any order of the updates -/

theorem Counters.after_perm {us vs : List Update} (h : us.Perm vs) (c : Counters) :
    c.after us = c.after vs :=
  h.foldl_eq' (fun u _ v _ c => Update.apply_comm v u c) c

/-- A counter that one kind of update raises by one has been raised as often as it stands in the
updates. -/
theorem Counters.after_eq_count {counter : Counters → UInt64} {update : Update}
    (h : ∀ u c, counter (u.apply c) = counter c + if u = update then 1 else 0) (c : Counters)
    (us : List Update) : counter (c.after us) = counter c + UInt64.ofNat (us.count update) := by
  induction us generalizing c with
  | nil => simp [Counters.after]
  | cons u us ih =>
    have hcons : c.after (u :: us) = (u.apply c).after us := rfl
    rw [hcons, ih, h, List.count_cons]
    by_cases hu : u = update
    · simp [hu, UInt64.ofNat_add, UInt64.add_assoc, UInt64.add_comm 1]
    · simp [hu]

/-- As long as it does not wrap around, it is the number of these updates. -/
theorem Counters.toNat_after {counter : Counters → UInt64} {update : Update}
    (h : ∀ u c, counter (u.apply c) = counter c + if u = update then 1 else 0)
    (hzero : counter {} = 0) {us : List Update} (hfew : us.count update < UInt64.size) :
    (counter (Counters.after {} us)).toNat = us.count update := by
  rw [after_eq_count h, hzero, UInt64.zero_add, UInt64.toNat_ofNat']
  exact Nat.mod_eq_of_lt hfew

/-! ### Workers that count -/

/-- Connections that are served at the same time. -/
structure Tally where
  /-- What each connection has still to count. -/
  pending : List (List Update)
  counters : Counters := {}
  deriving DecidableEq, Repr

namespace Tally

/-- The tally after the next update of a connection, if it has one. -/
def step? (t : Tally) (i : Nat) : Option Tally :=
  match t.pending[i]? with
  | some (update :: later) => some ⟨t.pending.set i later, update.apply t.counters⟩
  | _ => none

/-- The tally after moves in order, if all can be made. -/
def run? (t : Tally) : List Nat → Option Tally
  | [] => some t
  | i :: rest => (t.step? i).bind fun u => u.run? rest

/-- Whether every connection has counted all it has to. -/
def isDone (t : Tally) : Bool := t.pending.all List.isEmpty

/-- The counters once everything that is pending has been counted. -/
def outcome (t : Tally) : Counters := t.counters.after t.pending.flatten

theorem flatten_perm_of_getElem? {pending : List (List Update)} {i : Nat} {update : Update}
    {later : List Update} (h : pending[i]? = some (update :: later)) :
    pending.flatten.Perm (update :: (pending.set i later).flatten) := by
  obtain ⟨hi, hget⟩ := List.getElem?_eq_some_iff.mp h
  have hset : pending.set i later = pending.take i ++ later :: pending.drop (i + 1) :=
    List.set_eq_take_append_cons_drop.trans (if_pos hi)
  have hpending : pending = pending.take i ++ (update :: later) :: pending.drop (i + 1) := by
    rw [← hget, ← List.drop_eq_getElem_cons hi, List.take_append_drop]
  have hflatten : pending.flatten =
      (pending.take i).flatten ++ update :: (later ++ (pending.drop (i + 1)).flatten) := by
    conv_lhs => rw [hpending]
    simp only [List.flatten_append, List.flatten_cons, List.cons_append]
  rw [hflatten, hset, List.flatten_append, List.flatten_cons]
  exact List.perm_middle

/-- **One move**: what all updates lead to stays the same. -/
theorem step?_after {t u : Tally} {i : Nat} (h : t.step? i = some u) : u.outcome = t.outcome := by
  unfold step? at h
  split at h
  · next update later hget =>
    cases h
    rw [outcome, outcome, Counters.after_perm (flatten_perm_of_getElem? hget)]
    rfl
  · cases h

/-- **Any number of moves**, by induction. -/
theorem run?_after {moves : List Nat} {t u : Tally} (h : t.run? moves = some u) :
    u.outcome = t.outcome := by
  induction moves generalizing t with
  | nil =>
    cases h
    rfl
  | cons i rest ih =>
    obtain ⟨mid, hstep, hrest⟩ := Option.bind_eq_some_iff.mp h
    exact (ih hrest).trans (step?_after hstep)

theorem outcome_of_isDone {t : Tally} (h : t.isDone = true) : t.outcome = t.counters := by
  have hnil : t.pending.flatten = [] := by
    rw [List.flatten_eq_nil_iff]
    exact fun us hus => List.isEmpty_iff.mp (List.all_eq_true.mp h us hus)
  rw [outcome, hnil]
  rfl

end Tally

/-! ### Connections by what comes of them -/

/-- A connection, and how it is served. -/
structure Visit where
  connection : Connection
  limits : Limits := {}
  /-- The wait of each read, in milliseconds. -/
  wait : Nat := 500
  deriving DecidableEq, Repr

namespace Visit

/-- What is read from the connection. -/
def captured (v : Visit) : Except Error Request :=
  ((Stream.openOn v.connection.source v.wait).readRequest v.limits).1

def isCaptured (v : Visit) : Bool := v.captured.toOption.isSome

/-- Whether the request is captured and its body is one in parts. -/
def isMultipart (v : Visit) : Bool := v.captured.toOption.any fun request => request.body.isMultipart

/-- Whether the request is captured for a peer that is gone. -/
def isLost (v : Visit) : Bool := v.isCaptured && v.connection.peer = .gone

/-- What the connection counts, in order. -/
def updates (v : Visit) : List Update := (v.connection.serve v.limits v.wait).updates

theorem updates_of_error {v : Visit} {e : Error} (h : v.captured = .error e) :
    v.updates = [.total, .errors, .bytes 0] := by
  unfold captured at h
  rw [updates, Connection.serve, Connection.serveFrom, h]
  rfl

theorem updates_of_ok {v : Visit} {request : Request} (h : v.captured = .ok request) :
    v.updates = (if request.body.isMultipart then [.multipart] else []) ++
      if v.connection.peer = .gone then []
      else [.total, .successful, .bytes (Response.ofRequest request).length] := by
  unfold captured at h
  rw [updates, Connection.serve, Connection.serveFrom, h]
  by_cases hgone : v.connection.peer = .gone
  · simp [Connection.isReachable, hgone]
  · simp [Connection.isReachable, hgone, Update.ofRequest]

/-- **What a connection counts**: itself unless it is lost, that it was answered or refused, and its body
if that is one in parts. -/
theorem count_updates (v : Visit) :
    v.updates.count .total = (if !v.isLost then 1 else 0) ∧
      v.updates.count .successful = (if v.isCaptured && !v.isLost then 1 else 0) ∧
      v.updates.count .errors = (if !v.isCaptured then 1 else 0) ∧
      v.updates.count .multipart = if v.isMultipart then 1 else 0 := by
  cases h : v.captured with
  | error e =>
    rw [updates_of_error h]
    simp [isLost, isCaptured, isMultipart, h, Except.toOption]
  | ok request =>
    rw [updates_of_ok h]
    cases hbody : request.body.isMultipart with
    | true =>
      by_cases hgone : v.connection.peer = .gone
      · simp [isLost, isCaptured, isMultipart, h, hgone, hbody, Except.toOption]
      · simp [isLost, isCaptured, isMultipart, h, hgone, hbody, Except.toOption]
    | false =>
      by_cases hgone : v.connection.peer = .gone
      · simp [isLost, isCaptured, isMultipart, h, hgone, hbody, Except.toOption]
      · simp [isLost, isCaptured, isMultipart, h, hgone, hbody, Except.toOption]

theorem count_flatMap_updates {visits : List Visit} {update : Update} {p : Visit → Bool}
    (h : ∀ v, v.updates.count update = if p v then 1 else 0) :
    (visits.flatMap updates).count update = visits.countP p := by
  induction visits with
  | nil => rfl
  | cons v visits ih =>
    rw [List.flatMap_cons, List.count_append, h, ih, List.countP_cons, Nat.add_comm]

end Visit

/-! ### All of them -/

namespace Tally

/-- Connections of which nothing has been counted yet. -/
def ofVisits (visits : List Visit) : Tally := ⟨visits.map Visit.updates, {}⟩

theorem outcome_ofVisits (visits : List Visit) :
    (ofVisits visits).outcome = Counters.after {} (visits.flatMap Visit.updates) := by
  rw [outcome, ofVisits, List.flatMap_def]

/-- A counter of a kind of connections is their number once all is counted. -/
theorem toNat_counter {visits : List Visit} (hfew : visits.length < UInt64.size) {moves : List Nat} {t : Tally}
    (hrun : (ofVisits visits).run? moves = some t) (hdone : t.isDone = true)
    {counter : Counters → UInt64} {update : Update} {p : Visit → Bool}
    (hcounter : ∀ u c, counter (u.apply c) = counter c + if u = update then 1 else 0)
    (hzero : counter {} = 0) (hcount : ∀ v : Visit, v.updates.count update = if p v then 1 else 0) :
    (counter t.counters).toNat = visits.countP p := by
  have hall : (visits.flatMap Visit.updates).count update = visits.countP p :=
    Visit.count_flatMap_updates hcount
  rw [← outcome_of_isDone hdone, run?_after hrun, outcome_ofVisits,
    Counters.toNat_after hcounter hzero, hall]
  rw [hall]
  exact Nat.lt_of_le_of_lt List.countP_le_length hfew

end Tally

theorem countP_not_isLost (visits : List Visit) :
    visits.countP (fun v => !v.isLost) =
      visits.countP (fun v => v.isCaptured && !v.isLost) + visits.countP fun v => !v.isCaptured := by
  induction visits with
  | nil => rfl
  | cons v visits ih =>
    simp only [List.countP_cons, ih]
    cases hcaptured : v.isCaptured
    · simp [Visit.isLost, hcaptured]
      omega
    · simp
      omega

/-- **What the counters come to**, in whatever order the updates are made: a connection counts once, as one
that was answered or as one that was refused, unless it is lost; a body in parts counts even then. -/
theorem run?_counts {visits : List Visit} (hfew : visits.length < UInt64.size) {moves : List Nat} {t : Tally}
    (hrun : (Tally.ofVisits visits).run? moves = some t) (hdone : t.isDone = true) :
    t.counters.total.toNat = visits.countP (fun v => !v.isLost) ∧
      t.counters.total.toNat = t.counters.successful.toNat + t.counters.errors.toNat ∧
      t.counters.errors.toNat = visits.countP (fun v => !v.isCaptured) ∧
      t.counters.multipart.toNat = visits.countP Visit.isMultipart ∧
      (t.counters.total.toNat = visits.length ↔ ∀ v ∈ visits, v.isLost = false) ∧
      ((∀ v ∈ visits, v.isLost = false) → t.counters.multipart ≤ t.counters.total) := by
  have htotal : t.counters.total.toNat = visits.countP fun v => !v.isLost :=
    Tally.toNat_counter hfew hrun hdone (by intro u c; cases u <;> simp [Update.apply]) rfl
      fun v => v.count_updates.1
  have hsuccessful : t.counters.successful.toNat =
      visits.countP fun v => v.isCaptured && !v.isLost :=
    Tally.toNat_counter hfew hrun hdone (by intro u c; cases u <;> simp [Update.apply]) rfl
      fun v => v.count_updates.2.1
  have herrors : t.counters.errors.toNat = visits.countP fun v => !v.isCaptured :=
    Tally.toNat_counter hfew hrun hdone (by intro u c; cases u <;> simp [Update.apply]) rfl
      fun v => v.count_updates.2.2.1
  have hmultipart : t.counters.multipart.toNat = visits.countP Visit.isMultipart :=
    Tally.toNat_counter hfew hrun hdone (by intro u c; cases u <;> simp [Update.apply]) rfl
      fun v => v.count_updates.2.2.2
  have hlength : t.counters.total.toNat = visits.length ↔ ∀ v ∈ visits, v.isLost = false := by
    rw [htotal, List.countP_eq_length]
    simp
  refine ⟨htotal, ?_, herrors, hmultipart, hlength, fun hall => ?_⟩
  · rw [htotal, hsuccessful, herrors, countP_not_isLost]
  · rw [UInt64.le_iff_toNat_le, hmultipart, hlength.mpr hall]
    exact List.countP_le_length

/-- A form of no parts. -/
def uploadBytes : Bytes :=
  Bytes.ofAscii "POST / HTTP/1.1\r\nContent-Type: multipart/form-data;boundary=b\r\n" ++
    Bytes.ofAscii "Content-Length: 5\r\n\r\n--b--"

/-- One that is answered, one that is refused since it breaks off, and one that is lost. -/
def sampleVisits : List Visit :=
  [{ connection := { bytes := uploadBytes } },
    { connection := { bytes := Bytes.ofAscii "PUT / HTTP/1.1\r\n", peer := .silent } },
    { connection := { bytes := uploadBytes, peer := .gone } }]

/-- Updates of the three in turns. -/
def sampleMoves : List Nat := [1, 0, 2, 0, 1, 0, 1, 0]

def sampleCounters : Counters :=
  { total := 2, successful := 1, errors := 1, multipart := 2, bytes := 87 }

theorem run?_counts_sampleVisits :
    sampleVisits.length < UInt64.size ∧
      (Tally.ofVisits sampleVisits).run? sampleMoves = some ⟨[[], [], []], sampleCounters⟩ ∧
      sampleCounters.total.toNat = sampleVisits.countP (fun v => !v.isLost) ∧
      ¬ ∀ v ∈ sampleVisits, v.isLost = false := by
  have hfew : sampleVisits.length < UInt64.size := by decide
  have hrun : (Tally.ofVisits sampleVisits).run? sampleMoves =
      some ⟨[[], [], []], sampleCounters⟩ := by decide +kernel
  obtain ⟨htotal, -, -, -, hlength, -⟩ := run?_counts hfew hrun rfl
  exact ⟨hfew, hrun, htotal, fun hall => absurd (hlength.mpr hall) (by decide)⟩

/-- An upload from a peer that is gone when the answer is sent. -/
def lostUpload : Visit := { connection := { bytes := uploadBytes, peer := .gone } }

/-- **A lost upload is not counted**: its body is, so there are more bodies in parts than requests. -/
theorem run?_lostUpload :
    (Tally.ofVisits [lostUpload]).run? [0] = some ⟨[[]], { multipart := 1 }⟩ ∧
      Tally.isDone ⟨[[]], { multipart := 1 }⟩ = true ∧
      ¬ (({ multipart := 1 } : Counters).total.toNat = [lostUpload].length) ∧
      ¬ (({ multipart := 1 } : Counters).multipart ≤ ({ multipart := 1 } : Counters).total) := by
  refine ⟨by decide +kernel, rfl, by decide, by decide⟩

end FormCapture
