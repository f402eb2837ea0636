import FormCapture.Proofs.Host.Laws
import Mathlib.Data.List.Nodup

/-! # The numbers of a host

Each number that a table has (`Table.keys`) has one entry, whatever the limit. So an entry that is set to
what it is already changes nothing (`Table.set_eq_self`), and a table loses one entry when a number that it
has is erased (`Table.size_erase`).

A host is sound (`IsSound`) if both its tables are like this and every stream reads a connection that is
there. A new host is, every step keeps it so (`Happens.isSound`), and so does every run (`run_isSound`). -/

namespace FormCapture

namespace Table

variable {limit : Nat} {α : Type} {t : Table limit α}

/-- The numbers that have entries, the latest first. -/
def keys (t : Table limit α) : List Nat := t.entries.map Prod.fst

theorem size_eq (t : Table limit α) : t.size = t.keys.length := (List.length_map _).symm

theorem keys_set (t : Table limit α) (n : Nat) (a : α) : (t.set n a).keys = t.keys := by
  rw [keys, keys, set, List.map_map]
  refine List.map_congr_left fun e _ => ?_
  by_cases he : e.1 = n
  · simp [he]
  · simp [he]

theorem keys_erase (t : Table limit α) (n : Nat) : (t.erase n).keys = t.keys.filter (· != n) := by
  rw [keys, keys, erase, List.filter_map]
  rfl

theorem keys_issue (t : Table limit α) (a : α) :
    (t.issue a).keys = t.next :: t.keys.filter (· != t.next) :=
  congrArg (t.next :: ·) (t.keys_erase t.next)

theorem mem_entries {n : Nat} {a : α} (h : t.get? n = some a) : (n, a) ∈ t.entries := by
  obtain ⟨before, after, he, -⟩ := List.lookup_eq_some_iff.mp h
  rw [he]
  exact List.mem_append_right before List.mem_cons_self

theorem mem_keys {n : Nat} : n ∈ t.keys ↔ ∃ a, t.get? n = some a := by
  rw [keys, get?, List.mem_map]
  constructor
  · rintro ⟨e, he, rfl⟩
    exact Option.isSome_iff_exists.mp (List.lookup_isSome_iff.mpr ⟨e, he, by simp⟩)
  · rintro ⟨a, ha⟩
    exact ⟨(n, a), mem_entries ha, rfl⟩

/-! ### Numbers that stand once -/

theorem nodup_keys_issue (h : t.keys.Nodup) (a : α) : (t.issue a).keys.Nodup := by
  rw [keys_issue]
  refine List.nodup_cons.mpr ⟨fun hmem => ?_, h.filter _⟩
  have hne := (List.mem_filter.mp hmem).2
  simp at hne

theorem nodup_keys_set (h : t.keys.Nodup) (n : Nat) (a : α) : (t.set n a).keys.Nodup := by
  rw [keys_set]
  exact h

theorem nodup_keys_erase (h : t.keys.Nodup) (n : Nat) : (t.erase n).keys.Nodup := by
  rw [keys_erase]
  exact h.filter _

/-- An entry that is set to what it is already stays what it is. -/
theorem set_eq_self (h : t.keys.Nodup) {n : Nat} {a : α} (ha : t.get? n = some a) : t.set n a = t := by
  have hentries : (t.entries.map fun e => if e.1 = n then (n, a) else e) = t.entries.map id := by
    refine List.map_congr_left fun e he => ?_
    split
    · next hn => exact List.inj_on_of_nodup_map h (mem_entries ha) he hn.symm
    · rfl
  rw [Table.set, hentries, List.map_id]

theorem size_erase (h : t.keys.Nodup) {n : Nat} (hn : n ∈ t.keys) : (t.erase n).size + 1 = t.size := by
  rw [size_eq, size_eq, keys_erase, ← h.erase_eq_filter, List.length_erase_of_mem hn]
  exact Nat.succ_pred_eq_of_pos (List.length_pos_of_mem hn)

/-! ### What holds of all entries -/

/-- Every entry has the property. -/
def Holds (P : α → Prop) (t : Table limit α) : Prop := ∀ n a, t.get? n = some a → P a

variable {P : α → Prop}

theorem holds_empty (first : Nat) : (empty first : Table limit α).Holds P := fun _ _ hget => nomatch hget

theorem Holds.issue (h : t.Holds P) {a : α} (ha : P a) : (t.issue a).Holds P := by
  intro n b hget
  rw [get?_issue] at hget
  split at hget
  · cases hget
    exact ha
  · exact h _ _ hget

theorem Holds.set (h : t.Holds P) {n : Nat} {a : α} (ha : P a) : (t.set n a).Holds P := by
  intro m b hget
  rw [get?_set] at hget
  split at hget
  · obtain ⟨_, -, rfl⟩ := Option.map_eq_some_iff.mp hget
    exact ha
  · exact h _ _ hget

theorem Holds.erase (h : t.Holds P) (n : Nat) : (t.erase n).Holds P := by
  intro m b hget
  rw [get?_erase] at hget
  split at hget
  · cases hget
  · exact h _ _ hget

end Table

namespace Host

section Sound

variable {h : Host} {t u : Tally} {s : Step} {answer : Answer} {event : Event}

/-- The numbers of both tables stand once, and a stream reads a connection that is there. -/
structure IsSound (h : Host) : Prop where
  sockets : h.sockets.keys.Nodup
  sessions : h.sessions.keys.Nodup
  anchored : h.sessions.Holds fun session => ∃ socket, h.sockets.get? session.descriptor = some socket

theorem isSound_new (wait : Nat) : IsSound { wait := wait } where
  sockets := .nil
  sessions := .nil
  anchored := Table.holds_empty 1

/-- A stream that is there has its connection at hand. -/
theorem IsSound.stream? (hs : h.IsSound) {n : Nat} {session : Session}
    (hget : h.sessions.get? n = some session) :
    ∃ socket, h.stream? n = some (session, socket) := by
  obtain ⟨socket, hsocket⟩ := hs.anchored n session hget
  exact ⟨socket, stream?_eq_some.mpr ⟨hget, hsocket⟩⟩

theorem IsSound.stream?_eq_none (hs : h.IsSound) {n : Nat} :
    h.stream? n = none ↔ h.sessions.get? n = none := by
  constructor
  · intro hnone
    by_contra hne
    obtain ⟨session, hget⟩ := Option.ne_none_iff_exists'.mp hne
    obtain ⟨socket, hsome⟩ := hs.stream? hget
    rw [hnone] at hsome
    cases hsome
  · intro hnone
    rw [Host.stream?, hnone, Option.bind_none]

theorem Happens.nodup_keys (hstep : Happens t s answer event u) (hs : t.host.IsSound) :
    u.host.sockets.keys.Nodup ∧ u.host.sessions.keys.Nodup := by
  cases hstep with
  | nothing => exact ⟨hs.sockets, hs.sessions⟩
  | connected => exact ⟨Table.nodup_keys_issue hs.sockets _, hs.sessions⟩
  | sent | hungUp | closed => exact ⟨Table.nodup_keys_set hs.sockets _ _, hs.sessions⟩
  | opened => exact ⟨hs.sockets, Table.nodup_keys_issue hs.sessions _⟩
  | dropped => exact ⟨hs.sockets, Table.nodup_keys_erase hs.sessions _⟩
  | drew =>
    exact ⟨Table.nodup_keys_set hs.sockets _ _, Table.nodup_keys_set hs.sessions _ _⟩

/-- **One step** keeps the numbers apart and the streams on their connections. -/
theorem Happens.isSound (hstep : Happens t s answer event u) (ht : t.IsCounted) (hs : t.host.IsSound) :
    u.host.IsSound := by
  obtain ⟨hsockets, hsessions⟩ := hstep.nodup_keys hs
  have hstays : ∀ {fd : Nat}, (∃ socket, t.host.sockets.get? fd = some socket) →
      ∃ socket, u.host.sockets.get? fd = some socket := by
    rintro fd ⟨socket, hget⟩
    obtain ⟨later, hlater, -⟩ := hstep.socket ht hget
    exact ⟨later, hlater⟩
  refine ⟨hsockets, hsessions, fun n session hget => hstays ?_⟩
  revert n session
  cases hstep with
  | nothing | connected | sent | hungUp | closed => exact hs.anchored
  | opened _ hget => exact hs.anchored.issue ⟨_, hget⟩
  | dropped => exact hs.anchored.erase _
  | drew _ _ _ hget => exact hs.anchored.set ⟨_, hget⟩

/-- A host that a run leads to, with the number of streams that were opened. -/
theorem run_isCounted (wait : Nat) (steps : List Step) :
    ∃ t : Tally, t.host = (run { wait := wait } steps).2 ∧ t.IsCounted ∧ t.host.IsSound :=
  (isCounted_new wait).run (P := fun t => t.host.IsSound) Happens.isSound (isSound_new wait) steps

/-- **Any number of steps**. -/
theorem run_isSound (wait : Nat) (steps : List Step) : (run { wait := wait } steps).2.IsSound := by
  obtain ⟨t, hhost, -, hsound⟩ := run_isCounted wait steps
  exact hhost ▸ hsound

end Sound

end Host

end FormCapture
