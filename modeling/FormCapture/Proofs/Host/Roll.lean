import FormCapture.Proofs.Host.Steps
import Mathlib.Data.List.Infix

/-! # The roll of streams

A roll says which streams have been opened, the latest first, each by its handle and the descriptor of its
connection (`Roll.IsCounted`: the handles are those of the numbers). A handle means the latest stream that
has it, so the roll is looked at from there on (`Roll.upTo`): whose stream it is (`Roll.owner?`), its number,
and how many streams of one connection there were up to it (`Roll.rank`).

As long as a handle means a stream, fewer than `2 ^ 32` streams have been opened since
(`Roll.IsCounted.isLatest`), of one connection too (`Roll.IsCounted.openedOn_lt`), and the order of the
streams of a connection is that of their ranks (`Roll.rank_lt_rank`). -/

namespace FormCapture.Host

/-- Streams by handle and descriptor, the latest first. -/
abbrev Roll := List (Nat × Nat)

namespace Roll

/-- The roll up to the latest stream of a handle. -/
def upTo (r : Roll) (n : Nat) : Roll := r.dropWhile fun opening => opening.1 != n

/-- The descriptor that the latest stream of a handle was opened on. -/
def owner? (r : Roll) (n : Nat) : Option Nat := (r.upTo n).head?.map Prod.snd

/-- How many streams have been opened on a descriptor. -/
def openedOn (r : Roll) (fd : Nat) : Nat := r.countP fun opening => opening.2 = fd

/-- How many streams had been opened on a descriptor when the latest of a handle was, this one included. -/
def rank (r : Roll) (fd n : Nat) : Nat := (r.upTo n).openedOn fd

/-- The streams have the handles of their numbers. -/
inductive IsCounted : Roll → Prop
  | nil : IsCounted []
  | cons {r : Roll} (fd : Nat) : IsCounted r → IsCounted ((handleOf (r.length + 1), fd) :: r)

variable {r : Roll} {n m fd d : Nat}

theorem upTo_cons (r : Roll) (m fd n : Nat) :
    upTo ((m, fd) :: r) n = if m = n then (m, fd) :: r else r.upTo n := by
  rw [upTo, List.dropWhile_cons]
  by_cases h : m = n
  · simp [h]
  · simp [h, upTo]

theorem owner?_cons (r : Roll) (m fd n : Nat) :
    owner? ((m, fd) :: r) n = if m = n then some fd else r.owner? n := by
  rw [owner?, upTo_cons]
  split <;> rfl

theorem owner?_cons_self (r : Roll) (m fd : Nat) : owner? ((m, fd) :: r) m = some fd := by
  rw [owner?_cons, if_pos rfl]

theorem owner?_cons_of_ne (hne : n ≠ m) : owner? ((m, d) :: r) n = r.owner? n := by
  rw [owner?_cons, if_neg (Ne.symm hne)]

theorem upTo_suffix (r : Roll) (n : Nat) : r.upTo n <:+ r := List.dropWhile_suffix _

theorem upTo_eq_cons (hn : r.owner? n = some fd) : ∃ earlier, r.upTo n = (n, fd) :: earlier := by
  obtain ⟨⟨m, d⟩, hhead, rfl⟩ := Option.map_eq_some_iff.mp hn
  obtain ⟨earlier, hcons⟩ := List.head?_eq_some_iff.mp hhead
  have hstop := List.head?_dropWhile_not (fun opening : Nat × Nat => opening.1 != n) r
  rw [← upTo, hhead] at hstop
  obtain rfl : m = n := by simpa using hstop
  exact ⟨earlier, hcons⟩

/-! ### Numbers -/

/-- A handle means the latest stream that has it. -/
theorem IsCounted.isLatest (hr : IsCounted r) (hn : r.owner? n = some fd) :
    handleOf (r.upTo n).length = n ∧ IsLatest (r.upTo n).length r.length := by
  induction hr with
  | nil => cases hn
  | @cons r d _ ih =>
    rw [owner?_cons] at hn
    rw [upTo_cons, List.length_cons]
    by_cases heq : handleOf (r.length + 1) = n
    · rw [if_pos heq, List.length_cons]
      refine ⟨heq, ?_⟩
      simp only [IsLatest, UInt32.size]
      omega
    · rw [if_neg heq] at hn ⊢
      obtain ⟨hhandle, hlatest⟩ := ih hn
      have hne : r.length + 1 ≠ (r.upTo n).length + UInt32.size := by
        intro hback
        rw [hback, handleOf, Nat.add_mod_right] at heq
        exact heq hhandle
      have hnew : (r.upTo n).length ≠ r.length + 1 := Nat.ne_of_lt (Nat.lt_succ_of_le hlatest.1)
      exact ⟨hhandle, (isLatest_succ_iff hnew).mpr ⟨hlatest, hne⟩⟩

/-- A handle that means no stream is not yet handed out, or is none. -/
theorem IsCounted.of_owner?_eq_none (hr : IsCounted r) (hn : r.owner? n = none) :
    UInt32.size ≤ n ∨ r.length < n ∨ n = 0 ∧ r.length < UInt32.size := by
  induction hr with
  | nil =>
    simp only [List.length_nil, UInt32.size]
    omega
  | cons d _ ih =>
    rw [owner?_cons] at hn
    split at hn
    · cases hn
    · next hne =>
      have hearlier := ih hn
      simp only [handleOf, List.length_cons, UInt32.size] at hearlier hne ⊢
      omega

theorem openedOn_cons (r : Roll) (m d fd : Nat) :
    openedOn ((m, d) :: r) fd = r.openedOn fd + if d = fd then 1 else 0 := by
  simp only [openedOn, List.countP_cons, decide_eq_true_eq]

theorem openedOn_mono {r' : Roll} (h : r' <:+ r) (fd : Nat) : r'.openedOn fd ≤ r.openedOn fd :=
  h.sublist.countP_le

theorem rank_cons (r : Roll) (m d fd n : Nat) :
    rank ((m, d) :: r) fd n = if m = n then openedOn ((m, d) :: r) fd else r.rank fd n := by
  rw [rank, upTo_cons]
  split <;> rfl

theorem rank_pos (hn : r.owner? n = some fd) : 0 < r.rank fd n := by
  obtain ⟨earlier, hcons⟩ := upTo_eq_cons hn
  rw [rank, hcons, openedOn_cons, if_pos rfl]
  exact Nat.succ_pos _

theorem rank_le (r : Roll) (fd n : Nat) : r.rank fd n ≤ r.openedOn fd := openedOn_mono (r.upTo_suffix n) fd

/-- Since the latest stream of a handle, fewer than `2 ^ 32` have been opened on its connection. -/
theorem IsCounted.openedOn_lt (hr : IsCounted r) (hn : r.owner? n = some fd) :
    r.openedOn fd < r.rank fd n + UInt32.size := by
  obtain ⟨later, hlater⟩ := r.upTo_suffix n
  have hopened : r.openedOn fd = openedOn later fd + r.rank fd n := by
    conv => lhs; rw [← hlater]
    exact List.countP_append
  have hlength : r.length = later.length + (r.upTo n).length := by
    conv => lhs; rw [← hlater]
    exact List.length_append
  have hle : openedOn later fd ≤ later.length := List.countP_le_length
  have hlatest := (hr.isLatest hn).2.2
  omega

/-- The order of the streams of a connection is that of their ranks. -/
theorem rank_lt_rank (hm : r.owner? m = some fd) (hlt : (r.upTo n).length < (r.upTo m).length) :
    r.rank fd n < r.rank fd m := by
  obtain ⟨earlier, hcons⟩ := upTo_eq_cons hm
  have hsuffix : r.upTo n <:+ earlier := by
    have hearlier : earlier <:+ r := (hcons ▸ List.suffix_cons _ _).trans (r.upTo_suffix m)
    refine List.suffix_of_suffix_length_le (r.upTo_suffix n) hearlier ?_
    rw [hcons, List.length_cons] at hlt
    exact Nat.le_of_lt_succ hlt
  rw [rank, rank, hcons, openedOn_cons, if_pos rfl]
  exact Nat.lt_succ_of_le (openedOn_mono hsuffix fd)

end Roll

end FormCapture.Host
