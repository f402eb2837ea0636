import FormCapture.Proofs.Stream.Giving
import Mathlib.Tactic.Common

/-! # Where a header block ends

A header block as it comes (`IsBlock`) is the shortest front of the bytes that ends with a blank line once
the carriage returns are dropped. `Collected` says how the collection of a block can end, in terms of what
the stream gives: with a block within the limit, with a stream that runs dry in the middle of one, or
with a byte that the limit has no room for.

Every collection ends in one of these ways (`collected`), and a stream that gives a block within the
limit is left right behind it (`HeadBlock.collectBlock_eq`). -/

namespace FormCapture

namespace Header

open Bytes (cr lf)

/-- What is kept of a header block: everything but the carriage returns. -/
def kept (raw : Bytes) : Bytes := raw.filter (· != cr)

def blankLine : Bytes := [lf, lf]

/-- What is kept ends with a blank line. -/
def EndsBlank (raw : Bytes) : Prop := blankLine <:+ kept raw

/-- No blank line has come yet. -/
def IsOpen (raw : Bytes) : Prop := ∀ front, front <+: raw → ¬ EndsBlank front

/-- **A header block, as it comes**: a blank line has come with its last byte, and not before. -/
structure IsBlock (raw : Bytes) : Prop where
  endsBlank : EndsBlank raw
  isOpen_before : ∀ front, front <+: raw → front ≠ raw → ¬ EndsBlank front

/-- A number of kept bytes is within the limit, if there is one. -/
def Fits (limit : Option Nat) (raw : Bytes) : Prop := ∀ n ∈ limit, (kept raw).length ≤ n

/-! ### What is kept -/

theorem kept_append (xs ys : Bytes) : kept (xs ++ ys) = kept xs ++ kept ys :=
  List.filter_append xs ys

theorem kept_snoc_cr (raw : Bytes) : kept (raw ++ [cr]) = kept raw := by
  rw [kept_append]
  exact List.append_nil _

theorem kept_snoc {b : UInt8} (raw : Bytes) (hb : b ≠ cr) : kept (raw ++ [b]) = kept raw ++ [b] := by
  have : kept [b] = [b] := List.filter_cons_of_pos (by simpa using hb)
  rw [kept_append, this]

theorem fits_none (raw : Bytes) : Fits none raw := nofun

theorem length_kept_le {xs ys : Bytes} (h : xs <+: ys) : (kept xs).length ≤ (kept ys).length :=
  (h.filter _).length_le

/-! ### Line feeds at the end -/

/-- The number of line feeds that a text in reverse begins with. -/
def feeds (reversed : Bytes) : Nat := (reversed.takeWhile (· == lf)).length

theorem feeds_cons (b : UInt8) (reversed : Bytes) :
    feeds (b :: reversed) = if b = lf then feeds reversed + 1 else 0 := by
  unfold feeds
  by_cases hb : b = lf
  · rw [List.takeWhile_cons_of_pos (by simpa using hb), if_pos hb, List.length_cons]
  · rw [List.takeWhile_cons_of_neg (by simpa using hb), if_neg hb, List.length_nil]

theorem endsBlank_iff {raw : Bytes} : EndsBlank raw ↔ 2 ≤ feeds (kept raw).reverse := by
  have hrev : EndsBlank raw ↔ blankLine <+: (kept raw).reverse := by
    rw [EndsBlank, ← List.reverse_prefix]
    rfl
  rw [hrev, blankLine]
  rcases (kept raw).reverse with _ | ⟨a, _ | ⟨b, rest⟩⟩
  · simp [feeds]
  · by_cases ha : a = lf
    · simp [feeds, ha]
    · simp [feeds_cons, ha]
  · rw [feeds_cons, feeds_cons, List.cons_prefix_cons, List.cons_prefix_cons]
    by_cases ha : a = lf
    · by_cases hb : b = lf
      · simp [ha, hb]
      · simp [ha, hb, Ne.symm hb]
    · simp [ha, Ne.symm ha]

theorem isOpen_of_fronts {raw : Bytes} (hraw : ¬ EndsBlank raw)
    (h : ∀ front, front <+: raw → front ≠ raw → ¬ EndsBlank front) : IsOpen raw := by
  intro front hfront
  by_cases he : front = raw
  · rwa [he]
  · exact h front hfront he

theorem IsOpen.before_snoc {raw : Bytes} (h : IsOpen raw) (b : UInt8) (front : Bytes)
    (hfront : front <+: raw ++ [b]) (hne : front ≠ raw ++ [b]) : ¬ EndsBlank front := by
  rcases List.prefix_concat_iff.mp hfront with he | hp
  · exact absurd he hne
  · exact h front hp

/-- Of two blocks neither is a front of the other. -/
theorem IsBlock.eq_of_prefix {xs ys : Bytes} (hx : IsBlock xs) (hy : IsBlock ys) (h : xs <+: ys) :
    xs = ys := by
  by_contra hne
  exact hy.isOpen_before xs h hne hx.endsBlank

theorem IsBlock.not_prefix_of_isOpen {xs ys : Bytes} (hx : IsBlock xs) (hy : IsOpen ys) :
    ¬ xs <+: ys :=
  fun h => hy xs h hx.endsBlank

/-- A blank line has come with the last byte that is kept, and not before. -/
theorem IsBlock.eq_kept {raw front : Bytes} (h : IsBlock raw) (hfront : front <+: kept raw)
    (hblank : blankLine <:+ front) : front = kept raw := by
  obtain ⟨rest, hrest⟩ := hfront
  obtain ⟨before, after, rfl, hbefore, -⟩ := List.filter_eq_append_iff.mp hrest.symm
  by_cases he : before = before ++ after
  · rw [← he]
    exact hbefore.symm
  · refine absurd ?_ (h.isOpen_before before (List.prefix_append before after) he)
    rw [EndsBlank, kept, hbefore]
    exact hblank

/-- The last byte of a block is a line feed. -/
theorem IsBlock.exists_snoc {raw : Bytes} (h : IsBlock raw) : ∃ front, raw = front ++ [lf] := by
  obtain rfl | ⟨front, b, rfl⟩ := List.eq_nil_or_concat raw
  · exact absurd (List.suffix_nil.mp h.endsBlank) (by decide)
  rw [List.concat_eq_append] at h ⊢
  have hend := h.endsBlank
  have hcr : b ≠ cr := by
    rintro rfl
    refine h.isOpen_before front (List.prefix_append front [cr]) (by simp) ?_
    rwa [EndsBlank, kept_snoc_cr] at hend
  rw [EndsBlank, kept_snoc front hcr] at hend
  obtain ⟨before, hbefore⟩ := hend
  have hlast : before ++ [lf] ++ [lf] = kept front ++ [b] := by
    simpa [blankLine] using hbefore
  obtain rfl : lf = b := by simpa using (List.append_inj' hlast rfl).2
  exact ⟨front, rfl⟩

end Header

namespace Stream

open Bytes (cr)
open Header

/-! ### How a collection ends -/

/-- The stream gives a header block within the limit, and is then `t`. -/
structure HeadBlock (s : Stream) (limit : Option Nat) (raw : Bytes) (t : Stream) : Prop where
  gives : Gives s raw t
  isBlock : IsBlock raw
  fits : Fits limit raw

/-- A block that is within a limit is the block without one. -/
theorem HeadBlock.unlimited {s t : Stream} {limit : Option Nat} {raw : Bytes}
    (h : HeadBlock s limit raw t) : HeadBlock s none raw t :=
  ⟨h.gives, h.isBlock, fits_none raw⟩

/-- The collection of a header block has ended. -/
inductive Collected (s : Stream) (limit : Option Nat) : BlockOutcome → Stream → Prop
  | complete {raw : Bytes} {t : Stream} :
      HeadBlock s limit raw t → Collected s limit (.complete (kept raw)) t
  | exhausted {raw : Bytes} {t : Stream} :
      RunsDry s raw t → IsOpen raw → Fits limit raw → Collected s limit .exhausted t
  | oversized {raw : Bytes} {b : UInt8} {t : Stream} :
      Gives s (raw ++ [b]) t → b ≠ cr → IsOpen raw → limit = some (kept raw).length →
        Collected s limit .oversized t

/-- **One more byte.** If `raw` has come of a block, and no blank line before its end, then the rest of
the collection ends as a whole one does. The recursion is on the bytes that remain. -/
theorem collected_from {s₀ s : Stream} {limit : Option Nat} {raw : Bytes} (hs : Gives s₀ raw s)
    (hbefore : ∀ front, front <+: raw → front ≠ raw → ¬ EndsBlank front)
    (hfeeds : feeds (kept raw).reverse ≤ 2) (hfits : Fits limit raw) {newlines : Nat}
    (hnewlines : newlines = feeds (kept raw).reverse) {room : Option Nat}
    (hroom : room = limit.map (· - (kept raw).length)) {outcome : BlockOutcome} {t : Stream}
    (h : s.collectBlock (kept raw).reverse room newlines = (outcome, t)) :
    Collected s₀ limit outcome t := by
  rw [collectBlock_eq] at h
  by_cases hn : newlines = 2
  · rw [if_pos hn, List.reverse_reverse] at h
    cases h
    exact .complete ⟨hs, ⟨endsBlank_iff.mpr (by omega), hbefore⟩, hfits⟩
  have hopen : IsOpen raw := by
    refine isOpen_of_fronts (fun he => ?_) hbefore
    have := endsBlank_iff.mp he
    omega
  rw [if_neg hn] at h
  rcases hb : s.readByte with ⟨_ | b, u⟩
  · rw [hb] at h
    cases h
    exact .exhausted ⟨s, hs, hb⟩ hopen hfits
  · rw [hb] at h
    simp only at h
    have hu : Gives s₀ (raw ++ [b]) u := hs.snoc hb
    have hshorter := length_remaining_of_readByte hb
    by_cases hcr : b = cr
    · subst hcr
      have hkept := kept_snoc_cr raw
      rw [if_pos rfl, ← hkept] at h
      refine collected_from hu (hopen.before_snoc cr) ?_ ?_ ?_ ?_ h
      · rwa [hkept]
      · rwa [Fits, hkept]
      · rwa [hkept]
      · rwa [hkept]
    rw [if_neg hcr] at h
    by_cases hfull : room = some 0
    · rw [if_pos hfull] at h
      cases h
      refine .oversized hu hcr hopen ?_
      rw [hroom] at hfull
      obtain ⟨n, hn, hzero⟩ := Option.map_eq_some_iff.mp hfull
      have := hfits n hn
      rw [hn]
      exact congrArg some (by omega)
    · rw [if_neg hfull] at h
      have hkept := kept_snoc raw hcr
      have hrev : b :: (kept raw).reverse = (kept (raw ++ [b])).reverse := by
        rw [hkept, List.reverse_append]
        rfl
      rw [hrev] at h
      refine collected_from hu (hopen.before_snoc b) ?_ ?_ ?_ ?_ h
      · rw [← hrev, feeds_cons]
        split
        · omega
        · omega
      · intro n hn
        have hle := hfits n hn
        have hne : n - (kept raw).length ≠ 0 := by
          rintro hzero
          rw [hroom, hn, Option.map_some, hzero] at hfull
          exact hfull rfl
        rw [hkept, List.length_append, List.length_singleton]
        omega
      · rw [← hrev, feeds_cons, hnewlines]
      · rw [hroom, Option.map_map, hkept, List.length_append, List.length_singleton]
        rfl
termination_by s.remaining.length

/-- **Every collection ends in one of the three ways.** -/
theorem collected {s : Stream} {limit : Option Nat} {outcome : BlockOutcome} {t : Stream}
    (h : s.collectBlock [] limit 0 = (outcome, t)) : Collected s limit outcome t := by
  have hroom : limit = limit.map (· - (kept []).length) := by
    cases limit <;> rfl
  have hstart : Gives s [] s := .nil s
  refine collected_from hstart (fun front hfront hne => ?_) (Nat.zero_le 2)
    (fun _ _ => Nat.zero_le _) rfl hroom h
  exact absurd (List.prefix_nil.mp hfront) hne

/-- What is collected is kept of a block that the stream gives. -/
theorem exists_headBlock {s t : Stream} {limit : Option Nat} {block : Bytes}
    (h : s.collectBlock [] limit 0 = (.complete block, t)) :
    ∃ raw, HeadBlock s limit raw t ∧ kept raw = block := by
  have hc := collected h
  generalize ho : BlockOutcome.complete block = outcome at hc
  cases hc with
  | complete hblock =>
    cases ho
    exact ⟨_, hblock, rfl⟩
  | exhausted | oversized => cases ho

/-! ### Only one way -/

section Unique

variable {s t u : Stream} {limit : Option Nat} {raw other : Bytes}

/-- A stream gives one block at most. -/
theorem HeadBlock.unique (h : HeadBlock s limit raw t) (h' : HeadBlock s limit other u) :
    raw = other ∧ t = u := by
  have he : raw = other := by
    rcases h.gives.prefix_or_prefix h'.gives with hp | hp
    · exact h.isBlock.eq_of_prefix h'.isBlock hp
    · exact (h'.isBlock.eq_of_prefix h.isBlock hp).symm
  subst he
  exact ⟨rfl, h.gives.unique h'.gives⟩

theorem HeadBlock.not_runsDry (h : HeadBlock s limit raw t) (hopen : IsOpen other) :
    ¬ RunsDry s other u :=
  fun hdry => h.isBlock.not_prefix_of_isOpen hopen (hdry.prefix_of_gives h.gives)

/-- A stream that gives a block within the limit does not give too many bytes before. -/
theorem HeadBlock.not_over {n : Nat} (h : HeadBlock s (some n) raw t) (hu : Gives s other u)
    (hover : n < (kept other).length)
    (hbefore : ∀ front, front <+: other → (kept front).length ≤ n → ¬ EndsBlank front) : False := by
  have hle : (kept raw).length ≤ n := h.fits n rfl
  rcases h.gives.prefix_or_prefix hu with hp | hp
  · exact hbefore raw hp hle h.isBlock.endsBlank
  · have := length_kept_le hp
    omega

/-- What the byte too many says of all the bytes up to it. -/
theorem before_of_oversized {b : UInt8} (hopen : IsOpen raw) (hb : b ≠ cr) (front : Bytes)
    (hfront : front <+: raw ++ [b]) (hle : (kept front).length ≤ (kept raw).length) :
    ¬ EndsBlank front := by
  rcases List.prefix_concat_iff.mp hfront with rfl | hp
  · rw [kept_snoc raw hb, List.length_append, List.length_singleton] at hle
    omega
  · exact hopen front hp

/-- **A block within the limit is what is collected**, and the stream is left right behind it. -/
theorem HeadBlock.collectBlock_eq (h : HeadBlock s limit raw t) :
    s.collectBlock [] limit 0 = (.complete (kept raw), t) := by
  rcases hc : s.collectBlock [] limit 0 with ⟨outcome, u⟩
  cases collected hc with
  | complete h' =>
    obtain ⟨rfl, rfl⟩ := h.unique h'
    rfl
  | exhausted hdry hopen _ => exact absurd hdry (h.not_runsDry hopen)
  | @oversized other b u hu hb hopen hlimit =>
    subst hlimit
    refine (h.not_over hu ?_ (before_of_oversized hopen hb)).elim
    rw [kept_snoc other hb, List.length_append]
    exact Nat.lt_add_one _

end Unique

end Stream

end FormCapture
