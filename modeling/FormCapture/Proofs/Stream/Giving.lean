import FormCapture.Proofs.Stream.Bytewise

/-! # What a stream gives

Two relations account for the bytes that are taken from a stream. `Gives s bytes t`: asked for one byte
after the other, `s` answers with `bytes`, each request successful, and is then `t`. `RunsDry s bytes t`:
it answers with `bytes` and then, once, with none, and is then `t`.

Both fix the state of the stream that is left, its source included, so nothing else was asked of the
source. What a stream gives is the front of what remains (`Gives.remaining`), it can give only one
sequence of bytes (`Gives.prefix_or_prefix`), and a request for many bytes either gets them all or runs
dry (`gives_or_runsDry`). -/

namespace FormCapture.Stream

/-- Requests for single bytes are answered with `bytes`, and lead from the first stream to the last. -/
inductive Gives : Stream → Bytes → Stream → Prop
  | nil (s : Stream) : Gives s [] s
  | cons {s t u : Stream} {b : UInt8} {bytes : Bytes} :
      s.readByte = (some b, t) → Gives t bytes u → Gives s (b :: bytes) u

/-- Requests for single bytes are answered with `bytes` and then with none. -/
def RunsDry (s : Stream) (bytes : Bytes) (t : Stream) : Prop :=
  ∃ u, Gives s bytes u ∧ u.readByte = (none, t)

variable {s t u : Stream} {xs ys bytes : Bytes}

/-! ### One after the other -/

theorem Gives.append (h : Gives s xs t) (h' : Gives t ys u) : Gives s (xs ++ ys) u := by
  induction h with
  | nil => exact h'
  | cons hb _ ih => exact .cons hb (ih h')

theorem Gives.exists_of_append (h : Gives s (xs ++ ys) u) : ∃ t, Gives s xs t ∧ Gives t ys u := by
  induction xs generalizing s with
  | nil => exact ⟨s, .nil s, h⟩
  | cons b xs ih =>
    cases h with
    | cons hb hrest =>
      obtain ⟨t, hxs, hys⟩ := ih hrest
      exact ⟨t, .cons hb hxs, hys⟩

theorem Gives.snoc {b : UInt8} (h : Gives s xs t) (hb : t.readByte = (some b, u)) :
    Gives s (xs ++ [b]) u :=
  h.append (.cons hb (.nil u))

theorem Gives.then_runsDry (h : Gives s xs t) (h' : RunsDry t ys u) : RunsDry s (xs ++ ys) u := by
  obtain ⟨v, hv, hnone⟩ := h'
  exact ⟨v, h.append hv, hnone⟩

/-! ### Only one way -/

theorem Gives.unique (h : Gives s bytes t) (h' : Gives s bytes u) : t = u := by
  induction h with
  | nil =>
    cases h'
    rfl
  | cons hb _ ih =>
    cases h' with
    | cons hb' hrest =>
      rw [hb] at hb'
      cases hb'
      exact ih hrest

/-- Of two sequences of bytes that a stream gives, one is the front of the other. -/
theorem Gives.prefix_or_prefix (h : Gives s xs t) (h' : Gives s ys u) : xs <+: ys ∨ ys <+: xs := by
  induction h generalizing ys with
  | nil => exact Or.inl List.nil_prefix
  | cons hb _ ih =>
    cases h' with
    | nil => exact Or.inr List.nil_prefix
    | cons hb' hrest =>
      rw [hb] at hb'
      cases hb'
      simpa only [List.prefix_cons_inj] using ih hrest

/-- A stream gives one sequence of bytes of each length. -/
theorem Gives.eq_of_length (h : Gives s xs t) (h' : Gives s ys u) (hn : xs.length = ys.length) :
    xs = ys ∧ t = u := by
  have he : xs = ys := by
    rcases h.prefix_or_prefix h' with hp | hp
    · exact hp.eq_of_length hn
    · exact (hp.eq_of_length hn.symm).symm
  subst he
  exact ⟨rfl, h.unique h'⟩

/-- What a stream gives is the front of what it gives until it runs dry. -/
theorem RunsDry.prefix_of_gives (h : RunsDry s ys u) (h' : Gives s xs t) : xs <+: ys := by
  obtain ⟨v, hv, hnone⟩ := h
  rcases h'.prefix_or_prefix hv with hp | ⟨more, rfl⟩
  · exact hp
  · obtain ⟨w, hw, hmore⟩ := h'.exists_of_append
    obtain rfl := hv.unique hw
    cases hmore with
    | nil => simp only [List.append_nil, List.prefix_rfl]
    | cons hb _ =>
      rw [hnone] at hb
      cases hb

theorem RunsDry.unique (h : RunsDry s xs t) (h' : RunsDry s ys u) : xs = ys ∧ t = u := by
  obtain ⟨v, hv, hnone⟩ := h
  obtain ⟨w, hw, hnone'⟩ := h'
  have hxy : xs <+: ys := RunsDry.prefix_of_gives ⟨w, hw, hnone'⟩ hv
  have hyx : ys <+: xs := RunsDry.prefix_of_gives ⟨v, hv, hnone⟩ hw
  obtain rfl : xs = ys := hxy.eq_of_length (Nat.le_antisymm hxy.length_le hyx.length_le)
  obtain rfl := hv.unique hw
  rw [hnone] at hnone'
  cases hnone'
  exact ⟨rfl, rfl⟩

/-! ### The bytes that remain -/

theorem Gives.remaining (h : Gives s bytes t) : bytes ++ t.remaining = s.remaining := by
  induction h with
  | nil => rfl
  | @cons s t u b bytes hb _ ih =>
    have := remaining_readByte s
    rw [hb] at this
    rw [← this, ← ih]
    rfl

theorem RunsDry.remaining (h : RunsDry s bytes t) : bytes ++ t.remaining = s.remaining := by
  obtain ⟨u, hu, hnone⟩ := h
  have := remaining_readByte u
  rw [hnone] at this
  rw [← hu.remaining, ← this]
  rfl

/-- After a request that failed the buffer is empty: what it held has been handed out. -/
theorem RunsDry.buffer_eq_nil (h : RunsDry s bytes t) : t.buffer = [] := by
  obtain ⟨u, -, hnone⟩ := h
  cases hb : u.fill.buffer with
  | nil =>
    rw [readByte_of_nil hb] at hnone
    cases hnone
    exact hb
  | cons b rest =>
    rw [readByte_of_cons hb] at hnone
    cases hnone

/-! ### Many bytes -/

theorem Gives.readUpTo (h : Gives s bytes t) : s.readUpTo bytes.length = (bytes, t) := by
  induction h with
  | nil => exact readUpTo_zero _
  | cons hb _ ih =>
    rw [List.length_cons, readUpTo_succ, hb]
    simp only [ih]

theorem RunsDry.readUpTo {n : Nat} (h : RunsDry s bytes t) (hn : bytes.length < n) :
    s.readUpTo n = (bytes, t) := by
  obtain ⟨u, hu, hnone⟩ := h
  induction hu generalizing n with
  | nil =>
    obtain ⟨n, rfl⟩ := Nat.exists_eq_add_one_of_ne_zero (Nat.ne_of_gt hn)
    rw [readUpTo_succ, hnone]
  | cons hb _ ih =>
    obtain ⟨n, rfl⟩ := Nat.exists_eq_add_one_of_ne_zero (Nat.ne_zero_of_lt hn)
    rw [readUpTo_succ, hb]
    simp only [ih (Nat.lt_of_succ_lt_succ hn) hnone]

/-- **A number of bytes comes, or the stream runs dry before.** -/
theorem gives_or_runsDry (s : Stream) (n : Nat) :
    (∃ bytes t, bytes.length = n ∧ Gives s bytes t) ∨
      ∃ bytes t, bytes.length < n ∧ RunsDry s bytes t := by
  induction n generalizing s with
  | zero => exact Or.inl ⟨[], s, rfl, .nil s⟩
  | succ n ih =>
    rcases hb : s.readByte with ⟨_ | b, t⟩
    · exact Or.inr ⟨[], t, Nat.succ_pos n, s, .nil s, hb⟩
    · rcases ih t with ⟨bytes, u, hlen, hu⟩ | ⟨bytes, u, hlen, v, hv, hnone⟩
      · exact Or.inl ⟨b :: bytes, u, congrArg (· + 1) hlen, .cons hb hu⟩
      · exact Or.inr ⟨b :: bytes, u, Nat.succ_lt_succ hlen, v, .cons hb hv, hnone⟩

/-- What a request for many bytes answers, and how the stream is left. -/
theorem readUpTo_cases (s : Stream) (n : Nat) :
    ((s.readUpTo n).1.length = n ∧ Gives s (s.readUpTo n).1 (s.readUpTo n).2) ∨
      (s.readUpTo n).1.length < n ∧ RunsDry s (s.readUpTo n).1 (s.readUpTo n).2 := by
  rcases s.gives_or_runsDry n with ⟨bytes, t, rfl, h⟩ | ⟨bytes, t, hn, h⟩
  · rw [h.readUpTo]
    exact Or.inl ⟨rfl, h⟩
  · rw [h.readUpTo hn]
    exact Or.inr ⟨hn, h⟩

end FormCapture.Stream
