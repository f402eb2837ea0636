import FormCapture.Header.Block

/-! # Reading byte by byte

Many bytes are copied block by block out of the buffer. `readUpTo_succ` says that this is the same as
reading them one at a time, down to the state of the stream, so what is proved of single bytes carries
over to any number of them. A header block is read byte by byte as it is (`collectBlock_eq`).

`readEach` asks for the bytes one by one. `readBytes_eq_readEach` says that asking for all of them at once
gives the same bytes and leaves the same stream, with the same calls made on its source. -/

namespace FormCapture.Stream

/-! ### What comes of a full buffer, and of an empty one -/

theorem fill_of_ne_nil {s : Stream} (h : s.buffer ≠ []) : s.fill = s := by
  have hb : ¬ s.window.isSpent = true := fun hspent => h (Window.isSpent_iff.mp hspent)
  rw [fill, if_neg hb]

theorem skip_zero (s : Stream) : s.skip 0 = s := by
  simp only [skip, Window.skip_zero]

theorem skip_skip (s : Stream) (m n : Nat) : (s.skip m).skip n = s.skip (m + n) := by
  simp only [skip, Window.skip_skip]

theorem readUpTo_zero (s : Stream) : s.readUpTo 0 = ([], s) := by
  rw [readUpTo, dif_pos rfl]

theorem readUpTo_of_nil {s : Stream} {n : Nat} (hn : n ≠ 0) (h : s.fill.buffer = []) :
    s.readUpTo n = ([], s.fill) := by
  have hpeek : s.fill.window.peek n = [] := by
    rw [Window.peek_eq]
    exact (congrArg (List.take n) h).trans List.take_nil
  rw [readUpTo, dif_neg hn]
  simp only [hpeek]

theorem readUpTo_of_cons {s : Stream} {n : Nat} {b : UInt8} {rest : Bytes}
    (h : s.fill.buffer = b :: rest) :
    s.readUpTo (n + 1) =
      let more := (s.fill.skip (1 + (rest.take n).length)).readUpTo (n - (rest.take n).length)
      (b :: rest.take n ++ more.1, more.2) := by
  have hpeek : s.fill.window.peek (n + 1) = b :: rest.take n := by
    rw [Window.peek_eq]
    exact congrArg (List.take (n + 1)) h
  rw [readUpTo, dif_neg (Nat.add_one_ne_zero n)]
  simp only [hpeek, List.length_cons, Nat.add_sub_add_right]
  rw [Nat.add_comm 1]

/-! ### One byte after the other -/

/-- What is in the buffer is taken first. -/
theorem readUpTo_eq (s : Stream) (n : Nat) :
    s.readUpTo n =
      let more := (s.skip (s.buffer.take n).length).readUpTo (n - (s.buffer.take n).length)
      (s.buffer.take n ++ more.1, more.2) := by
  cases n with
  | zero =>
    simp only [List.take_zero, List.length_nil, skip_zero, Nat.sub_zero, readUpTo_zero,
      List.nil_append]
  | succ n =>
    cases hb : s.buffer with
    | nil =>
      simp only [List.take_nil, List.nil_append, List.length_nil, Nat.sub_zero, skip_zero]
    | cons b rest =>
      have hfill : s.fill = s := fill_of_ne_nil (by rw [hb]; exact List.cons_ne_nil b rest)
      have hread := readUpTo_of_cons (n := n) (hfill.symm ▸ hb)
      rw [hread, hfill]
      simp only [List.take_succ_cons, List.length_cons, Nat.add_sub_add_right, Nat.add_comm 1]

/-- **One byte, then the others.** -/
theorem readUpTo_succ (s : Stream) (n : Nat) :
    s.readUpTo (n + 1) =
      match s.readByte with
      | (none, t) => ([], t)
      | (some b, t) => (b :: (t.readUpTo n).1, (t.readUpTo n).2) := by
  cases hb : s.fill.buffer with
  | nil => rw [readByte_of_nil hb, readUpTo_of_nil (Nat.add_one_ne_zero n) hb]
  | cons b rest =>
    have hrest : (s.fill.skip 1).buffer = rest := by
      rw [buffer_skip, hb, List.drop_one, List.tail_cons]
    rw [readByte_of_cons hb, readUpTo_of_cons hb]
    simp only [readUpTo_eq (s.fill.skip 1) n, hrest, skip_skip, List.cons_append]

theorem collectBlock_eq (kept : Bytes) (room : Option Nat) (newlines : Nat) (s : Stream) :
    s.collectBlock kept room newlines =
      if newlines = 2 then (.complete kept.reverse, s)
      else
        match s.readByte with
        | (none, t) => (.exhausted, t)
        | (some b, t) =>
          if b = Bytes.cr then t.collectBlock kept room newlines
          else if room = some 0 then (.oversized, t)
          else t.collectBlock (b :: kept) (room.map (· - 1))
            (if b = Bytes.lf then newlines + 1 else 0) := by
  rw [collectBlock]
  rcases s.readByte with ⟨_ | b, t⟩ <;> rfl

/-! ### Asking for each byte -/

/-- Single bytes, one after the other, until there are `count` of them or none came. -/
def readEach (s : Stream) : (count : Nat) → Bytes × Stream
  | 0 => ([], s)
  | count + 1 =>
    match s.readByte with
    | (none, t) => ([], t)
    | (some b, t) => (b :: (t.readEach count).1, (t.readEach count).2)

theorem readUpTo_eq_readEach (s : Stream) (count : Nat) : s.readUpTo count = s.readEach count := by
  induction count generalizing s with
  | zero => exact readUpTo_zero s
  | succ count ih =>
    rw [readUpTo_succ, readEach]
    rcases s.readByte with ⟨_ | b, t⟩
    · rfl
    · simp only [ih t]

/-- Nothing came just if nothing was asked for, or the first request gave nothing. -/
theorem readEach_eq_nil_iff {s : Stream} {count : Nat} :
    (s.readEach count).1 = [] ↔ count = 0 ∨ s.readByte.1 = none := by
  cases count with
  | zero => simp [readEach]
  | succ count =>
    rw [readEach]
    rcases s.readByte with ⟨_ | b, t⟩ <;> simp

/-- **Asking for many bytes at once is asking for each of them**, in every state of the stream. The answer is
the bytes that come before the first failure, or none if some were asked for and the first request fails. The
stream is left in the same state, and with it its source, which has had the same calls in the same order. -/
theorem readBytes_eq_readEach (s : Stream) (count : Nat) :
    (s.readBytes count).1 =
        (if 0 < count ∧ s.readByte.1 = none then none else some (s.readEach count).1) ∧
      (s.readBytes count).2 = (s.readEach count).2 ∧
      (s.readBytes count).2.source.calls = (s.readEach count).2.source.calls := by
  have hstate : (s.readBytes count).2 = (s.readEach count).2 := by
    rw [← readUpTo_eq_readEach]
    rfl
  refine ⟨?_, hstate, congrArg (fun t => t.source.calls) hstate⟩
  have hnone : (count != 0 && (s.readEach count).1.isEmpty) = true ↔
      0 < count ∧ s.readByte.1 = none := by
    rw [Bool.and_eq_true, bne_iff_ne, List.isEmpty_iff, readEach_eq_nil_iff, Nat.pos_iff_ne_zero]
    constructor
    · rintro ⟨hne, hor⟩
      exact ⟨hne, hor.resolve_left hne⟩
    · rintro ⟨hne, hfail⟩
      exact ⟨hne, Or.inr hfail⟩
  rw [readBytes, readUpTo_eq_readEach]
  exact ite_congr (propext hnone) (fun _ => rfl) fun _ => rfl

end FormCapture.Stream
