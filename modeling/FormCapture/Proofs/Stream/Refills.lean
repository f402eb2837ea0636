import FormCapture.Proofs.Stream.Conservation

/-! # Where the bytes of a stream come from

A source remembers what each of its reads gave (`Source.reads`), so what a stream has had from it can be
told from the source itself. `Draws s taken refills t`: on the way from `s` to `t` the source has been read
as often as there are refills, and `taken` are the bytes that have left the stream. Every operation draws
in this sense (`Accounts.draws`), which says more than that no byte is lost: it says which of them have
passed from the source to the buffer. -/

namespace FormCapture

/-- What each read made so far gave, the earliest first. -/
def Source.reads (s : Source) : List Bytes :=
  s.calls.reverse.filterMap fun
    | .read got => some got
    | .setWait _ _ => none

theorem Source.reads_setWait (s : Source) (milliseconds : Nat) :
    (s.setWait milliseconds).2.reads = s.reads := by
  simp [reads, setWait]

theorem Source.reads_read (s : Source) : s.read.2.reads = s.reads ++ [s.read.1] := by
  unfold read
  split <;> simp [reads]

theorem Source.reads_feed (s : Source) (bytes : Bytes) : (s.feed bytes).reads = s.reads := by
  unfold feed
  split <;> rfl

namespace Stream

/-- The source is read once for each refill, and gives it; these bytes leave the stream. -/
structure Draws (s : Stream) (taken : Bytes) (refills : List Bytes) (t : Stream) : Prop where
  reads : t.source.reads = s.source.reads ++ refills
  buffer : taken ++ t.buffer = s.buffer ++ refills.flatten
  held : refills.flatten ++ t.source.held = s.source.held

variable {s t u : Stream} {xs ys : Bytes} {refills more : List Bytes}

theorem Draws.refl (s : Stream) : Draws s [] [] s where
  reads := (List.append_nil _).symm
  buffer := (List.append_nil _).symm
  held := rfl

theorem Draws.trans (h : Draws s xs refills t) (h' : Draws t ys more u) :
    Draws s (xs ++ ys) (refills ++ more) u where
  reads := by rw [h'.reads, h.reads, List.append_assoc]
  buffer := by
    rw [List.append_assoc, h'.buffer, ← List.append_assoc, h.buffer, List.flatten_append,
      List.append_assoc]
  held := by rw [List.flatten_append, List.append_assoc, h'.held, h.held]

/-! ### One byte -/

theorem draws_applyWait (s : Stream) : Draws s [] [] s.applyWait := by
  unfold applyWait
  split
  · exact .refl s
  · exact ⟨(Source.reads_setWait _ _).trans (List.append_nil _).symm, (List.append_nil _).symm, rfl⟩

theorem draws_load (h : s.buffer = []) : Draws s [] [s.source.read.1] s.load where
  reads := by rw [source_load, Source.reads_read]
  buffer := by
    rw [buffer_load h, h, List.flatten_singleton]
  held := by rw [source_load, List.flatten_singleton, Source.read_append_held]

theorem exists_draws_fill (s : Stream) : ∃ refills, Draws s [] refills s.fill := by
  unfold fill
  split
  · next hspent =>
    have hempty : s.applyWait.buffer = [] := (buffer_applyWait s).trans (Window.isSpent_iff.mp hspent)
    unfold refill
    split
    · exact ⟨[], .refl s⟩
    · split
      · exact ⟨_, (draws_applyWait s).trans (draws_load hempty)⟩
      · exact ⟨[], draws_applyWait s⟩
  · exact ⟨[], .refl s⟩

/-- **One byte**: the buffer is filled at most once, and its first byte is taken. -/
theorem exists_draws_readByte (s : Stream) :
    ∃ refills, Draws s s.readByte.1.toList refills s.readByte.2 := by
  obtain ⟨refills, hfill⟩ := s.exists_draws_fill
  cases hbuffer : s.fill.buffer with
  | nil =>
    rw [readByte_of_nil hbuffer]
    exact ⟨refills, hfill⟩
  | cons b rest =>
    rw [readByte_of_cons hbuffer]
    have hskip : Draws s.fill [b] [] (s.fill.skip 1) :=
      { reads := (List.append_nil _).symm
        buffer := by
          rw [buffer_skip, hbuffer]
          exact (List.append_nil _).symm
        held := rfl }
    exact ⟨refills, List.append_nil refills ▸ hfill.trans hskip⟩

/-! ### Many bytes -/

theorem Gives.draws (h : Gives s xs t) : ∃ refills, Draws s xs refills t := by
  induction h with
  | nil s => exact ⟨[], .refl s⟩
  | @cons s _ _ _ _ hb _ ih =>
    obtain ⟨first, hfirst⟩ := s.exists_draws_readByte
    obtain ⟨later, hlater⟩ := ih
    rw [hb] at hfirst
    exact ⟨first ++ later, hfirst.trans hlater⟩

theorem RunsDry.draws (h : RunsDry s xs t) : ∃ refills, Draws s xs refills t := by
  obtain ⟨u, hu, hnone⟩ := h
  obtain ⟨first, hfirst⟩ := hu.draws
  obtain ⟨last, hlast⟩ := u.exists_draws_readByte
  rw [hnone] at hlast
  exact ⟨first ++ last, List.append_nil xs ▸ hfirst.trans hlast⟩

/-- **Any operation** that accounts for its bytes has had them from its buffer and its source. -/
theorem Accounts.draws {step : Step} (h : Accounts s step t) :
    ∃ refills, Draws s step.taken refills t := by
  rcases h.takes with hg | ⟨hdry, -⟩
  · exact hg.draws
  · exact hdry.draws

/-! ### Where nothing remains -/

theorem readByte_of_remaining_nil (h : s.remaining = []) : s.readByte.1 = none := by
  have hparts := remaining_readByte s
  rw [h] at hparts
  exact Option.toList_eq_nil_iff.mp (List.append_eq_nil_iff.mp hparts).1

theorem readUpTo_of_remaining_nil (h : s.remaining = []) (n : Nat) : (s.readUpTo n).1 = [] := by
  have hparts := remaining_readUpTo s n
  rw [h] at hparts
  exact (List.append_eq_nil_iff.mp hparts).1

theorem readExactly_of_remaining_nil (h : s.remaining = []) {n : Nat} (hn : n ≠ 0) :
    (s.readExactly n).1 = .error (.shortRead n 0) := by
  rw [readExactly_eq, readUpTo_of_remaining_nil h]
  exact if_pos (Nat.pos_of_ne_zero hn)

theorem readHeaders_of_remaining_nil (h : s.remaining = []) : s.readHeaders.1 = none := by
  have hnone : s.readByte = (none, s.readByte.2) := Prod.ext (readByte_of_remaining_nil h) rfl
  rw [readHeaders, collectBlock_eq, if_neg (by decide), hnone]

end Stream

end FormCapture
