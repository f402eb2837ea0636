import FormCapture.Proofs.Bytes.Cut
import FormCapture.Proofs.Stream.Queue

/-! # The first header block

What is taken of a stream when a header block is read, said of the bytes that the stream delivers before it
runs dry, less their carriage returns. The block is what stands before the first blank line in them, and that
line (`IsBlock.cutAt_kept`); as it came it is the shortest front of the bytes that makes the block
(`FirstBlock`), so the next byte to be read is the one right behind the second line feed:
`readHeaders_firstBlock`.

A limit changes nothing for a block that it has room for. Otherwise it ends the reading at the first byte
that it has no room for, if there is one: `readHeadersUpTo_exact`. -/

namespace FormCapture

open Bytes (cr lf CutAt)

namespace Header

/-! ### Blocks and blank lines -/

theorem blankLine_ne_nil : blankLine ≠ [] := by decide

theorem isOpen_iff {raw : Bytes} : IsOpen raw ↔ ¬ blankLine <:+: kept raw := by
  constructor
  · rintro hopen ⟨before, after, he⟩
    obtain ⟨front, rest, rfl, hfront, -⟩ := List.filter_eq_append_iff.mp he.symm
    refine hopen front (List.prefix_append front rest) ?_
    rw [EndsBlank, kept, hfront]
    exact List.suffix_append before blankLine
  · intro hnot front hfront hblank
    exact hnot (hblank.isInfix.trans (hfront.filter _).isInfix)

/-- **A block ends with the first blank line** of what is kept, whatever follows it. -/
theorem IsBlock.cutAt_kept {raw : Bytes} (h : IsBlock raw) (rest : Bytes) :
    ∃ before, kept raw = before ++ blankLine ∧
      CutAt blankLine (kept (raw ++ rest)) before (kept rest) := by
  obtain ⟨before, hbefore⟩ := h.endsBlank
  refine ⟨before, hbefore.symm, ?_⟩
  rw [kept_append, ← hbefore, List.append_assoc]
  refine (Bytes.cutAt_append_iff blankLine_ne_nil).mpr ?_
  rintro ⟨early, later, he⟩
  have hfront : early ++ blankLine <+: kept raw := by
    rw [← hbefore]
    exact List.IsPrefix.trans ⟨later, he⟩ ⟨[lf], by simp [blankLine]⟩
  have hsame := h.eq_kept hfront (List.suffix_append early blankLine)
  have hlong := congrArg List.length he
  have hshort := congrArg List.length (hsame.trans hbefore.symm)
  simp only [List.length_append, List.length_dropLast] at hlong hshort
  have : blankLine.length = 2 := rfl
  omega

/-- **Carriage returns do not matter**, wherever they stand before the last line feed. -/
theorem IsBlock.respell {front front' : Bytes} (h : IsBlock (front ++ [lf]))
    (hkept : kept front' = kept front) : IsBlock (front' ++ [lf]) := by
  have hwhole : kept (front' ++ [lf]) = kept (front ++ [lf]) := by
    rw [kept_append, kept_append, hkept]
  refine ⟨by rw [EndsBlank, hwhole]; exact h.endsBlank, fun early hearly hne hblank => ?_⟩
  rcases List.prefix_concat_iff.mp hearly with rfl | hearly
  · exact hne rfl
  have hfront : kept early <+: kept front := hkept ▸ hearly.filter _
  have hlf : kept (front ++ [lf]) = kept front ++ [lf] := kept_snoc front (by decide)
  have hsame := h.eq_kept (hfront.trans ⟨[lf], hlf.symm⟩) hblank
  have hle := hfront.length_le
  rw [hsame, hlf, List.length_append, List.length_singleton] at hle
  omega

/-- The bytes are `front`, a line feed and `rest`, and no shorter front of them makes the block than the one
that ends with this line feed. -/
structure FirstBlock (bytes block front rest : Bytes) : Prop where
  eq : bytes = front ++ lf :: rest
  kept_eq : kept (front ++ [lf]) = block
  shortest : ∀ short, short <+: bytes → kept short = block → front ++ [lf] <+: short

theorem IsBlock.firstBlock {front : Bytes} (h : IsBlock (front ++ [lf])) (rest : Bytes) :
    FirstBlock (front ++ lf :: rest) (kept (front ++ [lf])) front rest := by
  refine ⟨rfl, rfl, fun short hshort hkept => ?_⟩
  have hfront : front ++ [lf] <+: front ++ lf :: rest := ⟨rest, by simp⟩
  rcases List.prefix_or_prefix_of_prefix hfront hshort with hle | hle
  · exact hle
  · have hblank : EndsBlank short := by
      rw [EndsBlank, hkept]
      exact h.endsBlank
    by_cases he : short = front ++ [lf]
    · exact ⟨[], by rw [List.append_nil, he]⟩
    · exact absurd hblank (h.isOpen_before short hle he)

/-! ### Room for a block -/

section Room

variable {limit : Nat} {bytes : Bytes}

/-- The block before the first blank line is within the limit. -/
def HasRoom (limit : Nat) (bytes : Bytes) : Prop :=
  ∃ before after, CutAt blankLine (kept bytes) before after ∧ (before ++ blankLine).length ≤ limit

/-- More is kept than the limit has room for, and no blank line is among what it has room for. -/
def Overruns (limit : Nat) (bytes : Bytes) : Prop :=
  limit < (kept bytes).length ∧ ¬ blankLine <:+: (kept bytes).take limit

theorem HasRoom.not_overruns (h : HasRoom limit bytes) : ¬ Overruns limit bytes := by
  obtain ⟨before, after, hcut, hle⟩ := h
  rintro ⟨-, hnot⟩
  refine hnot ?_
  have hfront : before ++ blankLine <+: kept bytes := ⟨after, by rw [hcut.eq, List.append_assoc]⟩
  exact (List.suffix_append before blankLine).isInfix.trans (List.prefix_take_iff.mpr ⟨hfront, hle⟩).isInfix

theorem overruns_of_isOpen {raw : Bytes} {b : UInt8} (hcr : b ≠ cr) (hopen : IsOpen raw) (rest : Bytes) :
    Overruns (kept raw).length (raw ++ b :: rest) := by
  have hkept : kept (raw ++ b :: rest) = kept raw ++ b :: kept rest := by
    rw [List.append_cons, kept_append, kept_snoc raw hcr, List.append_assoc, List.singleton_append]
  rw [Overruns, hkept, List.take_left]
  refine ⟨?_, isOpen_iff.mp hopen⟩
  rw [List.length_append, List.length_cons]
  omega

end Room

end Header

namespace Stream

open Header

variable {s t u dry : Stream} {bytes front : Bytes}

/-! ### Bytes before a stream runs dry -/

theorem exists_runsDry (s : Stream) : ∃ bytes dry, RunsDry s bytes dry := by
  rcases s.gives_or_runsDry (s.remaining.length + 1) with ⟨bytes, t, hlen, hgives⟩ | ⟨bytes, t, -, hdry⟩
  · have hrem := congrArg List.length hgives.remaining
    rw [List.length_append] at hrem
    omega
  · exact ⟨bytes, t, hdry⟩

/-- A request for more bytes than come says which come. -/
theorem runsDry_of_readUpTo {n : Nat} (h : s.readUpTo n = (bytes, t)) (hn : bytes.length < n) :
    RunsDry s bytes t := by
  have hcases := s.readUpTo_cases n
  rw [h] at hcases
  exact hcases.elim (fun hall => absurd hall.1 (Nat.ne_of_lt hn)) And.right

/-- What comes behind the bytes that have been given. -/
theorem RunsDry.exists_rest (h : RunsDry s bytes dry) (hg : Gives s front t) :
    ∃ rest, bytes = front ++ rest ∧ RunsDry t rest dry := by
  obtain ⟨rest, rfl⟩ := h.prefix_of_gives hg
  obtain ⟨v, hv, hnone⟩ := h
  obtain ⟨w, hw, hrest⟩ := hv.exists_of_append
  obtain rfl := hg.unique hw
  exact ⟨rest, rfl, v, hrest, hnone⟩

/-- A byte that there is no room for is one of those that come. -/
theorem RunsDry.length_kept_lt {raw : Bytes} {b : UInt8} (h : RunsDry s bytes dry)
    (hu : Gives s (raw ++ [b]) t) (hcr : b ≠ cr) : (kept raw).length < (kept bytes).length := by
  have hle := length_kept_le (h.prefix_of_gives hu)
  rw [kept_snoc raw hcr, List.length_append, List.length_singleton] at hle
  omega

/-- A stream that gives no block is read until it runs dry, if the limit has room for what it gives. -/
theorem RunsDry.collectBlock_eq {limit : Option Nat} (h : RunsDry s bytes dry) (hopen : IsOpen bytes)
    (hfits : Fits limit bytes) : s.collectBlock [] limit 0 = (.exhausted, dry) := by
  rcases hb : s.collectBlock [] limit 0 with ⟨outcome, t⟩
  cases collected hb with
  | complete hblock => exact absurd h (hblock.not_runsDry hopen)
  | exhausted hdry =>
    obtain ⟨-, rfl⟩ := h.unique hdry
    rfl
  | oversized hu hcr _ hlimit => exact absurd (h.length_kept_lt hu hcr) (Nat.not_lt_of_le (hfits _ hlimit))

/-! ### Without a limit -/

theorem RunsDry.readHeaders_eq_none (h : RunsDry s bytes dry) (hopen : IsOpen bytes) :
    s.readHeaders = (none, dry) := by
  rw [readHeaders, h.collectBlock_eq hopen (fits_none bytes)]

/-- A limit that has room for all that comes is no limit. -/
theorem RunsDry.collectBlock_of_le {limit : Nat} (h : RunsDry s bytes dry)
    (hle : (kept bytes).length ≤ limit) :
    s.collectBlock [] (some limit) 0 = s.collectBlock [] none 0 := by
  rcases hb : s.collectBlock [] (some limit) 0 with ⟨outcome, t⟩
  cases collected hb with
  | complete hblock => exact hblock.unlimited.collectBlock_eq.symm
  | exhausted hdry hopen => exact (hdry.collectBlock_eq hopen (fits_none _)).symm
  | oversized hu hcr _ hlimit =>
    cases hlimit
    exact absurd (h.length_kept_lt hu hcr) (Nat.not_lt_of_le hle)

/-- Where the first blank line of what is kept comes, there a block ends. -/
theorem RunsDry.exists_headBlock {before after : Bytes} (h : RunsDry s bytes dry)
    (hcut : CutAt blankLine (kept bytes) before after) :
    ∃ front rest t, bytes = front ++ lf :: rest ∧ kept (front ++ [lf]) = before ++ blankLine ∧
      HeadBlock s none (front ++ [lf]) t ∧ RunsDry t rest dry := by
  rcases hb : s.collectBlock [] none 0 with ⟨outcome, t⟩
  cases collected hb with
  | @complete raw _ hblock =>
    obtain ⟨rest, rfl, hrest⟩ := h.exists_rest hblock.gives
    obtain ⟨early, hearly, hcut'⟩ := hblock.isBlock.cutAt_kept rest
    obtain ⟨rfl, -⟩ := hcut.unique hcut'
    obtain ⟨front, rfl⟩ := hblock.isBlock.exists_snoc
    exact ⟨front, rest, t, by simp, hearly, hblock, hrest⟩
  | exhausted hdry hopen =>
    obtain ⟨rfl, -⟩ := h.unique hdry
    refine absurd ?_ (isOpen_iff.mp hopen)
    rw [hcut.eq, ← List.append_assoc]
    exact ⟨before, after, rfl⟩
  | oversized _ _ _ hlimit => cases hlimit

/-- **The block that is read is the one before the first blank line, and nothing else is taken.** Here
`bytes` is what the stream delivers before it runs dry. If there is a blank line in what is kept of them, the
block that ends with the first one is read, and the stream is left right behind the shortest front of the
bytes that makes this block; it does not matter where in there carriage returns stand. If there is none,
the stream has run dry. To read without a limit is to read with any that has room for all the bytes. -/
theorem readHeaders_firstBlock (h : RunsDry s bytes dry) :
    (s.readHeaders.1.isSome = true ↔ blankLine <:+: kept bytes) ∧
    (∀ before after, CutAt blankLine (kept bytes) before after →
      ∃ front rest t, FirstBlock bytes (before ++ blankLine) front rest ∧
        s.readHeaders = (some (Utf8.decodeLossy (before ++ blankLine)), t) ∧
        Gives s (front ++ [lf]) t ∧ RunsDry t rest dry ∧ t.readByte.1 = rest.head? ∧
        ∀ (other otherDry : Stream) (front' rest' : Bytes),
          RunsDry other (front' ++ lf :: rest') otherDry → kept front' = kept front →
            other.readHeaders.1 = s.readHeaders.1) ∧
    (¬ blankLine <:+: kept bytes → s.readHeaders = (none, dry)) ∧
    ∀ limit, bytes.length ≤ limit → s.collectBlock [] (some limit) 0 = s.collectBlock [] none 0 := by
  refine ⟨?_, fun before after hcut => ?_, fun hnot => h.readHeaders_eq_none (isOpen_iff.mpr hnot),
    fun limit hle => h.collectBlock_of_le (Nat.le_trans (List.length_filter_le _ bytes) hle)⟩
  · rw [Option.isSome_iff_ne_none, ne_eq, h.readHeaders_eq_none_iff, isOpen_iff, not_not]
  · obtain ⟨front, rest, t, rfl, hkept, hblock, hrest⟩ := h.exists_headBlock hcut
    have htext : textOf (front ++ [lf]) = Utf8.decodeLossy (before ++ blankLine) := congrArg _ hkept
    refine ⟨front, rest, t, hkept ▸ hblock.isBlock.firstBlock rest, htext ▸ hblock.readHeaders_eq,
      hblock.gives, hrest, hrest.readByte_eq, fun other otherDry front' rest' hother hsame => ?_⟩
    obtain ⟨v, hv, -⟩ := hother
    rw [List.append_cons] at hv
    obtain ⟨u, hu, -⟩ := hv.exists_of_append
    have hblock' : HeadBlock other none (front' ++ [lf]) u :=
      ⟨hu, hblock.isBlock.respell hsame, fits_none _⟩
    rw [hblock'.readHeaders_eq, hblock.readHeaders_eq, textOf, textOf, kept_append, kept_append, hsame]

/-- A block with carriage returns everywhere, in two arrivals, and one more right behind it. -/
def partedBlock : Source :=
  { arrivals := [.data (Bytes.ofAscii "A\r\n\r"), .data (Bytes.ofAscii "\r\n\rB"), .stall .timedOut,
      .data (Bytes.ofAscii "C")] }

theorem readHeaders_firstBlock_partedBlock :
    ∃ front rest t, FirstBlock (Bytes.ofAscii "A\r\n\r\r\n\rB") (Bytes.ofAscii "A\n\n") front rest ∧
      (openOn partedBlock).readHeaders = (some "A\n\n".toList, t) ∧ t.readByte.1 = rest.head? ∧
      (openOn partedBlock).readHeaders.2.readByte.1 = some cr := by
  have hall : ((openOn partedBlock).readUpTo 9).1 = Bytes.ofAscii "A\r\n\r\r\n\rB" := by decide +kernel
  have hdry := runsDry_of_readUpTo (Prod.ext hall rfl) (by decide)
  have htext : Utf8.decodeLossy (Bytes.ofAscii "A" ++ blankLine) = "A\n\n".toList := by decide +kernel
  have hcut : CutAt blankLine (kept (Bytes.ofAscii "A\r\n\r\r\n\rB")) (Bytes.ofAscii "A")
      (Bytes.ofAscii "B") := ⟨by decide, by decide⟩
  obtain ⟨front, rest, t, hfirst, hread, -, -, hnext, -⟩ :=
    (readHeaders_firstBlock hdry).2.1 _ _ hcut
  exact ⟨front, rest, t, hfirst, htext ▸ hread, hnext, by decide +kernel⟩

/-! ### Up to a limit -/

section Limits

variable {limit : Nat}

theorem HeadBlock.hasRoom {raw : Bytes} (h : HeadBlock s (some limit) raw t) (hdry : RunsDry s bytes dry) :
    HasRoom limit bytes := by
  obtain ⟨rest, rfl, -⟩ := hdry.exists_rest h.gives
  obtain ⟨before, hbefore, hcut⟩ := h.isBlock.cutAt_kept rest
  exact ⟨before, kept rest, hcut, hbefore ▸ h.fits limit rfl⟩

/-- **A block within the limit** is read as without one. -/
theorem RunsDry.readHeadersUpTo_of_cutAt {before after : Bytes} (h : RunsDry s bytes dry)
    (hcut : CutAt blankLine (kept bytes) before after) (hle : (before ++ blankLine).length ≤ limit) :
    ∃ t, s.readHeaders = (some (Utf8.decodeLossy (before ++ blankLine)), t) ∧
      s.readHeadersUpTo limit = (.ok (Utf8.decodeLossy (before ++ blankLine)), t) := by
  obtain ⟨front, -, t, -, hkept, hblock, -⟩ := h.exists_headBlock hcut
  have hwithin : HeadBlock s (some limit) (front ++ [lf]) t := by
    refine ⟨hblock.gives, hblock.isBlock, fun n hn => ?_⟩
    cases hn
    rwa [hkept]
  have hfree := hblock.readHeaders_eq
  have hlimited := hwithin.readHeadersUpTo_eq
  rw [textOf, hkept] at hfree hlimited
  exact ⟨t, hfree, hlimited⟩

/-- **The first byte that there is no room for** ends the reading, and is the last that is taken. -/
theorem RunsDry.readHeadersUpTo_of_overruns (h : RunsDry s bytes dry) (hover : Overruns limit bytes) :
    ∃ front b rest t, bytes = front ++ b :: rest ∧ b ≠ cr ∧ (kept front).length = limit ∧
      s.readHeadersUpTo limit = (.error (.headersTooLarge limit), t) ∧
      Gives s (front ++ [b]) t ∧ RunsDry t rest dry := by
  rcases hb : s.collectBlock [] (some limit) 0 with ⟨outcome, t⟩
  rw [readHeadersUpTo, hb]
  cases collected hb with
  | complete hblock => exact absurd hover (hblock.hasRoom h).not_overruns
  | exhausted hdry _ hfits =>
    obtain ⟨rfl, -⟩ := h.unique hdry
    exact absurd hover.1 (Nat.not_lt_of_le (hfits limit rfl))
  | @oversized front b _ hu hcr _ hlimit =>
    obtain ⟨rest, rfl, hrest⟩ := h.exists_rest hu
    exact ⟨front, b, rest, t, by simp, hcr, (Option.some.inj hlimit).symm, rfl, hu, hrest⟩

theorem RunsDry.readHeadersUpTo_of_not (h : RunsDry s bytes dry) (hroom : ¬ HasRoom limit bytes)
    (hover : ¬ Overruns limit bytes) : s.readHeadersUpTo limit = (.error .connectionClosed, dry) := by
  rcases hb : s.collectBlock [] (some limit) 0 with ⟨outcome, t⟩
  rw [readHeadersUpTo, hb]
  cases collected hb with
  | complete hblock => exact absurd (hblock.hasRoom h) hroom
  | exhausted hdry =>
    obtain ⟨-, rfl⟩ := h.unique hdry
    rfl
  | oversized hu hcr hopen hlimit =>
    obtain ⟨rest, rfl, -⟩ := h.exists_rest hu
    obtain rfl := Option.some.inj hlimit
    rw [List.append_assoc] at hover
    exact absurd (overruns_of_isOpen hcr hopen rest) hover

/-- **A limit is exact and changes nothing else**, whatever the stream. Here `bytes` is what it delivers
before it runs dry. A block that there is room for is read as without a limit. The limit is exceeded exactly if
more is kept than it has room for, without a blank line among what it has room for; the last byte that is
taken is then the first one too many. In all other cases the stream has run dry. -/
theorem readHeadersUpTo_exact (s : Stream) (limit : Nat) :
    ∃ bytes dry, RunsDry s bytes dry ∧
      (∀ before after, CutAt blankLine (kept bytes) before after →
        (before ++ blankLine).length ≤ limit →
          ∃ t, s.readHeaders = (some (Utf8.decodeLossy (before ++ blankLine)), t) ∧
            s.readHeadersUpTo limit = (.ok (Utf8.decodeLossy (before ++ blankLine)), t)) ∧
      ((s.readHeadersUpTo limit).1 = .error (.headersTooLarge limit) ↔ Overruns limit bytes) ∧
      (Overruns limit bytes →
        ∃ front b rest t, bytes = front ++ b :: rest ∧ b ≠ cr ∧ (kept front).length = limit ∧
          s.readHeadersUpTo limit = (.error (.headersTooLarge limit), t) ∧
          Gives s (front ++ [b]) t ∧ RunsDry t rest dry) ∧
      (¬ HasRoom limit bytes → ¬ Overruns limit bytes →
        s.readHeadersUpTo limit = (.error .connectionClosed, dry)) := by
  obtain ⟨bytes, dry, hdry⟩ := s.exists_runsDry
  refine ⟨bytes, dry, hdry, fun _ _ => hdry.readHeadersUpTo_of_cutAt, ⟨fun hlarge => ?_, fun hover => ?_⟩,
    hdry.readHeadersUpTo_of_overruns, hdry.readHeadersUpTo_of_not⟩
  · by_contra hover
    by_cases hroom : HasRoom limit bytes
    · obtain ⟨before, after, hcut, hle⟩ := hroom
      obtain ⟨t, -, hok⟩ := hdry.readHeadersUpTo_of_cutAt hcut hle
      rw [hok] at hlarge
      cases hlarge
    · rw [hdry.readHeadersUpTo_of_not hroom hover] at hlarge
      cases hlarge
  · obtain ⟨-, -, -, t, -, -, -, hlarge, -⟩ := hdry.readHeadersUpTo_of_overruns hover
    rw [hlarge]

/-- The second line feed is within the limit, or one too many. -/
example :
    let s := openOn (.ofBytes (Bytes.ofAscii "A\r\n\r\nB"))
    (s.readHeadersUpTo 3).1 = .ok "A\n\n".toList ∧
      (s.readHeadersUpTo 2).1 = .error (.headersTooLarge 2) ∧
      (s.readHeadersUpTo 2).2.remaining = Bytes.ofAscii "B" := by decide +kernel

end Limits

end Stream

end FormCapture
