import FormCapture.Proofs.Request.Reading

/-! # The faults of a request

A request can have several faults at once; each is stated on its own (`Fault`), with the stage of the
reading at which it would be found. The error that is reported is that of the fault that is found first
(`readRequest_eq_error_iff`). -/

namespace FormCapture

/-- The stages of the reading of a request, in order. -/
inductive Stage
  | block
  | requestLine
  | chunks
  | length
  | size
  | boundary
  | body
  | parts
  deriving DecidableEq, Repr

namespace Stage

/-- How many stages come before. -/
def rank : Stage → Nat
  | block => 0
  | requestLine => 1
  | chunks => 2
  | length => 3
  | size => 4
  | boundary => 5
  | body => 6
  | parts => 7

theorem rank_lt (stage : Stage) : stage.rank < 8 := by
  cases stage <;> decide

theorem eq_of_rank_eq {stage other : Stage} (h : stage.rank = other.rank) : stage = other := by
  cases stage <;> cases other <;> grind [rank]

end Stage

/-! ### The first of several faults -/

/-- No fault is found at the first `n` stages. -/
def Clear (P : Stage → Error → Prop) (n : Nat) : Prop := ∀ stage e, stage.rank < n → ¬ P stage e

/-- The fault is there, and none that is found at an earlier stage. -/
structure IsFirst (P : Stage → Error → Prop) (stage : Stage) (e : Error) : Prop where
  present : P stage e
  clear : Clear P stage.rank

/-- An answer reports the first fault, if there is one. -/
def Reports (P : Stage → Error → Prop) {α : Type} : Except Error α → Prop
  | .error e => ∃ stage, IsFirst P stage e
  | .ok _ => Clear P 8

section First

variable {P : Stage → Error → Prop} {stage other : Stage}

theorem Clear.next (h : Clear P stage.rank) (hstage : ∀ e, ¬ P stage e) :
    Clear P (stage.rank + 1) := by
  intro earlier e hlt
  rcases Nat.lt_or_ge earlier.rank stage.rank with hl | hg
  · exact h earlier e hl
  · obtain rfl : earlier = stage := Stage.eq_of_rank_eq (by omega)
    exact hstage e

/-- There is only one first stage. -/
theorem IsFirst.stage_eq {e e' : Error} (h : IsFirst P stage e) (h' : IsFirst P other e') :
    stage = other := by
  apply Stage.eq_of_rank_eq
  rcases Nat.lt_trichotomy stage.rank other.rank with hlt | heq | hgt
  · exact absurd h.present (h'.clear stage e hlt)
  · exact heq
  · exact absurd h'.present (h.clear other e' hgt)

end First

namespace Stream

open Bytes (cr)
open Header

/-! ### Faults -/

/-- The faults that can be seen once the header block is there: those of its text `block`, and those of
the body that the stream `t` behind it gives. -/
inductive BlockFault (limits : Limits) (block : Text) (t : Stream) : Stage → Error → Prop
  | requestLine : ¬ HasRequestLine block → BlockFault limits block t .requestLine .badRequest
  | chunks : IsChunked block → BlockFault limits block t .chunks .badRequest
  | length {text : Text} :
      LengthText block text → Numeral.unsigned? Numeral.max64 text = none →
      BlockFault limits block t .length .badRequest
  | size {n : Nat} :
      Declares block n → limits.maxBodySize < n →
      BlockFault limits block t .size (.payloadTooLarge limits.maxBodySize)
  | boundary {text boundary : Text} :
      LengthText block text → RefusesBoundary block boundary →
      BlockFault limits block t .boundary (.invalidBoundary boundary)
  | body {n : Nat} {bytes : Bytes} {u : Stream} :
      Declares block n → RunsDry t bytes u → bytes.length < n →
      BlockFault limits block t .body (.shortRead n bytes.length)
  | parts {n : Nat} {boundary : Text} {bytes : Bytes} {u : Stream} {e : Error} :
      Declares block n → DeclaresBoundary block boundary → Gives t bytes u → bytes.length = n →
      Multipart.transcode .linear bytes boundary = .error e → BlockFault limits block t .parts e

/-- **The faults of a request**, each on its own: that of a header block which does not come, or comes
too long, and those behind a header block. -/
inductive Fault (s : Stream) (limits : Limits) : Stage → Error → Prop
  | exhausted {raw : Bytes} {t : Stream} :
      RunsDry s raw t → IsOpen raw → Fits (some limits.maxHeaderSize) raw →
      Fault s limits .block .connectionClosed
  | oversized {raw : Bytes} {t : Stream} :
      Gives s raw t → limits.maxHeaderSize < (kept raw).length →
      (∀ front, front <+: raw → (kept front).length ≤ limits.maxHeaderSize → ¬ EndsBlank front) →
      Fault s limits .block (.headersTooLarge limits.maxHeaderSize)
  | behind {raw : Bytes} {t : Stream} {stage : Stage} {e : Error} :
      HeadBlock s (some limits.maxHeaderSize) raw t → BlockFault limits (textOf raw) t stage e →
      Fault s limits stage e

/-! ### Faults that are not there -/

section Clear

variable {limits : Limits} {block : Text} {t u : Stream} {bytes : Bytes} {framing : Framing}

/-- Without a declared length nothing is wrong behind a head that can be parsed. -/
theorem clear_of_bare (hline : HasRequestLine block) (hchunk : ¬ IsChunked block)
    (hnone : value? block "content-length" = none) : Clear (BlockFault limits block t) 8 := by
  intro stage e _ hf
  cases hf with
  | requestLine hnot => exact hnot hline
  | chunks h => exact hchunk h
  | length htext => exact not_lengthText hnone htext
  | size hd => exact not_declares hnone hd
  | boundary htext => exact not_lengthText hnone htext
  | body hd => exact not_declares hnone hd
  | parts hd => exact not_declares hnone hd

theorem clear_block : Clear (BlockFault limits block t) Stage.requestLine.rank := by
  intro stage e hlt hf
  cases hf <;> exact absurd hlt (by decide)

variable (hline : HasRequestLine block)
include hline

theorem clear_requestLine : Clear (BlockFault limits block t) Stage.chunks.rank := by
  refine clear_block.next fun e hf => ?_
  cases hf with
  | requestLine hnot => exact hnot hline

variable (hchunk : ¬ IsChunked block)
include hchunk

theorem clear_chunks : Clear (BlockFault limits block t) Stage.length.rank := by
  refine (clear_requestLine hline).next fun e hf => ?_
  cases hf with
  | chunks h => exact hchunk h

theorem clear_length {n : Nat} (hd : Declares block n) :
    Clear (BlockFault limits block t) Stage.size.rank := by
  refine (clear_chunks hline hchunk).next fun e hf => ?_
  obtain ⟨text, htext, hsome⟩ := hd
  cases hf with
  | length htext' hnone =>
    rw [LengthText, htext] at htext'
    cases htext'
    rw [hsome] at hnone
    cases hnone

theorem clear_size {n : Nat} (hd : Declares block n) (hn : n ≤ limits.maxBodySize) :
    Clear (BlockFault limits block t) Stage.boundary.rank := by
  refine (clear_length hline hchunk hd).next fun e hf => ?_
  cases hf with
  | size hd' hlarge =>
    obtain rfl := hd.unique hd'
    omega

variable (hcount : Counted limits block framing)
include hcount

theorem clear_boundary : Clear (BlockFault limits block t) Stage.body.rank := by
  refine (clear_size hline hchunk hcount.declares hcount.length_le).next fun e hf => ?_
  cases hf with
  | boundary _ hb => exact hcount.not_refuses _ hb

variable (hbody : Gives t bytes u) (hlen : bytes.length = framing.length)
include hbody hlen

theorem clear_body : Clear (BlockFault limits block t) Stage.parts.rank := by
  refine (clear_boundary hline hchunk hcount).next fun e hf => ?_
  cases hf with
  | body hd hdry hshort =>
    have hle := (hdry.prefix_of_gives hbody).length_le
    have := hcount.declares.unique hd
    omega

theorem clear_parts {body : Body} (hok : framing.bodyOf bytes = .ok body) :
    Clear (BlockFault limits block t) 8 := by
  refine (clear_body hline hchunk hcount hbody hlen).next fun e hf => ?_
  cases hf with
  | parts hd hb hbody' hlen' herr =>
    have hn := hcount.declares.unique hd
    obtain ⟨rfl, rfl⟩ := hbody.eq_of_length hbody' (by omega)
    rw [(hcount.boundary_iff _).mp hb, Framing.bodyOf, herr] at hok
    cases hok

end Clear

/-! ### The fault that is found -/

section Found

variable {s t u : Stream} {limits : Limits} {block : Text} {raw bytes : Bytes} {head : Head}
  {framing : Framing} {stage : Stage} {e : Error}

/-- A check that fails has found the first fault. -/
theorem exists_isFirst_of_check (h : check limits block = .error e) :
    ∃ stage, IsFirst (BlockFault limits block t) stage e := by
  have hc := checked limits block
  rw [h] at hc
  generalize ha : (Except.error e : Except Error (Head × Framing)) = answer at hc
  cases hc with
  | noRequestLine hnot =>
    cases ha
    exact ⟨.requestLine, .requestLine hnot, clear_block⟩
  | chunked hline hchunk =>
    cases ha
    exact ⟨.chunks, .chunks hchunk, clear_requestLine hline⟩
  | noLength hline hchunk htext hnone =>
    cases ha
    exact ⟨.length, .length htext hnone, clear_chunks hline hchunk⟩
  | tooLarge hline hchunk hd hlarge =>
    cases ha
    exact ⟨.size, .size hd hlarge, clear_length hline hchunk hd⟩
  | badBoundary hline hchunk hd hn hb =>
    cases ha
    obtain ⟨text, htext, hnum⟩ := hd
    exact ⟨.boundary, .boundary htext hb, clear_size hline hchunk ⟨text, htext, hnum⟩ hn⟩
  | bare => cases ha
  | text => cases ha
  | multipart => cases ha

/-- A body that breaks off is the first fault if no check has failed. -/
theorem isFirst_body (h : check limits block = .ok (head, framing)) (hdry : RunsDry t bytes u)
    (hshort : bytes.length < framing.length) :
    IsFirst (BlockFault limits block t) .body (.shortRead framing.length bytes.length) := by
  obtain ⟨hp, hchunk, ⟨rfl, -⟩ | hcount⟩ := check_eq_ok h
  · exact absurd hshort (Nat.not_lt_zero _)
  · exact ⟨.body hcount.declares hdry hshort,
      clear_boundary (hasRequestLine_of_parse hp.parse) hchunk hcount⟩

/-- A body that cannot be cut into parts is the first fault if it has come as a whole. -/
theorem isFirst_parts (h : check limits block = .ok (head, framing)) (hbody : Gives t bytes u)
    (hlen : bytes.length = framing.length) (herr : framing.bodyOf bytes = .error e) :
    IsFirst (BlockFault limits block t) .parts e := by
  obtain ⟨hp, hchunk, ⟨rfl, -⟩ | hcount⟩ := check_eq_ok h
  · cases herr
  · refine ⟨?_, clear_body (hasRequestLine_of_parse hp.parse) hchunk hcount hbody hlen⟩
    cases framing with
    | none => cases herr
    | text => cases herr
    | multipart n boundary =>
      refine .parts hcount.declares ((hcount.boundary_iff boundary).mpr rfl) hbody hlen ?_
      rw [Framing.bodyOf] at herr
      cases ht : Multipart.transcode .linear bytes boundary with
      | error e' =>
        rw [ht] at herr
        cases herr
        rfl
      | ok text =>
        rw [ht] at herr
        cases herr

theorem clear_of_whole {body : Body} (h : check limits block = .ok (head, framing))
    (hbody : Gives t bytes u) (hlen : bytes.length = framing.length)
    (hok : framing.bodyOf bytes = .ok body) : Clear (BlockFault limits block t) 8 := by
  obtain ⟨hp, hchunk, ⟨rfl, hnone⟩ | hcount⟩ := check_eq_ok h
  · exact clear_of_bare (hasRequestLine_of_parse hp.parse) hchunk hnone
  · exact clear_parts (hasRequestLine_of_parse hp.parse) hchunk hcount hbody hlen hok

/-- Behind a header block the faults are those that can be seen there. -/
theorem HeadBlock.fault_iff (h : HeadBlock s (some limits.maxHeaderSize) raw t) :
    Fault s limits stage e ↔ BlockFault limits (textOf raw) t stage e := by
  constructor
  · intro hf
    cases hf with
    | exhausted hdry hopen _ => exact absurd hdry (h.not_runsDry hopen)
    | oversized hu hover hbefore => exact (h.not_over hu hover hbefore).elim
    | behind h' hb =>
      obtain ⟨rfl, rfl⟩ := h.unique h'
      exact hb
  · exact .behind h

theorem HeadBlock.isFirst (h : HeadBlock s (some limits.maxHeaderSize) raw t)
    (hf : IsFirst (BlockFault limits (textOf raw) t) stage e) : IsFirst (Fault s limits) stage e :=
  ⟨.behind h hf.present, fun earlier e' hlt hf' => hf.clear earlier e' hlt (h.fault_iff.mp hf')⟩

/-- **How a reading ends, by its faults**: with the first of them, or there are none. -/
theorem Reading.reports {answer : Except Error Request} (h : Reading s limits answer u) :
    Reports (Fault s limits) answer := by
  have hzero : Clear (Fault s limits) Stage.block.rank :=
    fun _ _ hlt => absurd hlt (Nat.not_lt_zero _)
  cases h with
  | exhausted hdry hopen hfits => exact ⟨.block, .exhausted hdry hopen hfits, hzero⟩
  | @oversized raw b t hu hcr hopen hlen =>
    refine ⟨.block, .oversized hu ?_ ?_, hzero⟩
    · rw [kept_snoc raw hcr, List.length_append, List.length_singleton, hlen]
      exact Nat.lt_add_one _
    · rw [← hlen]
      exact before_of_oversized hopen hcr
  | refused hblock hc =>
    obtain ⟨stage, hf⟩ := exists_isFirst_of_check hc
    exact ⟨stage, hblock.isFirst hf⟩
  | short hblock hc hdry hshort => exact ⟨.body, hblock.isFirst (isFirst_body hc hdry hshort)⟩
  | @whole raw bytes t u head framing hblock hc hbody hlen =>
    cases hb : framing.bodyOf bytes with
    | error e => exact ⟨.parts, hblock.isFirst (isFirst_parts hc hbody hlen hb)⟩
    | ok body =>
      intro stage e hlt hf
      exact clear_of_whole hc hbody hlen hb stage e hlt (hblock.fault_iff.mp hf)

/-! ### One error for each fault -/

theorem BlockFault.unique {e' : Error} (h : BlockFault limits block t stage e)
    (h' : BlockFault limits block t stage e') : e = e' := by
  cases h with
  | requestLine =>
    cases h'
    rfl
  | chunks =>
    cases h'
    rfl
  | length =>
    cases h'
    rfl
  | size =>
    cases h'
    rfl
  | boundary _ hb =>
    cases h' with
    | boundary _ hb' =>
      obtain ⟨type, ht, he⟩ := hb
      obtain ⟨type', ht', he'⟩ := hb'
      rw [ht] at ht'
      cases ht'
      rw [he] at he'
      exact Except.error.inj he'
  | body hd hdry =>
    cases h' with
    | body hd' hdry' =>
      rw [hd.unique hd', (hdry.unique hdry').1]
  | parts hd hb hbody hlen herr =>
    cases h' with
    | parts hd' hb' hbody' hlen' herr' =>
      have hn := hd.unique hd'
      obtain ⟨rfl, -⟩ := hbody.eq_of_length hbody' (by omega)
      rw [hb.unique hb', herr'] at herr
      exact (Except.error.inj herr).symm

/-- A stream that runs dry within the limit does not give too many bytes before. -/
theorem RunsDry.not_over {n : Nat} {other : Bytes} (h : RunsDry s raw t) (hfits : Fits (some n) raw)
    (hu : Gives s other u) (hover : n < (kept other).length) : False := by
  have hle := length_kept_le (h.prefix_of_gives hu)
  have := hfits n rfl
  omega

theorem Fault.unique {e' : Error} (h : Fault s limits stage e) (h' : Fault s limits stage e') :
    e = e' := by
  cases h with
  | exhausted hdry _ hfits =>
    cases h' with
    | exhausted => rfl
    | oversized hu hover _ => exact (hdry.not_over hfits hu hover).elim
    | behind _ hb => cases hb
  | oversized hu hover _ =>
    cases h' with
    | exhausted hdry _ hfits => exact (hdry.not_over hfits hu hover).elim
    | oversized => rfl
    | behind _ hb => cases hb
  | behind hblock hb => exact hb.unique (hblock.fault_iff.mp h')

/-- **The error of a request is that of its first fault.** -/
theorem readRequest_eq_error_iff :
    (s.readRequest limits).1 = .error e ↔ ∃ stage, IsFirst (Fault s limits) stage e := by
  have hfaults := (reading s limits).reports
  constructor
  · intro h
    rw [h] at hfaults
    exact hfaults
  · rintro ⟨stage, hf⟩
    cases ha : (s.readRequest limits).1 with
    | ok request =>
      rw [ha] at hfaults
      exact absurd hf.present (hfaults stage e stage.rank_lt)
    | error e' =>
      rw [ha] at hfaults
      obtain ⟨other, hother⟩ := hfaults
      obtain rfl := hf.stage_eq hother
      rw [hf.present.unique hother.present]

end Found

end Stream

end FormCapture
