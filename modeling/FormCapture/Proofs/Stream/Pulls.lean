import FormCapture.Proofs.Request.Reading
import FormCapture.Proofs.Stream.Agreement

/-! # Requests for single bytes

`Pull` is one request for a byte with the calls that it makes on the source. `Pull.Allowed` lists how it can
go, and every request goes in one of these ways (`exists_pulled`). Every operation is a chain of such
requests, of which only the last may fail (`perform_pulls`), so all that it does to its source is known from
them: no call follows one that yields no data (`Pulls.not_isVain`), after which the stream is open and has
nothing buffered (`Pulls.of_isVain`). -/

namespace FormCapture

/-- The call yields no data: the bound on the wait is refused, or the read gives no bytes. -/
def SourceCall.IsVain : SourceCall → Prop
  | .setWait _ accepted => accepted = false
  | .read got => got = []

theorem Source.calls_setWait (s : Source) (milliseconds : Nat) :
    (s.setWait milliseconds).2.calls =
      .setWait milliseconds (s.setWait milliseconds).1 :: s.calls := rfl

theorem Source.calls_read (s : Source) : s.read.2.calls = .read s.read.1 :: s.calls := by
  unfold read
  split <;> rfl

namespace Stream

/-! ### One request for a byte -/

/-- A request for a byte: the calls that it makes on the source, the earliest first, and its answer. -/
structure Pull where
  calls : List SourceCall
  got : Option UInt8

/-- **How a request for a byte can go.** While bytes are buffered no call is made, nor after closing. A
bound that is refused ends the request before any read; a read is made once the bound is accepted, and
only one. -/
inductive Pull.Allowed (s : Stream) : Pull → Prop
  | buffered {b : UInt8} : s.buffer ≠ [] → Allowed s ⟨[], some b⟩
  | closed : s.buffer = [] → s.closed = true → Allowed s ⟨[], none⟩
  | refused : s.buffer = [] → s.closed = false → s.waitApplied = false →
      Allowed s ⟨[.setWait s.wait false], none⟩
  | first (got : Bytes) : s.buffer = [] → s.closed = false → s.waitApplied = false →
      Allowed s ⟨[.setWait s.wait true, .read got], got.head?⟩
  | later (got : Bytes) : s.buffer = [] → s.closed = false → s.waitApplied = true →
      Allowed s ⟨[.read got], got.head?⟩

/-- The request leads from one stream to the other, and the source has had these calls. -/
structure Pulled (s : Stream) (pull : Pull) (t : Stream) : Prop where
  readByte : s.readByte = (pull.got, t)
  calls : t.source.calls = pull.calls.reverse ++ s.source.calls
  allowed : pull.Allowed s
  wait : t.wait = s.wait
  closed : t.closed = s.closed
  waitApplied : t.waitApplied = true ↔ s.waitApplied = true ∨ .setWait s.wait true ∈ pull.calls

section Pulls

variable {s t u : Stream} {pull : Pull}

theorem pulled_buffered {b : UInt8} {rest : Bytes} (h : s.buffer = b :: rest) :
    Pulled s ⟨[], some b⟩ (s.skip 1) := by
  have hne : s.buffer ≠ [] := by simp [h]
  have hfill : s.fill = s := fill_of_ne_nil hne
  have hread := readByte_of_cons (hfill.symm ▸ h)
  rw [hfill] at hread
  exact ⟨hread, rfl, .buffered hne, rfl, rfl, by simp [skip]⟩

theorem pulled_closed (hb : s.buffer = []) (hc : s.closed = true) : Pulled s ⟨[], none⟩ s :=
  ⟨readByte_of_closed hc hb, rfl, .closed hb hc, rfl, rfl, by simp⟩

/-- With an empty buffer, a bound that is refused is all that is tried. -/
theorem pulled_refused (hb : s.buffer = []) (hc : s.closed = false) (hw : s.waitApplied = false)
    (hrefused : (s.source.setWait s.wait).1 = false) :
    Pulled s ⟨[.setWait s.wait false], none⟩ s.applyWait := by
  have happly : s.applyWait =
      { s with waitApplied := false, source := (s.source.setWait s.wait).2 } := by
    simp [applyWait, hw, hrefused]
  have hfill : s.fill = s.applyWait := by
    rw [fill, if_pos (Window.isSpent_iff.mpr hb), refill, hc, happly]
    rfl
  have hread := readByte_of_nil (s := s) (by rw [hfill, buffer_applyWait, hb])
  rw [hfill] at hread
  refine ⟨hread, ?_, .refused hb hc hw, ?_, ?_, ?_⟩
  · rw [happly, Source.calls_setWait, hrefused]
    rfl
  · rw [happly]
  · rw [happly]
  · rw [happly]
    simp [hw]

/-- What one read brings, answers the request. -/
theorem readByte_of_load (hfill : s.fill = u.load) (hu : u.buffer = []) :
    s.readByte.1 = u.source.read.1.head? ∧
      s.readByte.2.source.calls = .read u.source.read.1 :: u.source.calls ∧
      s.readByte.2.wait = u.wait ∧ s.readByte.2.closed = u.closed ∧
      s.readByte.2.waitApplied = u.waitApplied := by
  have hbuffer : s.fill.buffer = u.source.read.1 := by rw [hfill, buffer_load hu]
  have hcalls : s.fill.source.calls = .read u.source.read.1 :: u.source.calls := by
    rw [hfill, source_load, Source.calls_read]
  have hframe : s.fill.wait = u.wait ∧ s.fill.closed = u.closed ∧
      s.fill.waitApplied = u.waitApplied := by
    rw [hfill, load]
    split <;> exact ⟨rfl, rfl, rfl⟩
  cases hgot : u.source.read.1 with
  | nil =>
    rw [hgot] at hbuffer hcalls
    rw [readByte_of_nil hbuffer]
    exact ⟨rfl, hcalls, hframe⟩
  | cons b rest =>
    rw [hgot] at hbuffer hcalls
    rw [readByte_of_cons hbuffer]
    exact ⟨rfl, hcalls, hframe⟩

theorem pulled_first (hb : s.buffer = []) (hc : s.closed = false) (hw : s.waitApplied = false)
    (haccepted : (s.source.setWait s.wait).1 = true) :
    ∃ pull, Pulled s pull s.readByte.2 := by
  have happly : s.applyWait =
      { s with waitApplied := true, source := (s.source.setWait s.wait).2 } := by
    simp [applyWait, hw, haccepted]
  have hfill : s.fill = s.applyWait.load := by
    rw [fill, if_pos (Window.isSpent_iff.mpr hb), refill, hc, happly]
    rfl
  obtain ⟨hgot, hcalls, hwait, hclosed, happlied⟩ :=
    readByte_of_load hfill ((buffer_applyWait s).trans hb)
  refine ⟨⟨[.setWait s.wait true, .read s.applyWait.source.read.1], _⟩, Prod.ext hgot rfl, ?_,
    .first _ hb hc hw, ?_, ?_, ?_⟩
  · rw [hcalls, happly, Source.calls_setWait, haccepted]
    rfl
  · rw [hwait, happly]
  · rw [hclosed, happly]
  · rw [happlied, happly]
    simp

theorem pulled_later (hb : s.buffer = []) (hc : s.closed = false) (hw : s.waitApplied = true) :
    ∃ pull, Pulled s pull s.readByte.2 := by
  have happly : s.applyWait = s := by rw [applyWait, if_pos hw]
  have hfill : s.fill = s.load := by
    rw [fill, if_pos (Window.isSpent_iff.mpr hb), refill, hc, happly, hw]
    rfl
  obtain ⟨hgot, hcalls, hwait, hclosed, happlied⟩ := readByte_of_load hfill hb
  refine ⟨⟨[.read s.source.read.1], _⟩, Prod.ext hgot rfl, hcalls, .later _ hb hc hw, hwait, hclosed, ?_⟩
  rw [happlied]
  simp [hw]

/-- **Every request for a byte goes in one of the ways that are allowed.** -/
theorem exists_pulled (s : Stream) : ∃ pull, Pulled s pull s.readByte.2 := by
  cases hb : s.buffer with
  | cons b rest =>
    have h := pulled_buffered hb
    exact ⟨_, by rw [h.readByte]; exact h⟩
  | nil =>
    by_cases hc : s.closed = true
    · have h := pulled_closed hb hc
      exact ⟨_, by rw [h.readByte]; exact h⟩
    have hc : s.closed = false := Bool.eq_false_iff.mpr hc
    by_cases hw : s.waitApplied = true
    · exact pulled_later hb hc hw
    have hw : s.waitApplied = false := Bool.eq_false_iff.mpr hw
    by_cases haccepted : (s.source.setWait s.wait).1 = true
    · exact pulled_first hb hc hw haccepted
    · have h := pulled_refused hb hc hw (Bool.eq_false_iff.mpr haccepted)
      exact ⟨_, by rw [h.readByte]; exact h⟩

/-! ### Requests one after the other -/

/-- **Requests for single bytes, one after the other**, that lead from the first stream to the last. There
is none after one that fails. -/
inductive Pulls : Stream → List Pull → Stream → Prop
  | nil (s : Stream) : Pulls s [] s
  | failed {s t : Stream} {pull : Pull} : Pulled s pull t → pull.got = none → Pulls s [pull] t
  | cons {s t u : Stream} {pull : Pull} {later : List Pull} :
      Pulled s pull t → pull.got ≠ none → Pulls t later u → Pulls s (pull :: later) u

variable {pulls later : List Pull} {bytes : Bytes}

theorem exists_pulled_of_readByte {got : Option UInt8} (h : s.readByte = (got, t)) :
    ∃ pull, Pulled s pull t ∧ pull.got = got := by
  obtain ⟨pull, hpull⟩ := s.exists_pulled
  have hread := hpull.readByte
  rw [h] at hpull hread
  exact ⟨pull, hpull, (congrArg Prod.fst hread).symm⟩

/-- Bytes that a stream gives were asked for one by one. -/
theorem Gives.exists_pulls (h : Gives s bytes t) (hlater : Pulls t later u) :
    ∃ pulls, Pulls s pulls u ∧ pulls.length = bytes.length + later.length := by
  induction h with
  | nil => exact ⟨later, hlater, (Nat.zero_add _).symm⟩
  | cons hb _ ih =>
    obtain ⟨pull, hpull, hgot⟩ := exists_pulled_of_readByte hb
    obtain ⟨pulls, hpulls, hlen⟩ := ih hlater
    refine ⟨pull :: pulls, .cons hpull (by simp [hgot]) hpulls, ?_⟩
    rw [List.length_cons, hlen, List.length_cons]
    omega

theorem RunsDry.exists_pulls (h : RunsDry s bytes t) :
    ∃ pulls, Pulls s pulls t ∧ pulls ≠ [] := by
  obtain ⟨u, hu, hnone⟩ := h
  obtain ⟨pull, hpull, hgot⟩ := exists_pulled_of_readByte hnone
  obtain ⟨pulls, hpulls, hlen⟩ := hu.exists_pulls (.failed hpull hgot)
  refine ⟨pulls, hpulls, fun hnil => ?_⟩
  rw [hnil] at hlen
  simp at hlen

end Pulls

/-! ### Operations -/

section Operations

open Header

variable {s t : Stream}

/-- The operation asks for bytes. -/
def Operation.Asks : Operation → Prop
  | .readByte | .readHeaders | .readHeadersUpTo _ | .readRequest _ => True
  | .readBytes count => count ≠ 0
  | .readPost size => size ≠ 0
  | .readMime size boundary => size ≠ 0 ∧ Multipart.usable boundary = .ok ()
  | .close => False

theorem Gives.exists_pulls_of_ne_nil {bytes : Bytes} (h : Gives s bytes t) (hne : bytes ≠ []) :
    ∃ pulls, Pulls s pulls t ∧ pulls ≠ [] := by
  obtain ⟨pulls, hpulls, hlen⟩ := h.exists_pulls (.nil t)
  refine ⟨pulls, hpulls, fun hnil => hne (List.length_eq_zero_iff.mp ?_)⟩
  rw [hnil] at hlen
  exact hlen.symm

theorem readUpTo_pulls (s : Stream) (count : Nat) :
    ∃ pulls, Pulls s pulls (s.readUpTo count).2 ∧ (count ≠ 0 → pulls ≠ []) := by
  rcases s.readUpTo_cases count with ⟨hlen, hgives⟩ | ⟨-, hdry⟩
  · obtain ⟨pulls, hpulls, hpulled⟩ := hgives.exists_pulls (.nil _)
    refine ⟨pulls, hpulls, fun hcount hnil => hcount ?_⟩
    rw [hnil] at hpulled
    exact hlen.symm.trans hpulled.symm
  · obtain ⟨pulls, hpulls, hne⟩ := hdry.exists_pulls
    exact ⟨pulls, hpulls, fun _ => hne⟩

theorem collectBlock_pulls (s : Stream) (limit : Option Nat) :
    ∃ pulls, Pulls s pulls (s.collectBlock [] limit 0).2 ∧ pulls ≠ [] := by
  rcases hb : s.collectBlock [] limit 0 with ⟨outcome, t⟩
  cases collected hb with
  | complete hblock =>
    obtain ⟨front, rfl⟩ := hblock.isBlock.exists_snoc
    exact hblock.gives.exists_pulls_of_ne_nil (by simp)
  | exhausted hdry => exact hdry.exists_pulls
  | oversized hgives => exact hgives.exists_pulls_of_ne_nil (by simp)

theorem readRequest_pulls (s : Stream) (limits : Limits) :
    ∃ pulls, Pulls s pulls (s.readRequest limits).2 ∧ pulls ≠ [] := by
  have hr := reading s limits
  generalize (s.readRequest limits).1 = answer, (s.readRequest limits).2 = u at hr ⊢
  cases hr with
  | exhausted hdry => exact hdry.exists_pulls
  | oversized hgives => exact hgives.exists_pulls_of_ne_nil (by simp)
  | refused hblock =>
    obtain ⟨front, rfl⟩ := hblock.isBlock.exists_snoc
    exact hblock.gives.exists_pulls_of_ne_nil (by simp)
  | short hblock _ hdry => exact (hblock.gives.then_runsDry hdry).exists_pulls
  | whole hblock _ hbody =>
    obtain ⟨front, rfl⟩ := hblock.isBlock.exists_snoc
    exact (hblock.gives.append hbody).exists_pulls_of_ne_nil (by simp)

/-- **Every operation on an open stream asks for bytes one by one**, and goes no further than the first
request that fails. -/
theorem perform_pulls (s : Stream) {operation : Operation} (h : operation ≠ .close) :
    ∃ pulls, Pulls s pulls (s.perform operation).2 ∧ (operation.Asks → pulls ≠ []) := by
  cases operation with
  | readByte =>
    obtain ⟨pulls, hpulls, hne⟩ := s.readUpTo_pulls 1
    have hone : (s.readUpTo 1).2 = s.readByte.2 := by
      rw [readUpTo_succ]
      rcases s.readByte with ⟨_ | b, t⟩
      · rfl
      · simp only [readUpTo_zero]
    exact ⟨pulls, hone ▸ hpulls, fun _ => hne (by decide)⟩
  | readBytes count => exact s.readUpTo_pulls count
  | readHeaders =>
    obtain ⟨pulls, hpulls, hne⟩ := s.collectBlock_pulls none
    have hstate : s.readHeaders.2 = (s.collectBlock [] none 0).2 := by
      rw [readHeaders]
      rcases s.collectBlock [] none 0 with ⟨_ | _ | _, t⟩ <;> rfl
    exact ⟨pulls, hstate ▸ hpulls, fun _ => hne⟩
  | readHeadersUpTo limit =>
    obtain ⟨pulls, hpulls, hne⟩ := s.collectBlock_pulls (some limit)
    have hstate : (s.readHeadersUpTo limit).2 = (s.collectBlock [] (some limit) 0).2 := by
      rw [readHeadersUpTo]
      rcases s.collectBlock [] (some limit) 0 with ⟨_ | _ | _, t⟩ <;> rfl
    exact ⟨pulls, hstate ▸ hpulls, fun _ => hne⟩
  | readPost size => exact s.readUpTo_pulls size
  | readMime size boundary =>
    cases hu : Multipart.usable boundary with
    | error e =>
      have hstate : (s.readMime size boundary).2 = s := by rw [readMime, hu]
      refine ⟨[], ?_, fun hasks => ?_⟩
      · rw [perform, hstate]
        exact .nil s
      · rw [hasks.2] at hu
        cases hu
    | ok _ =>
      have hstate : (s.readMime size boundary).2 = (s.readUpTo size).2 := by
        rw [readMime, hu]
        rfl
      obtain ⟨pulls, hpulls, hne⟩ := s.readUpTo_pulls size
      exact ⟨pulls, hstate ▸ hpulls, fun hasks => hne hasks.1⟩
  | readRequest limits =>
    obtain ⟨pulls, hpulls, hne⟩ := s.readRequest_pulls limits
    exact ⟨pulls, hpulls, fun _ => hne⟩
  | close => exact absurd rfl h

end Operations

/-! ### Where the calls end -/

section Ends

variable {s t u : Stream} {pull : Pull} {pulls : List Pull} {call : SourceCall}

/-- A call without data is the last one of its request, which fails. -/
theorem Pull.Allowed.of_isVain (h : pull.Allowed s) (hcall : call ∈ pull.calls) (hvain : call.IsVain) :
    pull.got = none ∧ s.closed = false := by
  cases h with
  | buffered | closed => cases hcall
  | refused _ hc => exact ⟨rfl, hc⟩
  | first got _ hc =>
    rcases List.mem_cons.mp hcall with rfl | hread
    · exact absurd hvain Bool.noConfusion
    · obtain rfl := List.mem_singleton.mp hread
      obtain rfl : got = [] := hvain
      exact ⟨rfl, hc⟩
  | later got _ hc =>
    obtain rfl := List.mem_singleton.mp hcall
    obtain rfl : got = [] := hvain
    exact ⟨rfl, hc⟩

theorem Pull.Allowed.not_isVain (h : pull.Allowed s) (hcall : call ∈ pull.calls.dropLast) :
    ¬ call.IsVain := by
  cases h with
  | buffered | closed | refused | later => cases hcall
  | first =>
    obtain rfl := List.mem_singleton.mp hcall
    exact Bool.noConfusion

/-- With nothing buffered, a stream that is open turns to its source. -/
theorem Pull.Allowed.calls_ne_nil (h : pull.Allowed s) (hb : s.buffer = []) (hc : s.closed = false) :
    pull.calls ≠ [] := by
  cases h with
  | buffered hne => exact absurd hb hne
  | closed _ hclosed =>
    rw [hc] at hclosed
    cases hclosed
  | refused | first | later => exact List.cons_ne_nil _ _

/-- No call follows one that yields no data. -/
theorem Pulls.not_isVain (h : Pulls s pulls t) {call : SourceCall}
    (hcall : call ∈ (pulls.flatMap Pull.calls).dropLast) : ¬ call.IsVain := by
  induction h with
  | nil => cases hcall
  | failed hpull _ =>
    rw [List.flatMap_singleton] at hcall
    exact hpull.allowed.not_isVain hcall
  | cons hpull hgot _ ih =>
    rw [List.flatMap_cons, List.dropLast_append] at hcall
    split at hcall
    · exact hpull.allowed.not_isVain hcall
    · rcases List.mem_append.mp hcall with hfirst | hlater
      · exact fun hvain => hgot (hpull.allowed.of_isVain hfirst hvain).1
      · exact ih hlater

/-- No request follows one that fails. -/
theorem Pulls.got_ne_none (h : Pulls s pulls t) : ∀ pull ∈ pulls.dropLast, pull.got ≠ none := by
  induction h with
  | nil | failed => exact fun _ hmem => absurd hmem List.not_mem_nil
  | cons hpull hgot hlater ih =>
    cases hlater with
    | nil => exact fun _ hmem => absurd hmem List.not_mem_nil
    | failed => exact fun pull hmem => List.mem_singleton.mp hmem ▸ hgot
    | cons => exact List.forall_mem_cons.mpr ⟨hgot, ih⟩

theorem Pulls.got_of_isVain (h : Pulls s pulls t) (hpull : pull ∈ pulls)
    (hvain : ∃ call ∈ pull.calls, call.IsVain) : pull.got = none := by
  obtain ⟨call, hcall, hvain⟩ := hvain
  induction h with
  | nil => cases hpull
  | failed hfirst _ =>
    rw [List.mem_singleton.mp hpull] at hcall ⊢
    exact (hfirst.allowed.of_isVain hcall hvain).1
  | cons hfirst _ _ ih =>
    rcases List.mem_cons.mp hpull with rfl | hlater
    · exact (hfirst.allowed.of_isVain hcall hvain).1
    · exact ih hlater

/-- **After a call without data the stream is open and has nothing buffered.** -/
theorem Pulls.of_isVain (h : Pulls s pulls t) (hcall : call ∈ pulls.flatMap Pull.calls)
    (hvain : call.IsVain) : t.buffer = [] ∧ t.closed = false := by
  induction h with
  | nil => cases hcall
  | @failed s t pull hpull hgot =>
    rw [List.flatMap_singleton] at hcall
    have hdry : RunsDry s [] t := ⟨s, .nil s, by rw [hpull.readByte, hgot]⟩
    exact ⟨hdry.buffer_eq_nil, hpull.closed.trans (hpull.allowed.of_isVain hcall hvain).2⟩
  | cons hpull hgot _ ih =>
    rcases List.mem_append.mp hcall with hfirst | hlater
    · exact absurd (hpull.allowed.of_isVain hfirst hvain).1 hgot
    · exact ih hlater

theorem Pulls.calls_ne_nil (h : Pulls s pulls t) (hne : pulls ≠ []) (hb : s.buffer = [])
    (hc : s.closed = false) : pulls.flatMap Pull.calls ≠ [] := by
  cases h with
  | nil => exact absurd rfl hne
  | failed hpull _ =>
    rw [List.flatMap_singleton]
    exact hpull.allowed.calls_ne_nil hb hc
  | cons hpull _ _ =>
    rw [List.flatMap_cons]
    exact List.append_ne_nil_of_left_ne_nil (hpull.allowed.calls_ne_nil hb hc) _

/-- A closed stream fails at once, and does not turn to its source. -/
theorem Pulls.of_closed (h : Pulls s pulls t) (hb : s.buffer = []) (hc : s.closed = true) :
    t = s ∧ pulls.flatMap Pull.calls = [] := by
  have hfails : ∀ {pull : Pull} {t : Stream}, Pulled s pull t → pull = ⟨[], none⟩ ∧ t = s := by
    intro pull t hpull
    have hread := hpull.readByte
    rw [readByte_of_closed hc hb] at hread
    obtain ⟨hgot, rfl⟩ := Prod.mk.inj hread
    have hcalls : pull.calls = [] := by simpa using hpull.calls
    exact ⟨congrArg₂ Pull.mk hcalls hgot.symm, rfl⟩
  cases h with
  | nil => exact ⟨rfl, rfl⟩
  | failed hpull _ =>
    obtain ⟨rfl, rfl⟩ := hfails hpull
    exact ⟨rfl, rfl⟩
  | cons hpull hgot _ =>
    obtain ⟨rfl, -⟩ := hfails hpull
    exact absurd rfl hgot

end Ends

end Stream

end FormCapture
