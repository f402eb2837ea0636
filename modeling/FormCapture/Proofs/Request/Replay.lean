import FormCapture.Proofs.Request.Lines
import FormCapture.Proofs.Request.Succession

/-! # Captures that are sent again

The text of a captured request can be sent as a request. Its header block is the one that came without the
carriage returns: that is a block too, which ends at the same blank line, has the same text and is no longer
(`IsBlock.keep`). Its body is the one that came, whatever stands in it, if that is a text.

`readRequest_replay` puts the two together: what is read is the same request, down to its last byte. -/

namespace FormCapture

namespace Header

open Bytes (cr lf)

/-! ### Blocks without carriage returns -/

theorem kept_kept (raw : Bytes) : kept (kept raw) = kept raw := by
  rw [kept, kept, List.filter_filter]
  simp only [Bool.and_self]

theorem textOf_kept (raw : Bytes) : textOf (kept raw) = textOf raw :=
  congrArg Utf8.decodeLossy (kept_kept raw)

theorem Fits.keep {limit : Option Nat} {raw : Bytes} (h : Fits limit raw) : Fits limit (kept raw) := by
  intro n hn
  rw [kept_kept]
  exact h n hn

/-- **A block is one without its carriage returns too.** -/
theorem IsBlock.keep {raw : Bytes} (h : IsBlock raw) : IsBlock (kept raw) := by
  constructor
  · rw [EndsBlank, kept_kept]
    exact h.endsBlank
  · intro front hfront hshort hblank
    have hfront' : kept front = front :=
      List.filter_eq_self.mpr fun b hb => (List.mem_filter.mp (hfront.subset hb)).2
    rw [EndsBlank, hfront'] at hblank
    exact hshort (h.eq_kept hfront hblank)

/-- **A block and what follows it are texts** if the two are one together. -/
theorem IsBlock.isText {raw body : Bytes} (h : IsBlock raw) (htext : Utf8.IsText (raw ++ body)) :
    Utf8.IsText (kept raw) ∧ Utf8.IsText body := by
  obtain ⟨front, rfl⟩ := h.exists_snoc
  have hlow : lf.toNat < 128 ∧ cr.toNat < 128 := by decide
  rw [List.append_assoc, List.singleton_append] at htext
  obtain ⟨hfront, hbody⟩ := htext.of_append_low hlow.1
  have hraw : Utf8.IsText (front ++ [lf]) := hfront.append ⟨['\n'], rfl⟩
  exact ⟨hraw.filter hlow.2, hbody⟩

end Header

/-- A body that is no form is the text of its bytes. -/
theorem Framing.content_of_bodyOf {framing : Framing} {bytes : Bytes} {body : Body}
    (h : framing.bodyOf bytes = .ok body) (hlen : bytes.length = framing.length)
    (hplain : body.isMultipart = false) : body.content = Utf8.decodeLossy bytes := by
  cases framing with
  | none =>
    obtain rfl := List.length_eq_zero_iff.mp hlen
    cases h
    rw [Utf8.decodeLossy_nil, Body.content]
  | text length =>
    cases h
    rfl
  | multipart length boundary =>
    rw [bodyOf] at h
    cases htranscoded : Multipart.transcode .linear bytes boundary with
    | error e =>
      rw [htranscoded] at h
      cases h
    | ok content =>
      rw [htranscoded] at h
      cases h
      cases hplain

namespace Stream

open Header

/-- **A capture can be sent again.** Of a request without parts that was read of text, the captured text is a
request of its own: whatever source it comes from, and however that groups its bytes, the same request is
read and nothing is left, so that the same text is captured again. -/
theorem readRequest_replay {s u : Stream} {limits : Limits} {request : Request} {consumed : Bytes}
    (hread : s.readRequest limits = (.ok request, u)) (hplain : request.body.isMultipart = false)
    (hconsumed : consumed ++ u.remaining = s.remaining) (htext : Utf8.IsText consumed)
    {source : Source} {wait : Nat} (hwait : (source.setWait wait).1 = true) (hflows : source.Flows)
    (hheld : source.held = Utf8.encode request.render) :
    ∃ again t, (openOn source wait).readRequest limits = (.ok again, t) ∧ again = request ∧
      t.remaining = [] ∧ Utf8.encode again.render = source.held := by
  obtain ⟨raw, t, framing, body, hblock, hcheck, hbody, hlen, hmade⟩ := readRequest_eq_ok_iff.mp hread
  have hbytes : consumed = raw ++ body := by
    have hwhole : raw ++ body ++ u.remaining = s.remaining := by
      rw [List.append_assoc, hbody.remaining, hblock.gives.remaining]
    exact List.append_cancel_right (hconsumed.trans hwhole.symm)
  obtain ⟨hkept, hbodyText⟩ := hblock.isBlock.isText (hbytes ▸ htext)
  have hraw : request.head.raw = textOf raw := (check_eq_ok hcheck).1.raw
  have hcontent : request.body.content = Utf8.decodeLossy body :=
    Framing.content_of_bodyOf hmade hlen hplain
  have hsent : Utf8.encode request.render = kept raw ++ body := by
    rw [Request.render, hraw, hcontent, Utf8.encode_append, textOf, hkept.encode_decodeLossy,
      hbodyText.encode_decodeLossy]
  have hrem : (openOn source wait).remaining = kept raw ++ body ++ [] := by
    rw [List.append_nil, ← hsent, ← hheld]
    rfl
  have hcheck' : check limits (textOf (kept raw)) = .ok (request.head, framing) := by
    rw [textOf_kept, hcheck]
  obtain ⟨v, hv, -, hleft⟩ := (flowing_openOn hwait hflows).exists_readRequest hblock.isBlock.keep
    hblock.fits.keep hcheck' hlen hmade hrem
  exact ⟨request, v, hv, rfl, hleft, hheld.symm⟩

/-- A request of text whose body holds line ends of all kinds, a blank line and what looks like a request. -/
def sampleCapture : Text :=
  "POST /p HTTP/1.1\r\nName: é\r\nContent-Length: 23\r\n\r\na\rü\r\n\r\nGET / HTTP/1.1\n".toList

/-- What it is captured as. -/
def sampleCaptured : Request :=
  { head := { method := "POST".toList, target := "/p".toList, version := "HTTP/1.1".toList,
              fields := ⟨[("name".toList, "é".toList), ("content-length".toList, "23".toList)]⟩,
              raw := "POST /p HTTP/1.1\nName: é\nContent-Length: 23\n\n".toList },
    body := .text "a\rü\r\n\r\nGET / HTTP/1.1\n".toList }

/-- A stream with the request, and more bytes behind it. -/
def sampleStream : Stream :=
  openOn (.ofBytes (Utf8.encode sampleCapture ++ Bytes.ofAscii "left"))

/-- The captured text, in two reads. -/
def sampleReplay : Source :=
  { arrivals := [.data ((Utf8.encode sampleCaptured.render).take 30),
      .data ((Utf8.encode sampleCaptured.render).drop 30)] }

theorem readRequest_replay_sampleCapture :
    (sampleStream.readRequest {}).1 = .ok sampleCaptured ∧
      sampleCaptured.body.isMultipart = false ∧
      Utf8.encode sampleCapture ++ (sampleStream.readRequest {}).2.remaining = sampleStream.remaining ∧
      Utf8.IsText (Utf8.encode sampleCapture) ∧ (sampleReplay.setWait 10).1 = true ∧
      sampleReplay.Flows ∧ sampleReplay.held = Utf8.encode sampleCaptured.render ∧
      ∃ again t, (openOn sampleReplay 10).readRequest {} = (.ok again, t) ∧ again = sampleCaptured ∧
        t.remaining = [] ∧ Utf8.encode again.render = sampleReplay.held := by
  have hread : (sampleStream.readRequest {}).1 = .ok sampleCaptured ∧
      Utf8.encode sampleCapture ++ (sampleStream.readRequest {}).2.remaining =
        sampleStream.remaining := by
    decide +kernel
  have hplain : sampleCaptured.body.isMultipart = false := rfl
  have htext : Utf8.IsText (Utf8.encode sampleCapture) := Utf8.isText_encode _
  have hwait : (sampleReplay.setWait 10).1 = true := by decide
  have hflows : sampleReplay.Flows := by
    unfold Source.Flows
    decide +kernel
  have hheld : sampleReplay.held = Utf8.encode sampleCaptured.render := by
    decide +kernel
  exact ⟨hread.1, hplain, hread.2, htext, hwait, hflows, hheld,
    readRequest_replay (Prod.ext hread.1 rfl) hplain hread.2 htext hwait hflows hheld⟩

end Stream

end FormCapture
