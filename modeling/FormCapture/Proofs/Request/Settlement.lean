import FormCapture.Proofs.Request.Faults

/-! # What a request costs

The bytes that the reading of a request takes from its stream, outcome by outcome (`Settles`). A fault
that is seen in the header block leaves the stream right behind the block, before any byte of the body;
a body that has been read, whether it can be cut into parts or not, leaves it right behind the body.

`readRequest_settles` puts this beside the order of the faults: together they say which error is
reported, and where the next request begins. -/

namespace FormCapture.Stream

open Header

/-- **What has been taken** when a request has been read, or refused, and the stream is `u`: `raw` is the
header block as it came, with all its carriage returns, and `bytes` what came of the body. -/
inductive Settles (s : Stream) (limits : Limits) : Except Error Request → Stream → Prop
  | exhausted {raw : Bytes} {u : Stream} :
      RunsDry s raw u → IsOpen raw → Fits (some limits.maxHeaderSize) raw →
      Settles s limits (.error .connectionClosed) u
  | oversized {raw : Bytes} {b : UInt8} {u : Stream} :
      Gives s (raw ++ [b]) u → b ≠ Bytes.cr → IsOpen raw → (kept raw).length = limits.maxHeaderSize →
      Settles s limits (.error (.headersTooLarge limits.maxHeaderSize)) u
  | refused {raw : Bytes} {u : Stream} {e : Error} :
      HeadBlock s (some limits.maxHeaderSize) raw u →
      e = .badRequest ∨ e = .payloadTooLarge limits.maxBodySize ∨
        (∃ boundary, e = .invalidBoundary boundary) →
      Settles s limits (.error e) u
  | bare {raw : Bytes} {u : Stream} {head : Head} :
      HeadBlock s (some limits.maxHeaderSize) raw u → Parsed (textOf raw) head →
      value? (textOf raw) "content-length" = none →
      Settles s limits (.ok ⟨head, .none⟩) u
  | counted {raw bytes : Bytes} {t u : Stream} {head : Head} {body : Body} :
      HeadBlock s (some limits.maxHeaderSize) raw t → Parsed (textOf raw) head →
      Declares (textOf raw) bytes.length → bytes.length ≤ limits.maxBodySize → Gives t bytes u →
      Settles s limits (.ok ⟨head, body⟩) u
  | short {raw bytes : Bytes} {t u : Stream} {n : Nat} :
      HeadBlock s (some limits.maxHeaderSize) raw t → Declares (textOf raw) n →
      n ≤ limits.maxBodySize → RunsDry t bytes u → bytes.length < n →
      Settles s limits (.error (.shortRead n bytes.length)) u
  | malformed {raw bytes : Bytes} {t u : Stream} {missing : String} :
      HeadBlock s (some limits.maxHeaderSize) raw t → Declares (textOf raw) bytes.length →
      bytes.length ≤ limits.maxBodySize → Gives t bytes u →
      Settles s limits (.error (.malformedMultipart missing)) u

theorem exists_of_transcode_error {bytes : Bytes} {boundary : Text} {e : Error}
    (h : Multipart.transcode .linear bytes boundary = .error e) :
    ∃ missing, e = .malformedMultipart missing := by
  unfold Multipart.transcode Multipart.transcodeBytes at h
  split at h
  · next fault _ =>
    cases h
    exact ⟨fault.message, rfl⟩
  · cases h
  · cases h

theorem exists_of_bodyOf_error {framing : Framing} {bytes : Bytes} {e : Error}
    (h : framing.bodyOf bytes = .error e) : ∃ missing, e = .malformedMultipart missing := by
  cases framing with
  | none => cases h
  | text => cases h
  | multipart length boundary =>
    rw [Framing.bodyOf] at h
    cases ht : Multipart.transcode .linear bytes boundary with
    | error e' =>
      rw [ht] at h
      cases h
      exact exists_of_transcode_error ht
    | ok content =>
      rw [ht] at h
      cases h

/-- The checks of a header block refuse it for one of three reasons. -/
theorem error_of_check {limits : Limits} {block : Text} {e : Error}
    (h : check limits block = .error e) :
    e = .badRequest ∨ e = .payloadTooLarge limits.maxBodySize ∨
      ∃ boundary, e = .invalidBoundary boundary := by
  have hc := checked limits block
  rw [h] at hc
  generalize ha : (Except.error e : Except Error (Head × Framing)) = answer at hc
  cases hc with
  | noRequestLine | chunked | noLength =>
    cases ha
    exact Or.inl rfl
  | tooLarge =>
    cases ha
    exact Or.inr (Or.inl rfl)
  | @badBoundary n boundary =>
    cases ha
    exact Or.inr (Or.inr ⟨boundary, rfl⟩)
  | bare | text | multipart => cases ha

theorem Reading.settles {s u : Stream} {limits : Limits} {answer : Except Error Request}
    (h : Reading s limits answer u) : Settles s limits answer u := by
  cases h with
  | exhausted hdry hopen hfits => exact .exhausted hdry hopen hfits
  | oversized hu hcr hopen hlen => exact .oversized hu hcr hopen hlen
  | refused hblock hc => exact .refused hblock (error_of_check hc)
  | short hblock hc hdry hshort =>
    obtain ⟨-, -, ⟨rfl, -⟩ | hcount⟩ := check_eq_ok hc
    · exact absurd hshort (Nat.not_lt_zero _)
    · exact .short hblock hcount.declares hcount.length_le hdry hshort
  | @whole raw bytes t u head framing hblock hc hbody hlen =>
    obtain ⟨hp, -, ⟨rfl, hnone⟩ | hcount⟩ := check_eq_ok hc
    · obtain rfl := List.length_eq_zero_iff.mp hlen
      cases hbody
      exact .bare hblock hp hnone
    · have hd : Declares (textOf raw) bytes.length := hlen ▸ hcount.declares
      have hle : bytes.length ≤ limits.maxBodySize := hlen ▸ hcount.length_le
      cases hb : framing.bodyOf bytes with
      | ok body => exact .counted hblock hp hd hle hbody
      | error e =>
        obtain ⟨missing, rfl⟩ := exists_of_bodyOf_error hb
        exact .malformed hblock hd hle hbody

/-- **Every reading of a request is accounted for**: of several faults the first is reported, there is an
error only if there is a fault, and what has been taken from the stream is fixed by the outcome. -/
theorem readRequest_settles (s : Stream) (limits : Limits) :
    (∀ e, (s.readRequest limits).1 = .error e ↔ ∃ stage, IsFirst (Fault s limits) stage e) ∧
      Settles s limits (s.readRequest limits).1 (s.readRequest limits).2 :=
  ⟨fun _ => readRequest_eq_error_iff, (reading s limits).settles⟩

end FormCapture.Stream
