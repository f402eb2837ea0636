import FormCapture.Proofs.Header.Extent
import FormCapture.Proofs.Request.Declared

/-! # How a request is read

`Reading` is the one inversion of `Stream.readRequest`: each way in which it can end, with the bytes that
have been taken from the stream and the stream that is left. The header block is taken first; its text
alone decides whether a body is read and how long it is (`Header.check`); and either the body comes as a
whole or the stream runs dry before.

An accepted request is one whose block and body both come (`readRequest_eq_ok_iff`). -/

namespace FormCapture

open Header

/-! ### Bodies -/

namespace Framing

/-- How many bytes the body is declared to have. -/
def length : Framing → Nat
  | none => 0
  | text length => length
  | multipart length _ => length

/-- The body that some bytes make up. -/
def bodyOf : Framing → Bytes → Except Error Body
  | none, _ => .ok .none
  | text _, bytes => .ok (.text (Utf8.decodeLossy bytes))
  | multipart _ boundary, bytes =>
    (Multipart.transcode .linear bytes boundary).map (.multipart boundary)

/-- A body with this framing can be read: its boundary can be used. -/
def IsUsable : Framing → Prop
  | multipart _ boundary => Multipart.usable boundary = .ok ()
  | none | text _ => True

end Framing

/-- What is known of a body that is counted: its length is declared and within the limit, and it is in
parts exactly if a boundary is declared, which is then its own. -/
structure Header.Counted (limits : Limits) (block : Text) (framing : Framing) : Prop where
  declares : Declares block framing.length
  length_le : framing.length ≤ limits.maxBodySize
  boundary_iff : ∀ boundary,
    DeclaresBoundary block boundary ↔ framing = .multipart framing.length boundary
  not_refuses : ∀ boundary, ¬ RefusesBoundary block boundary

/-- What is known once no check of the header block has failed. -/
theorem Header.check_eq_ok {limits : Limits} {block : Text} {head : Head} {framing : Framing}
    (h : check limits block = .ok (head, framing)) :
    Parsed block head ∧ ¬ IsChunked block ∧
      (framing = .none ∧ value? block "content-length" = none ∨ Counted limits block framing) := by
  have hc := checked limits block
  rw [h] at hc
  cases hc with
  | bare hp hchunk hnone => exact ⟨hp, hchunk, Or.inl ⟨rfl, hnone⟩⟩
  | text hp hchunk hd hn hb hr =>
    refine ⟨hp, hchunk, Or.inr ⟨hd, hn, fun b => ?_, hr⟩⟩
    exact ⟨fun h => absurd h (hb b), fun h => Framing.noConfusion h⟩
  | @multipart _ n b hp hchunk hd hn hb =>
    refine ⟨hp, hchunk, Or.inr ⟨hd, hn, fun c => ?_, fun c => hb.not_refuses⟩⟩
    constructor
    · intro hc
      rw [hb.unique hc]
      rfl
    · intro he
      cases he
      exact hb

theorem Header.isUsable_of_check {limits : Limits} {block : Text} {head : Head} {framing : Framing}
    (h : check limits block = .ok (head, framing)) : framing.IsUsable := by
  have hc := checked limits block
  rw [h] at hc
  cases hc with
  | bare => trivial
  | text => trivial
  | multipart _ _ _ _ hb => exact hb.usable

/-- The text of a header block that came as these bytes. -/
def Header.textOf (raw : Bytes) : Text := Utf8.decodeLossy (kept raw)

namespace Stream

section Bodies

variable {s t : Stream} {bytes : Bytes} {framing : Framing}

theorem readExactly_of_gives (h : Gives s bytes t) : s.readExactly bytes.length = (.ok bytes, t) := by
  rw [readExactly, h.readUpTo]
  simp only [Nat.lt_irrefl, if_false]

theorem readExactly_of_runsDry {n : Nat} (h : RunsDry s bytes t) (hn : bytes.length < n) :
    s.readExactly n = (.error (.shortRead n bytes.length), t) := by
  rw [readExactly, h.readUpTo hn]
  simp only [if_pos hn]

/-- A body that comes as a whole is what its bytes make up. -/
theorem readBody_of_gives (hu : framing.IsUsable) (h : Gives s bytes t)
    (hn : bytes.length = framing.length) : s.readBody framing = (framing.bodyOf bytes, t) := by
  cases framing with
  | none =>
    obtain rfl := List.length_eq_zero_iff.mp hn
    cases h
    rfl
  | text length =>
    obtain rfl : bytes.length = length := hn
    rw [readBody, readPost, readExactly_of_gives h]
    rfl
  | multipart length boundary =>
    obtain rfl : bytes.length = length := hn
    have hu : Multipart.usable boundary = .ok () := hu
    rw [readBody, readMime, hu, readExactly_of_gives h]
    rfl

theorem readBody_of_runsDry (hu : framing.IsUsable) (h : RunsDry s bytes t)
    (hn : bytes.length < framing.length) :
    s.readBody framing = (.error (.shortRead framing.length bytes.length), t) := by
  cases framing with
  | none => exact absurd hn (Nat.not_lt_zero _)
  | text length =>
    have hn : bytes.length < length := hn
    rw [readBody, readPost, readExactly_of_runsDry h hn]
    rfl
  | multipart length boundary =>
    have hn : bytes.length < length := hn
    have hu : Multipart.usable boundary = .ok () := hu
    rw [readBody, readMime, hu, readExactly_of_runsDry h hn]
    rfl

end Bodies

/-! ### Requests -/

section Requests

variable {s t u : Stream} {limits : Limits} {raw bytes : Bytes}

theorem HeadBlock.readHeadersUpTo_eq {limit : Nat} (h : HeadBlock s (some limit) raw t) :
    s.readHeadersUpTo limit = (.ok (textOf raw), t) := by
  rw [readHeadersUpTo, h.collectBlock_eq]
  rfl

theorem HeadBlock.readHeaders_eq {limit : Option Nat} (h : HeadBlock s limit raw t) :
    s.readHeaders = (some (textOf raw), t) := by
  rw [readHeaders, h.unlimited.collectBlock_eq]
  rfl

/-- What is left to do once the header block has been read. -/
theorem HeadBlock.readRequest_eq (h : HeadBlock s (some limits.maxHeaderSize) raw t) :
    s.readRequest limits =
      match check limits (textOf raw) with
      | .error e => (.error e, t)
      | .ok (head, framing) =>
        ((t.readBody framing).1.map (Request.mk head), (t.readBody framing).2) := by
  rw [readRequest, h.readHeadersUpTo_eq]
  rfl

/-- **How the reading of a request can end**, and what has been taken from the stream then. -/
inductive Reading (s : Stream) (limits : Limits) : Except Error Request → Stream → Prop
  | exhausted {raw : Bytes} {t : Stream} :
      RunsDry s raw t → IsOpen raw → Fits (some limits.maxHeaderSize) raw →
      Reading s limits (.error .connectionClosed) t
  | oversized {raw : Bytes} {b : UInt8} {t : Stream} :
      Gives s (raw ++ [b]) t → b ≠ Bytes.cr → IsOpen raw → (kept raw).length = limits.maxHeaderSize →
      Reading s limits (.error (.headersTooLarge limits.maxHeaderSize)) t
  | refused {raw : Bytes} {t : Stream} {e : Error} :
      HeadBlock s (some limits.maxHeaderSize) raw t → check limits (textOf raw) = .error e →
      Reading s limits (.error e) t
  | short {raw bytes : Bytes} {t u : Stream} {head : Head} {framing : Framing} :
      HeadBlock s (some limits.maxHeaderSize) raw t →
      check limits (textOf raw) = .ok (head, framing) →
      RunsDry t bytes u → bytes.length < framing.length →
      Reading s limits (.error (.shortRead framing.length bytes.length)) u
  | whole {raw bytes : Bytes} {t u : Stream} {head : Head} {framing : Framing} :
      HeadBlock s (some limits.maxHeaderSize) raw t →
      check limits (textOf raw) = .ok (head, framing) →
      Gives t bytes u → bytes.length = framing.length →
      Reading s limits ((framing.bodyOf bytes).map (Request.mk head)) u

theorem readRequest_of_gives {head : Head} {framing : Framing}
    (h : HeadBlock s (some limits.maxHeaderSize) raw t)
    (hc : check limits (textOf raw) = .ok (head, framing)) (hbody : Gives t bytes u)
    (hn : bytes.length = framing.length) :
    s.readRequest limits = ((framing.bodyOf bytes).map (Request.mk head), u) := by
  rw [h.readRequest_eq, hc]
  simp only [readBody_of_gives (isUsable_of_check hc) hbody hn]

theorem reading (s : Stream) (limits : Limits) :
    Reading s limits (s.readRequest limits).1 (s.readRequest limits).2 := by
  rcases hb : s.collectBlock [] (some limits.maxHeaderSize) 0 with ⟨outcome, t⟩
  cases collected hb with
  | exhausted hdry hopen hfits =>
    rw [readRequest, readHeadersUpTo, hb]
    exact .exhausted hdry hopen hfits
  | oversized hu hcr hopen hlimit =>
    rw [readRequest, readHeadersUpTo, hb]
    exact .oversized hu hcr hopen (Option.some.inj hlimit).symm
  | @complete raw t h =>
    cases hc : check limits (textOf raw) with
    | error e =>
      rw [h.readRequest_eq, hc]
      exact .refused h hc
    | ok framed =>
      obtain ⟨head, framing⟩ := framed
      rcases t.gives_or_runsDry framing.length with ⟨bytes, u, hn, hbody⟩ | ⟨bytes, u, hn, hdry⟩
      · rw [readRequest_of_gives h hc hbody hn]
        exact .whole h hc hbody hn
      · rw [h.readRequest_eq, hc]
        simp only [readBody_of_runsDry (isUsable_of_check hc) hdry hn]
        exact .short h hc hdry hn

/-- **An accepted request** is a header block that passes the checks and a body that comes as a whole. -/
theorem readRequest_eq_ok_iff {request : Request} :
    s.readRequest limits = (.ok request, u) ↔
      ∃ raw t framing bytes, HeadBlock s (some limits.maxHeaderSize) raw t ∧
        check limits (textOf raw) = .ok (request.head, framing) ∧
        Gives t bytes u ∧ bytes.length = framing.length ∧
        framing.bodyOf bytes = .ok request.body := by
  constructor
  · intro h
    have hr := reading s limits
    rw [h] at hr
    generalize ha : (Except.ok request : Except Error Request) = answer at hr
    cases hr with
    | exhausted => cases ha
    | oversized => cases ha
    | refused => cases ha
    | short => cases ha
    | @whole raw bytes t u head framing hblock hc hbody hn =>
      cases hb : framing.bodyOf bytes with
      | error e =>
        rw [hb] at ha
        cases ha
      | ok body =>
        rw [hb] at ha
        cases ha
        exact ⟨raw, t, framing, bytes, hblock, hc, hbody, hn, hb⟩
  · rintro ⟨raw, t, framing, bytes, hblock, hc, hbody, hn, hb⟩
    rw [readRequest_of_gives hblock hc hbody hn, hb]
    rfl

end Requests

end Stream

end FormCapture
