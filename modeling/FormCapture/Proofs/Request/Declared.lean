import FormCapture.Request.Basic
import Mathlib.Tactic.Common

/-! # What a header block declares

What the text of a header block says about the request, each statement on its own: whether it has a
request line, whether a transfer coding is chunked, what length and what boundary it declares. The
fields count whatever the request line is, so several faults can be stated of one block.

`checked` is the one inversion of the checks that stand between a header block and its body: it lists
what is known when a check fails, and when none does. -/

namespace FormCapture

namespace Header

/-- The value that a block gives a field, whatever its request line is. -/
def value? (block : Text) (name : String) : Option Text :=
  (Head.fieldsOfLines (Text.lines block).tail).get? name.toList

/-- The first line is three words, the last of which names a version 1 of the protocol. -/
def HasRequestLine (block : Text) : Prop :=
  ∃ line later method target version, Text.lines block = line :: later ∧
    Text.words line = [method, target, version] ∧ Head.versionMark <+: version

/-- The transfer coding is chunked, in any letter case. -/
def IsChunked (block : Text) : Prop :=
  ∃ coding, value? block "transfer-encoding" = some coding ∧
    Text.occurs "chunked".toList coding.lower = true

/-- The text that declares the length of the body. -/
def LengthText (block text : Text) : Prop := value? block "content-length" = some text

/-- A length is declared for the body, and it is this number. -/
def Declares (block : Text) (n : Nat) : Prop :=
  ∃ text, LengthText block text ∧ Numeral.unsigned? Numeral.max64 text = some n

/-- The type of the body is that of a form in parts, with this boundary. -/
def DeclaresBoundary (block boundary : Text) : Prop :=
  ∃ type, value? block "content-type" = some type ∧
    Multipart.ofContentType type = .ok (some boundary)

/-- The type of the body is that of a form in parts, but its boundary is missing or not valid. -/
def RefusesBoundary (block boundary : Text) : Prop :=
  ∃ type, value? block "content-type" = some type ∧
    Multipart.ofContentType type = .error (.invalidBoundary boundary)

theorem Declares.unique {block : Text} {m n : Nat} (h : Declares block m) (h' : Declares block n) :
    m = n := by
  obtain ⟨text, ht, hm⟩ := h
  obtain ⟨text', ht', hn⟩ := h'
  rw [LengthText, ht] at ht'
  cases ht'
  rw [hm] at hn
  exact Option.some.inj hn

theorem DeclaresBoundary.unique {block b c : Text} (h : DeclaresBoundary block b)
    (h' : DeclaresBoundary block c) : b = c := by
  obtain ⟨type, ht, hb⟩ := h
  obtain ⟨type', ht', hc⟩ := h'
  rw [ht] at ht'
  cases ht'
  rw [hb] at hc
  cases hc
  rfl

theorem DeclaresBoundary.not_refuses {block boundary other : Text}
    (h : DeclaresBoundary block boundary) : ¬ RefusesBoundary block other := by
  rintro ⟨type, ht, he⟩
  obtain ⟨type', ht', hb⟩ := h
  rw [ht] at ht'
  cases ht'
  rw [he] at hb
  cases hb

theorem not_lengthText {block text : Text} (hnone : value? block "content-length" = none) :
    ¬ LengthText block text := by
  intro h
  rw [LengthText, hnone] at h
  cases h

theorem not_declares {block : Text} {n : Nat} (hnone : value? block "content-length" = none) :
    ¬ Declares block n :=
  fun ⟨_, htext, _⟩ => not_lengthText hnone htext

/-! ### Boundaries -/

theorem exists_of_ofContentType_error {type : Text} {e : Error}
    (h : Multipart.ofContentType type = .error e) : ∃ boundary, e = .invalidBoundary boundary := by
  unfold Multipart.ofContentType at h
  split at h
  · split at h
    · cases h
      exact ⟨[], rfl⟩
    · next boundary _ =>
      unfold Multipart.validate at h
      split at h
      · cases h
      · cases h
        exact ⟨boundary, rfl⟩
  · cases h

theorem isValid_of_ofContentType {type boundary : Text}
    (h : Multipart.ofContentType type = .ok (some boundary)) : Multipart.isValid boundary = true := by
  unfold Multipart.ofContentType at h
  split at h
  · split at h
    · cases h
    · unfold Multipart.validate at h
      split at h
      · next hvalid =>
        cases h
        exact hvalid
      · cases h
  · cases h

/-- A boundary that may be declared can be used: it is not empty and fits on a line. -/
theorem usable_of_isValid {boundary : Text} (h : Multipart.isValid boundary = true) :
    Multipart.usable boundary = .ok () := by
  unfold Multipart.isValid at h
  simp only [Bool.and_eq_true, Bool.not_eq_true', List.all_eq_true] at h
  obtain ⟨⟨⟨hne, -⟩, -⟩, hall⟩ := h
  have hline : boundary.any (fun c => c == '\r' || c == '\n') = false := by
    rw [List.any_eq_false]
    intro c hc hbad
    have hchar := hall c hc
    have hcr : Multipart.isBoundaryChar '\r' = false := by decide
    have hlf : Multipart.isBoundaryChar '\n' = false := by decide
    rw [Bool.or_eq_true, beq_iff_eq, beq_iff_eq] at hbad
    rcases hbad with rfl | rfl
    · rw [hcr] at hchar
      cases hchar
    · rw [hlf] at hchar
      cases hchar
  rw [Multipart.usable, hne, hline]
  rfl

theorem DeclaresBoundary.usable {block boundary : Text} (h : DeclaresBoundary block boundary) :
    Multipart.usable boundary = .ok () := by
  obtain ⟨type, -, hb⟩ := h
  exact usable_of_isValid (isValid_of_ofContentType hb)

/-! ### Heads -/

/-- The head is the one that the block was parsed into. -/
structure Parsed (block : Text) (head : Head) : Prop where
  parse : Head.parse block = .ok head
  fields : head.fields = Head.fieldsOfLines (Text.lines block).tail
  raw : head.raw = block

theorem parse_of_hasRequestLine {block : Text} (h : HasRequestLine block) :
    ∃ head, Parsed block head := by
  obtain ⟨line, later, method, target, version, hlines, hwords, hversion⟩ := h
  refine ⟨⟨method, target, version, Head.fieldsOfLines later, block⟩, ?_, ?_, rfl⟩
  · rw [Head.parse, hlines]
    simp only [hwords]
    rw [if_pos (List.isPrefixOf_iff_prefix.mpr hversion)]
  · rw [hlines]
    rfl

theorem parse_of_not_hasRequestLine {block : Text} (h : ¬ HasRequestLine block) :
    Head.parse block = .error .badRequest := by
  unfold Head.parse
  split
  · rfl
  · next line later hlines =>
    split
    · next method target version hwords =>
      split
      · next hversion =>
        exact absurd ⟨line, later, method, target, version, hlines, hwords,
          List.isPrefixOf_iff_prefix.mp hversion⟩ h
      · rfl
    · rfl

theorem hasRequestLine_of_parse {block : Text} {head : Head} (h : Head.parse block = .ok head) :
    HasRequestLine block := by
  by_contra hnot
  rw [parse_of_not_hasRequestLine hnot] at h
  cases h

theorem parsed_of_parse {block : Text} {head : Head} (h : Head.parse block = .ok head) :
    Parsed block head := by
  obtain ⟨other, hother⟩ := parse_of_hasRequestLine (hasRequestLine_of_parse h)
  have he := hother.parse
  rw [h] at he
  cases he
  exact hother

namespace Parsed

variable {block : Text} {head : Head}

/-- The names that requests are framed by are in small letters already. -/
theorem field?_eq (h : Parsed block head) (name : String)
    (hname : Text.lower name.toList = name.toList) : head.field? name.toList = value? block name := by
  rw [Head.field?, hname, h.fields, value?]

theorem isChunked_iff (h : Parsed block head) : head.isChunked = true ↔ IsChunked block := by
  have hfield := h.field?_eq "transfer-encoding" rfl
  rw [Head.isChunked, hfield, IsChunked]
  cases value? block "transfer-encoding" with
  | none => simp
  | some coding => simp

theorem contentLength_of_none (h : Parsed block head) (hn : value? block "content-length" = none) :
    head.contentLength = .ok none := by
  have hfield := h.field?_eq "content-length" rfl
  rw [Head.contentLength, hfield, hn]

theorem contentLength_of_lengthText (h : Parsed block head) {text : Text}
    (ht : LengthText block text) (hnone : Numeral.unsigned? Numeral.max64 text = none) :
    head.contentLength = .error .badRequest := by
  have hfield := h.field?_eq "content-length" rfl
  rw [Head.contentLength, hfield, ht]
  simp only [hnone]

theorem contentLength_of_declares (h : Parsed block head) {n : Nat} (hn : Declares block n) :
    head.contentLength = .ok (some n) := by
  obtain ⟨text, ht, hsome⟩ := hn
  have hfield := h.field?_eq "content-length" rfl
  rw [Head.contentLength, hfield, ht]
  simp only [hsome]

theorem boundary_eq (h : Parsed block head) :
    head.boundary = match value? block "content-type" with
      | none => .ok none
      | some type => Multipart.ofContentType type := by
  have hfield := h.field?_eq "content-type" rfl
  cases hvalue : value? block "content-type" with
  | none => rw [Head.boundary, hfield, hvalue]
  | some type => rw [Head.boundary, hfield, hvalue]

end Parsed

/-! ### The checks in order -/

/-- The checks between a header block and its body: the head and how the body is framed. -/
def check (limits : Limits) (block : Text) : Except Error (Head × Framing) :=
  (Head.parse block).bind fun head => (Framing.ofHead head limits).map (head, ·)

/-- **What the checks of a header block can answer**, with all that is known then. -/
inductive Checked (limits : Limits) (block : Text) : Except Error (Head × Framing) → Prop
  | noRequestLine : ¬ HasRequestLine block → Checked limits block (.error .badRequest)
  | chunked : HasRequestLine block → IsChunked block → Checked limits block (.error .badRequest)
  | noLength {text : Text} :
      HasRequestLine block → ¬ IsChunked block → LengthText block text →
      Numeral.unsigned? Numeral.max64 text = none → Checked limits block (.error .badRequest)
  | tooLarge {n : Nat} :
      HasRequestLine block → ¬ IsChunked block → Declares block n → limits.maxBodySize < n →
      Checked limits block (.error (.payloadTooLarge limits.maxBodySize))
  | badBoundary {n : Nat} {boundary : Text} :
      HasRequestLine block → ¬ IsChunked block → Declares block n → n ≤ limits.maxBodySize →
      RefusesBoundary block boundary → Checked limits block (.error (.invalidBoundary boundary))
  | bare {head : Head} :
      Parsed block head → ¬ IsChunked block → value? block "content-length" = none →
      Checked limits block (.ok (head, .none))
  | text {head : Head} {n : Nat} :
      Parsed block head → ¬ IsChunked block → Declares block n → n ≤ limits.maxBodySize →
      (∀ boundary, ¬ DeclaresBoundary block boundary) →
      (∀ boundary, ¬ RefusesBoundary block boundary) →
      Checked limits block (.ok (head, .text n))
  | multipart {head : Head} {n : Nat} {boundary : Text} :
      Parsed block head → ¬ IsChunked block → Declares block n → n ≤ limits.maxBodySize →
      DeclaresBoundary block boundary → Checked limits block (.ok (head, .multipart n boundary))

/-- The boundary is the last check. -/
theorem checked_boundary {limits : Limits} {block : Text} {head : Head} {n : Nat}
    (hp : Parsed block head) (hchunk : ¬ IsChunked block) (hd : Declares block n)
    (hn : n ≤ limits.maxBodySize) :
    Checked limits block (.map (head, ·) (match head.boundary with
      | .error e => .error e
      | .ok none => .ok (.text n)
      | .ok (some boundary) => .ok (.multipart n boundary))) := by
  have hnot : ∀ {answer : Except Error (Option Text)}, (∀ type, value? block "content-type" = some type →
      Multipart.ofContentType type ≠ answer) → ¬ ∃ type, value? block "content-type" = some type ∧
      Multipart.ofContentType type = answer :=
    fun h ⟨type, ht, ha⟩ => h type ht ha
  rw [hp.boundary_eq]
  cases ht : value? block "content-type" with
  | none =>
    refine .text hp hchunk hd hn (fun b => hnot ?_) (fun b => hnot ?_)
    · simp [ht]
    · simp [ht]
  | some type =>
    simp only
    cases hb : Multipart.ofContentType type with
    | error e =>
      obtain ⟨b, rfl⟩ := exists_of_ofContentType_error hb
      exact .badBoundary (hasRequestLine_of_parse hp.parse) hchunk hd hn ⟨type, ht, hb⟩
    | ok answer =>
      cases answer with
      | none =>
        refine .text hp hchunk hd hn (fun b => hnot ?_) (fun b => hnot ?_)
        · simp [ht, hb]
        · simp [ht, hb]
      | some b => exact .multipart hp hchunk hd hn ⟨type, ht, hb⟩

theorem checked (limits : Limits) (block : Text) : Checked limits block (check limits block) := by
  by_cases hline : HasRequestLine block
  swap
  · rw [check, parse_of_not_hasRequestLine hline]
    exact .noRequestLine hline
  obtain ⟨head, hp⟩ := parse_of_hasRequestLine hline
  rw [check, hp.parse]
  show Checked limits block ((Framing.ofHead head limits).map (head, ·))
  unfold Framing.ofHead
  by_cases hchunk : IsChunked block
  · rw [if_pos (hp.isChunked_iff.mpr hchunk)]
    exact .chunked hline hchunk
  rw [if_neg (fun h => hchunk (hp.isChunked_iff.mp h))]
  cases htext : value? block "content-length" with
  | none =>
    rw [hp.contentLength_of_none htext]
    exact .bare hp hchunk htext
  | some text =>
    cases hnum : Numeral.unsigned? Numeral.max64 text with
    | none =>
      rw [hp.contentLength_of_lengthText htext hnum]
      exact .noLength hline hchunk htext hnum
    | some n =>
      have hd : Declares block n := ⟨text, htext, hnum⟩
      rw [hp.contentLength_of_declares hd]
      by_cases hlarge : limits.maxBodySize < n
      · simp only [if_pos hlarge]
        exact .tooLarge hline hchunk hd hlarge
      · simp only [if_neg hlarge]
        exact checked_boundary hp hchunk hd (Nat.le_of_not_lt hlarge)

end Header

end FormCapture
