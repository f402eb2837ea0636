import FormCapture.Proofs.Number.Numeral
import FormCapture.Proofs.Request.Lines

/-! # The length of a body

A header block may try to say more than once, or in two ways, how long its body is. A length that is given
twice is refused because the values of a repeated field are joined by a comma, and no numeral holds one
(`not_denotes_join`); a chunked transfer coding is refused because it is found in whatever it is joined
with (`isChunked_of_given`). So an ambiguous block is refused (`check_of_isAmbiguous`), and the body of a
request that is accepted is what its one length says (`Measures`): `readRequest_length`. -/

namespace FormCapture

namespace Header

/-! ### What the lines give -/

/-- The lines of a block that may hold fields: those behind the first, up to the first that is white. -/
def countedLines (block : Text) : List Text := counted (Text.lines block).tail

/-- The values that lines give a field: what stands behind the first colon of each line that has the name
before it, in any letter case. -/
def given (name : String) (lines : List Text) : List Text :=
  lines.filterMap fun line =>
    match Text.splitOnce ':' line with
    | some (key, value) => if key.trim.lower = name.toList then some value.trim else none
    | none => none

theorem values_fieldsOfLines (lines : List Text) (name : String) :
    (Head.fieldsOfLines lines).values name.toList = given name (counted lines) := by
  rw [fieldsOfLines_eq, Fields.values, List.filterMap_filterMap, given]
  refine List.filterMap_congr fun line _ => ?_
  rw [fieldOfLine?_trim, Head.fieldOfLine?]
  cases Text.splitOnce ':' line with
  | none => rfl
  | some cut => rfl

/-- The value of a field is made of those that the lines give it. -/
theorem value?_eq (block : Text) (name : String) :
    value? block name =
      match given name (countedLines block) with
      | [] => none
      | values => some (Fields.join values) := by
  rw [value?, Fields.get?, values_fieldsOfLines]
  rfl

theorem value?_eq_none_iff {block : Text} {name : String} :
    value? block name = none ↔ given name (countedLines block) = [] := by
  rw [value?_eq]
  cases given name (countedLines block) <;> simp

theorem value?_of_ne_nil {block : Text} {name : String} (h : given name (countedLines block) ≠ []) :
    value? block name = some (Fields.join (given name (countedLines block))) := by
  rw [value?_eq]
  cases hg : given name (countedLines block) with
  | nil => exact absurd hg h
  | cons => rfl

/-! ### More than one length -/

theorem comma_mem_join (first second : Text) (later : List Text) :
    ',' ∈ Fields.join (first :: second :: later) := by
  simp [Fields.join, Fields.joint, List.intercalate]

/-- **Two values joined are no numeral**, whatever each of them is. -/
theorem not_denotes_join {values : List Text} (h : 2 ≤ values.length) (n : Nat) :
    ¬ Numeral.Denotes (Fields.join values) n := by
  intro hn
  match values, h with
  | first :: second :: later, _ =>
    exact hn.not_mem (by decide) (by decide) (comma_mem_join first second later)

theorem not_declares_of_twice {block : Text}
    (h : 2 ≤ (given "content-length" (countedLines block)).length) (n : Nat) : ¬ Declares block n := by
  rintro ⟨text, htext, hn⟩
  have hne : given "content-length" (countedLines block) ≠ [] := by
    intro he
    rw [he] at h
    exact absurd h (by decide)
  rw [LengthText, value?_of_ne_nil hne] at htext
  cases htext
  exact not_denotes_join h n (Numeral.unsigned?_eq_some_iff.mp hn).1

theorem isChunked_of_given {block word : Text}
    (hword : word <:+: Fields.join (given "transfer-encoding" (countedLines block)))
    (hchunked : word.lower = "chunked".toList) : IsChunked block := by
  have hne : given "transfer-encoding" (countedLines block) ≠ [] := by
    intro he
    rw [he] at hword
    have hnil : word = [] := List.infix_nil.mp hword
    subst hnil
    cases hchunked
  refine ⟨_, value?_of_ne_nil hne, Text.occurs_iff.mpr ?_⟩
  exact Text.infix_lower (by decide) (by decide) (hchunked ▸ List.infix_rfl) hword

/-- **The block says in more than one way how long its body is**: it gives two lengths or more, or a
transfer coding with `chunked` in it, in any letter case. -/
def IsAmbiguous (block : Text) : Prop :=
  2 ≤ (given "content-length" (countedLines block)).length ∨
    ∃ word : Text, word <:+: Fields.join (given "transfer-encoding" (countedLines block)) ∧
      word.lower = "chunked".toList

theorem check_of_isAmbiguous {block : Text} (h : IsAmbiguous block) (limits : Limits) :
    check limits block = .error .badRequest := by
  have hframed : IsChunked block ∨ value? block "content-length" ≠ none ∧ ∀ n, ¬ Declares block n := by
    rcases h with htwice | ⟨word, hword, hchunked⟩
    · refine Or.inr ⟨fun hnone => ?_, not_declares_of_twice htwice⟩
      rw [value?_eq_none_iff.mp hnone] at htwice
      exact absurd htwice (by decide)
    · exact Or.inl (isChunked_of_given hword hchunked)
  have hc := checked limits block
  generalize check limits block = answer at hc ⊢
  cases hc with
  | noRequestLine | chunked | noLength => rfl
  | tooLarge _ hchunk hd =>
    exact (hframed.elim hchunk fun hno => hno.2 _ hd).elim
  | badBoundary _ hchunk hd =>
    exact (hframed.elim hchunk fun hno => hno.2 _ hd).elim
  | bare _ hchunk hnone =>
    exact (hframed.elim hchunk fun hno => hno.1 hnone).elim
  | text _ hchunk hd =>
    exact (hframed.elim hchunk fun hno => hno.2 _ hd).elim
  | multipart _ hchunk hd =>
    exact (hframed.elim hchunk fun hno => hno.2 _ hd).elim

/-! ### One length, or none -/

/-- A length that is declared is the one that is given. -/
theorem given_of_declares {block : Text} {n : Nat} (h : Declares block n) :
    ∃ text, given "content-length" (countedLines block) = [text] ∧ Numeral.Denotes text n ∧
      n < UInt64.size := by
  obtain ⟨text, htext, hn⟩ := h
  obtain ⟨hdenotes, hle⟩ := Numeral.unsigned?_eq_some_iff.mp hn
  rw [LengthText, value?_eq] at htext
  rcases hgiven : given "content-length" (countedLines block) with _ | ⟨only, _ | ⟨second, later⟩⟩
  · rw [hgiven] at htext
    cases htext
  · rw [hgiven] at htext
    have hjoin : Fields.join [only] = only := by simp [Fields.join]
    obtain rfl : only = text := hjoin.symm.trans (Option.some.inj htext)
    exact ⟨only, rfl, hdenotes, Nat.lt_of_le_of_lt hle (by decide)⟩
  · rw [hgiven] at htext
    cases htext
    exact absurd hdenotes (not_denotes_join (by simp) n)

/-- The body is made of these bytes. -/
def IsMadeOf (bytes : Bytes) : Body → Prop
  | .none => False
  | .text content => content = Utf8.decodeLossy bytes
  | .multipart boundary content => Multipart.transcode .linear bytes boundary = .ok content

/-- **How a body is measured**: `t` is the stream right behind the header block, `u` the stream when the
body has been read. -/
inductive Measures (limits : Limits) (block : Text) (t : Stream) : Body → Stream → Prop
  | bare : given "content-length" (countedLines block) = [] → Measures limits block t .none t
  | counted {text : Text} {bytes : Bytes} {body : Body} {u : Stream} :
      given "content-length" (countedLines block) = [text] → Numeral.Denotes text bytes.length →
      bytes.length < UInt64.size → bytes.length ≤ limits.maxBodySize → Stream.Gives t bytes u →
      IsMadeOf bytes body → Measures limits block t body u

/-- A body is left out only if no length is declared. -/
theorem value?_of_check_bare {limits : Limits} {block : Text} {head : Head}
    (h : check limits block = .ok (head, .none)) : value? block "content-length" = none := by
  have hc := checked limits block
  rw [h] at hc
  cases hc with
  | bare _ _ hnone => exact hnone

theorem isMadeOf_of_bodyOf {framing : Framing} {bytes : Bytes} {body : Body}
    (hcounted : framing ≠ .none) (h : framing.bodyOf bytes = .ok body) : IsMadeOf bytes body := by
  cases framing with
  | none => exact absurd rfl hcounted
  | text length =>
    cases h
    rfl
  | multipart length boundary =>
    rw [Framing.bodyOf] at h
    cases ht : Multipart.transcode .linear bytes boundary with
    | error e =>
      rw [ht] at h
      cases h
    | ok content =>
      rw [ht] at h
      cases h
      exact ht

end Header

namespace Stream

open Header

/-- **The length of a body is never ambiguous.** A block that says it in more than one way is refused,
whatever else it says and whatever the limits are; the body of an accepted request is made of as many of
the bytes that follow as its one length says, and of none if there is no length. -/
theorem readRequest_length (s : Stream) (limits : Limits) :
    (∀ raw t, HeadBlock s (some limits.maxHeaderSize) raw t → IsAmbiguous (textOf raw) →
      s.readRequest limits = (.error .badRequest, t)) ∧
    ∀ request u, s.readRequest limits = (.ok request, u) →
      ∃ raw t, HeadBlock s (some limits.maxHeaderSize) raw t ∧ request.head.raw = textOf raw ∧
        ¬ IsAmbiguous (textOf raw) ∧ Measures limits (textOf raw) t request.body u := by
  constructor
  · intro raw t hblock hambiguous
    rw [hblock.readRequest_eq, check_of_isAmbiguous hambiguous]
  · intro request u hread
    obtain ⟨raw, t, framing, bytes, hblock, hcheck, hbody, hlen, hmade⟩ :=
      readRequest_eq_ok_iff.mp hread
    obtain ⟨hparsed, -, hframing⟩ := check_eq_ok hcheck
    refine ⟨raw, t, hblock, hparsed.raw, fun hambiguous => ?_, ?_⟩
    · rw [check_of_isAmbiguous hambiguous] at hcheck
      cases hcheck
    rcases hframing with ⟨rfl, hnone⟩ | hcounted
    · obtain rfl := List.length_eq_zero_iff.mp hlen
      cases hbody
      have hbare : request.body = .none := (Except.ok.inj hmade).symm
      rw [hbare]
      exact .bare (value?_eq_none_iff.mp hnone)
    · have hdeclares : Declares (textOf raw) bytes.length := hlen ▸ hcounted.declares
      obtain ⟨text, hgiven, hdenotes, hlt⟩ := given_of_declares hdeclares
      refine .counted hgiven hdenotes hlt (hlen ▸ hcounted.length_le) hbody ?_
      refine isMadeOf_of_bodyOf ?_ hmade
      rintro rfl
      exact not_declares (value?_of_check_bare hcheck) hdeclares

/-- A request whose second length is spelled in another way and says the same. -/
def twiceRequest : Bytes :=
  Bytes.ofAscii "POST / HTTP/1.1\r\nContent-Length: 1\r\nA: b\r\ncontent-LENGTH : +1\r\n\r\nx"

/-- A request with one length, and a byte behind its body. -/
def onceRequest : Bytes :=
  Bytes.ofAscii "PUT / HTTP/1.1\r\nContent-Length: +03\r\n\r\nabcd"

theorem readRequest_length_samples :
    (∃ block, given "content-length" (countedLines block) = ["1".toList, "+1".toList] ∧
        ((openOn (.ofBytes twiceRequest)).readHeadersUpTo 8192).1 = .ok block ∧
        ((openOn (.ofBytes twiceRequest)).readRequest {}).1 = .error .badRequest) ∧
      ∃ request block t u, ((openOn (.ofBytes onceRequest)).readRequest {}) = (.ok request, u) ∧
        Measures {} block t request.body u ∧ request.body = .text "abc".toList ∧
        u.remaining = Bytes.ofAscii "d" := by
  constructor
  · have hcollect : ((openOn (.ofBytes twiceRequest)).collectBlock [] (some 8192) 0).1 =
        .complete (Bytes.ofAscii
          "POST / HTTP/1.1\nContent-Length: 1\nA: b\ncontent-LENGTH : +1\n\n") := by decide +kernel
    obtain ⟨raw, hblock, hkept⟩ := exists_headBlock (Prod.ext hcollect rfl)
    have hgiven : given "content-length" (countedLines (textOf raw)) =
        ["1".toList, "+1".toList] := by
      rw [textOf, hkept]
      decide +kernel
    refine ⟨textOf raw, hgiven, congrArg Prod.fst hblock.readHeadersUpTo_eq, ?_⟩
    have hambiguous : IsAmbiguous (textOf raw) := Or.inl (by rw [hgiven]; decide)
    exact congrArg Prod.fst
      ((readRequest_length (openOn (.ofBytes twiceRequest)) {}).1 raw _ hblock hambiguous)
  · have hread : ((openOn (.ofBytes onceRequest)).readRequest {}).1 =
        .ok ⟨⟨"PUT".toList, "/".toList, "HTTP/1.1".toList,
          ⟨[("content-length".toList, "+03".toList)]⟩,
          "PUT / HTTP/1.1\nContent-Length: +03\n\n".toList⟩, .text "abc".toList⟩ := by
      decide +kernel
    have hwhole : (openOn (.ofBytes onceRequest)).readRequest {} = (.ok _, _) := Prod.ext hread rfl
    obtain ⟨raw, t, -, -, -, hmeasures⟩ :=
      (readRequest_length (openOn (.ofBytes onceRequest)) {}).2 _ _ hwhole
    exact ⟨_, _, t, _, hwhole, hmeasures, rfl, by decide +kernel⟩

end Stream

end FormCapture
