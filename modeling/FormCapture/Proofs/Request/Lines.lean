import FormCapture.Proofs.Request.Reading
import FormCapture.Proofs.Text.Parts
import FormCapture.Proofs.Text.Utf8

/-! # The lines of a header block

The end of a header block is found twice: the collection of a block stops at two line feeds in a row, the
parser of its text at the first line of nothing but white space. The text of a block consists of lines
none of which is empty after the first, up to the one that ends it (`IsBlock.hasLines`), so the two agree
as long as no line is made of white space only. All lines before such a line count for the head
(`represents_of_counted`) and none behind it does (`fieldsOfLines_white`); that is `readHeadersUpTo_lines`,
and `readRequest_whiteLine` is a request whose length is passed over. -/

namespace FormCapture

namespace Header

open Bytes (cr lf)

/-! ### The lines of a block -/

/-- The lines of the text of a block: the first, those behind it, none of them empty, and the blank one
that ends the block. -/
structure HasLines (block first : Text) (later : List Text) : Prop where
  lines_eq : Text.lines block = first :: (later ++ [[]])
  ne_nil : ∀ line ∈ later, line ≠ []

/-- What stands behind the first line feed ends with its first blank line too, if it goes on with a line
that is not empty. -/
theorem blank_of_append {first rest : Bytes} {b : UInt8} (hb : b ≠ lf)
    (hend : blankLine <:+ first ++ lf :: b :: rest)
    (hfirst : ∀ front, front <+: first ++ lf :: b :: rest → blankLine <:+ front →
      front = first ++ lf :: b :: rest) :
    blankLine <:+ b :: rest ∧
      ∀ front, front <+: b :: rest → blankLine <:+ front → front = b :: rest := by
  constructor
  · have hrest : b :: rest <:+ first ++ lf :: b :: rest :=
      (List.suffix_cons lf (b :: rest)).trans (List.suffix_append first _)
    rcases List.suffix_or_suffix_of_suffix hend hrest with h | h
    · exact h
    · have hmem : b ∈ blankLine := h.subset List.mem_cons_self
      exact absurd (by simpa [blankLine] using hmem) hb
  · intro front hfront hblank
    have hlong := hfirst (first ++ lf :: front)
      ((List.prefix_append_right_inj first).mpr (List.cons_prefix_cons.mpr ⟨rfl, hfront⟩))
      (hblank.trans ((List.suffix_cons lf front).trans (List.suffix_append first _)))
    exact (List.cons.inj (List.append_cancel_left hlong)).2

/-- **Bytes that end with their first blank line, as lines.** The recursion takes off the first line. -/
theorem exists_lines {bytes : Bytes} (hend : blankLine <:+ bytes)
    (hfirst : ∀ front, front <+: bytes → blankLine <:+ front → front = bytes) :
    ∃ (first : Bytes) (later : List Bytes),
      bytes = first ++ lf :: (later.flatMap (· ++ [lf]) ++ [lf]) ∧ lf ∉ first ∧
        ∀ line ∈ later, line ≠ [] ∧ lf ∉ line := by
  have hmem : lf ∈ bytes := hend.subset (by simp [blankLine])
  obtain ⟨first, rest, hbytes, hlf⟩ := List.eq_append_cons_of_mem hmem
  rw [hbytes] at hend hfirst
  rcases rest with _ | ⟨b, rest⟩
  · obtain ⟨before, he⟩ := hend
    have hfeed : first = before ++ [lf] := by
      refine (List.append_cancel_right (?_ : before ++ [lf] ++ [lf] = first ++ [lf])).symm
      simpa [blankLine] using he
    exact absurd (hfeed ▸ List.mem_append_right before List.mem_cons_self) hlf
  by_cases hb : b = lf
  · subst hb
    have hwhole := hfirst (first ++ blankLine)
      ((List.prefix_append_right_inj first).mpr ⟨rest, rfl⟩) (List.suffix_append first _)
    exact ⟨first, [], hbytes.trans hwhole.symm, hlf, fun _ h => absurd h List.not_mem_nil⟩
  · obtain ⟨hend', hfirst'⟩ := blank_of_append hb hend hfirst
    have hshorter : (b :: rest).length < bytes.length := by
      simp only [hbytes, List.length_append, List.length_cons]
      omega
    obtain ⟨second, later, he, hlf', hlater⟩ := exists_lines hend' hfirst'
    have hsecond : second ≠ [] := by
      rintro rfl
      exact hb (List.cons.inj he).1
    refine ⟨first, second :: later, by rw [hbytes, he]; simp, hlf, ?_⟩
    exact List.forall_mem_cons.mpr ⟨⟨hsecond, hlf'⟩, hlater⟩
termination_by bytes.length

/-- The lines of the bytes are those of their text. -/
theorem lines_decodeLossy : ∀ {later : List Bytes} {first : Bytes},
    (∀ line ∈ first :: later, lf ∉ line ∧ cr ∉ line) →
    Text.lines (Utf8.decodeLossy (first ++ lf :: (later.flatMap (· ++ [lf]) ++ [lf]))) =
      Utf8.decodeLossy first :: (later.map Utf8.decodeLossy ++ [[]])
  | later, first, h => by
    obtain ⟨hlf, hcr⟩ := h first List.mem_cons_self
    have hlow : lf.toNat < 128 ∧ cr.toNat < 128 := by decide
    have hline : ∀ rest, Text.lines (Utf8.decodeLossy first ++ '\n' :: rest) =
        Utf8.decodeLossy first :: Text.lines rest :=
      Text.lines_append (Text.OnOneLine.isLine
        ⟨Utf8.not_mem_decodeLossy hlow.2 hcr, Utf8.not_mem_decodeLossy hlow.1 hlf⟩)
    rw [Utf8.decodeLossy_append_low hlow.1]
    refine (hline _).trans (congrArg _ ?_)
    match later with
    | [] =>
      rw [List.flatMap_nil, List.nil_append, Utf8.decodeLossy_low hlow.1, Utf8.decodeLossy_nil]
      exact Text.lines_newline
    | second :: later =>
      rw [List.flatMap_cons, List.append_assoc, List.append_assoc, List.singleton_append]
      exact lines_decodeLossy fun line hline => h line (List.mem_cons_of_mem first hline)

/-- **The text of a block as lines**: after the first, none is empty but the last. -/
theorem IsBlock.hasLines {raw : Bytes} (h : IsBlock raw) :
    ∃ first later, HasLines (textOf raw) first later := by
  obtain ⟨first, later, hbytes, hfirst, hlater⟩ := exists_lines h.endsBlank fun _ => h.eq_kept
  have hcr : cr ∉ kept raw := fun hmem => by simpa using (List.mem_filter.mp hmem).2
  have hline : ∀ line ∈ first :: later, lf ∉ line ∧ cr ∉ line := by
    intro line hline
    refine ⟨?_, fun hmem => hcr ?_⟩
    · rcases List.mem_cons.mp hline with rfl | hline
      · exact hfirst
      · exact (hlater line hline).2
    · rw [hbytes]
      rcases List.mem_cons.mp hline with rfl | hline
      · exact List.mem_append_left _ hmem
      · have hmem' : cr ∈ later.flatMap (· ++ [lf]) :=
          List.mem_flatMap.mpr ⟨line, hline, List.mem_append_left _ hmem⟩
        exact List.mem_append_right _ (List.mem_cons_of_mem lf (List.mem_append_left _ hmem'))
  have hlines : Text.lines (textOf raw) =
      Utf8.decodeLossy first :: (later.map Utf8.decodeLossy ++ [[]]) := by
    rw [textOf, hbytes]
    exact lines_decodeLossy hline
  refine ⟨Utf8.decodeLossy first, later.map Utf8.decodeLossy, hlines, ?_⟩
  intro line hmem
  obtain ⟨bytes, hbytes', rfl⟩ := List.mem_map.mp hmem
  obtain ⟨b, rest, rfl⟩ := List.exists_cons_of_ne_nil (hlater bytes hbytes').1
  rw [Utf8.decodeLossy_cons]
  exact List.cons_ne_nil _ _

/-! ### The lines that count -/

/-- A line of nothing but white space. -/
def IsWhite (line : Text) : Prop := ∀ c ∈ line, Text.isWhite c = true

instance (line : Text) : Decidable (IsWhite line) :=
  decidable_of_iff (line.all Text.isWhite = true) List.all_eq_true

theorem not_isWhite_of_mem {line : Text} {c : Char} (hc : c ∈ line) (hwhite : Text.isWhite c = false) :
    ¬ IsWhite line := by
  intro h
  rw [h c hc] at hwhite
  cases hwhite

/-- The lines before the first that is white. -/
def counted (lines : List Text) : List Text := lines.takeWhile fun line => !decide (IsWhite line)

theorem fieldsOfLines_eq (lines : List Text) :
    Head.fieldsOfLines lines = ⟨(counted lines).filterMap fun line => Head.fieldOfLine? line.trim⟩ := by
  have hwhite : ((fun line : Text => !line.isEmpty) ∘ Text.trim) =
      fun line => !decide (IsWhite line) := by
    funext line
    have : line.trim.isEmpty = decide (IsWhite line) :=
      Bool.eq_iff_iff.mpr (by rw [List.isEmpty_iff, decide_eq_true_iff, Text.trim_eq_nil, IsWhite])
    exact congrArg (!·) this
  rw [Head.fieldsOfLines, Head.fieldLines, List.takeWhile_map, hwhite, List.filterMap_map]
  rfl

theorem fieldsOfLines_counted (lines : List Text) :
    Head.fieldsOfLines (counted lines) = Head.fieldsOfLines lines := by
  rw [fieldsOfLines_eq, fieldsOfLines_eq, counted, counted, List.takeWhile_idem]

/-- Nothing behind a white line counts, nor the line itself. -/
theorem counted_white {before after : List Text} {line : Text} (h : IsWhite line) :
    counted (before ++ line :: after) = counted before := by
  have hstop : (line :: after).takeWhile (fun line => !decide (IsWhite line)) = [] :=
    List.takeWhile_cons_of_neg (by simp [h])
  rw [counted, counted, List.takeWhile_append, hstop]
  split
  · next hall => rw [List.append_nil, (List.takeWhile_prefix _).eq_of_length hall]
  · rfl

/-- **What stands behind a white line has no effect.** -/
theorem fieldsOfLines_white {before after : List Text} {line : Text} (h : IsWhite line) :
    Head.fieldsOfLines (before ++ line :: after) = Head.fieldsOfLines before := by
  rw [fieldsOfLines_eq, fieldsOfLines_eq, counted_white h]

/-- White space around a line does not matter to the field that it holds. -/
theorem fieldOfLine?_trim (line : Text) : Head.fieldOfLine? line.trim = Head.fieldOfLine? line := by
  cases hcut : Text.splitOnce ':' line with
  | none =>
    have hcolon : ':' ∉ line := Text.splitOnce_eq_none.mp hcut
    have htrim : Text.splitOnce ':' line.trim = none :=
      Text.splitOnce_eq_none.mpr fun h => hcolon (Text.trim_subset line h)
    rw [Head.fieldOfLine?, Head.fieldOfLine?, hcut, htrim]
  | some cut =>
    obtain ⟨name, value⟩ := cut
    rw [Head.fieldOfLine?, Head.fieldOfLine?, Text.splitOnce_trim (by decide) hcut, hcut]
    simp only [Option.map_some, Text.trim_trimStart, Text.trim_trimEnd]

/-- **A line without a colon has no effect** if it is not white. -/
theorem fieldsOfLines_no_colon {before after : List Text} {line : Text} (hwhite : ¬ IsWhite line)
    (hcolon : ':' ∉ line) :
    Head.fieldsOfLines (before ++ line :: after) = Head.fieldsOfLines (before ++ after) := by
  have hnone : Head.fieldOfLine? line.trim = none := by
    rw [fieldOfLine?_trim, Head.fieldOfLine?, Text.splitOnce_eq_none.mpr hcolon]
    rfl
  have hgo : (line :: after).takeWhile (fun line => !decide (IsWhite line)) =
      line :: after.takeWhile fun line => !decide (IsWhite line) :=
    List.takeWhile_cons_of_pos (by simp [hwhite])
  rw [fieldsOfLines_eq, fieldsOfLines_eq, counted, counted, List.takeWhile_append,
    List.takeWhile_append, hgo]
  split
  · rw [List.filterMap_append, List.filterMap_append, List.filterMap_cons, hnone]
  · rfl

/-- The field of a line has a value, and the value of the line is one of those that it is joined of. -/
def Represents (head : Head) (line : Text) : Prop :=
  ∀ name value, Text.splitOnce ':' line = some (name, value) →
    head.field? name.trim = some (Fields.join (head.fields.values name.trim.lower)) ∧
      value.trim ∈ head.fields.values name.trim.lower

theorem represents_of_counted {block : Text} {head : Head} (h : Parsed block head) {line : Text}
    (hline : line ∈ counted (Text.lines block).tail) : Represents head line := by
  intro name value hcut
  have hfield : Head.fieldOfLine? line.trim = some (name.trim.lower, value.trim) := by
    rw [fieldOfLine?_trim, Head.fieldOfLine?, hcut, Option.map_some]
  have hmem : (name.trim.lower, value.trim) ∈ head.fields.lines := by
    rw [h.fields, fieldsOfLines_eq]
    exact List.mem_filterMap.mpr ⟨line, hline, hfield⟩
  exact Fields.get?_of_mem hmem

/-! ### Lines that frame the body -/

section Framing

variable {head : Head} {line name value : Text}

/-- The names that requests are framed by are in small letters already. -/
theorem Represents.field?_eq (h : Represents head line)
    (hcut : Text.splitOnce ':' line = some (name, value)) {known : Text}
    (hname : name.trim.lower = known) (hknown : known.lower = known) :
    head.field? known = some (Fields.join (head.fields.values known)) ∧
      value.trim ∈ head.fields.values known := by
  obtain ⟨hget, hmem⟩ := h name value hcut
  rw [Head.field?, hname] at hget
  rw [Head.field?, hknown]
  exact ⟨hget, hname ▸ hmem⟩

/-- **A length that counts is not passed over.** -/
theorem contentLength_ne_none (h : Represents head line)
    (hcut : Text.splitOnce ':' line = some (name, value))
    (hname : name.trim.lower = "content-length".toList) : head.contentLength ≠ .ok none := by
  rw [Head.contentLength, (h.field?_eq hcut hname rfl).1]
  simp only
  split
  · rintro ⟨⟩
  · rintro ⟨⟩

/-- **A chunked transfer coding that counts is not passed over**, whatever it is joined with. -/
theorem isChunked_of_represents (h : Represents head line)
    (hcut : Text.splitOnce ':' line = some (name, value))
    (hname : name.trim.lower = "transfer-encoding".toList)
    (hvalue : Text.occurs "chunked".toList value.trim.lower = true) : head.isChunked = true := by
  obtain ⟨hfield, hmem⟩ := h.field?_eq hcut hname rfl
  rw [Head.isChunked, hfield]
  exact Text.occurs_iff.mpr
    (Text.infix_lower (by decide) (by decide) (Text.occurs_iff.mp hvalue) (Fields.infix_join hmem))

/-- What the line says of the body is not passed over when a request decides how its body is framed. -/
structure Frames (head : Head) (line : Text) : Prop where
  length : ∀ name value, Text.splitOnce ':' line = some (name, value) →
    name.trim.lower = "content-length".toList → ∀ limits, Framing.ofHead head limits ≠ .ok .none
  chunks : ∀ name value, Text.splitOnce ':' line = some (name, value) →
    name.trim.lower = "transfer-encoding".toList →
      Text.occurs "chunked".toList value.trim.lower = true →
        ∀ limits, Framing.ofHead head limits = .error .badRequest

theorem Represents.frames (h : Represents head line) : Frames head line where
  length := by
    intro name value hcut hname limits hframing
    have hlength := contentLength_ne_none h hcut hname
    unfold Framing.ofHead at hframing
    split at hframing
    · cases hframing
    · cases hdeclared : head.contentLength with
      | error e => simp [hdeclared] at hframing
      | ok declared =>
        cases declared with
        | none => exact hlength hdeclared
        | some length =>
          simp only [hdeclared] at hframing
          split at hframing
          · cases hframing
          · split at hframing <;> cases hframing
  chunks := by
    intro name value hcut hname hvalue limits
    rw [Framing.ofHead, if_pos (isChunked_of_represents h hcut hname hvalue)]

end Framing

end Header

namespace Stream

open Header

/-- **Which lines of a block count.** Those between the first and the blank line that ends the block, up to
the first that is white; all of them just if none is. A line that counts is represented, and what it says of
the body is not passed over. A line without a colon might as well be absent, unless it is white. -/
theorem readHeadersUpTo_lines {s t : Stream} {limit : Nat} {block : Text} {head : Head}
    (hread : s.readHeadersUpTo limit = (.ok block, t)) (hparse : Head.parse block = .ok head) :
    ∃ first later, HasLines block first later ∧
      head.fields = Head.fieldsOfLines (counted later) ∧
      (∀ line ∈ counted later, Represents head line) ∧
      (∀ line ∈ counted later, Frames head line) ∧
      (counted later = later ↔ ∀ line ∈ later, ¬ IsWhite line) ∧
      ∀ before line after, later = before ++ line :: after → ':' ∉ line → ¬ IsWhite line →
        head.fields = Head.fieldsOfLines (before ++ after) := by
  obtain ⟨raw, hraw, rfl⟩ : ∃ raw, IsBlock raw ∧ textOf raw = block := by
    unfold readHeadersUpTo at hread
    rcases hc : s.collectBlock [] (some limit) 0 with ⟨outcome, u⟩
    rw [hc] at hread
    cases collected hc with
    | @complete raw _ h =>
      cases hread
      exact ⟨raw, h.isBlock, rfl⟩
    | exhausted _ _ _ => cases hread
    | oversized _ _ _ _ => cases hread
  obtain ⟨first, later, hlines⟩ := hraw.hasLines
  have hparsed := parsed_of_parse hparse
  have htail : (Text.lines (textOf raw)).tail = later ++ [[]] := by
    rw [hlines.lines_eq, List.tail_cons]
  have hblank : IsWhite [] := fun _ h => absurd h List.not_mem_nil
  have hfields : head.fields = Head.fieldsOfLines later := by
    rw [hparsed.fields, htail, fieldsOfLines_white hblank]
  have hrepresents : ∀ line ∈ counted later, Represents head line := by
    intro line hline
    refine represents_of_counted hparsed ?_
    rw [htail, counted_white hblank]
    exact hline
  refine ⟨first, later, hlines, ?_, hrepresents, fun line hline => (hrepresents line hline).frames, ?_, ?_⟩
  · rw [hfields, fieldsOfLines_counted]
  · simp [counted, List.takeWhile_eq_self_iff]
  · rintro before line after rfl hcolon hwhite
    rw [hfields, fieldsOfLines_no_colon hwhite hcolon]

/-- A request with a line of white space between two fields. -/
def whiteLineRequest : Bytes :=
  Bytes.ofAscii "POST / HTTP/1.1\r\nA: b\r\n \r\nContent-Length: 5\r\n\r\nhello"

def whiteLineBlock : Text := "POST / HTTP/1.1\nA: b\n \nContent-Length: 5\n\n".toList

def whiteLineHead : Head :=
  { method := "POST".toList, target := "/".toList, version := "HTTP/1.1".toList,
    fields := ⟨[("a".toList, "b".toList)]⟩, raw := whiteLineBlock }

theorem readHeadersUpTo_lines_whiteLine :
    ((openOn (.ofBytes whiteLineRequest)).readHeadersUpTo 8192).1 = .ok whiteLineBlock ∧
      Head.parse whiteLineBlock = .ok whiteLineHead ∧
      ∃ first later, HasLines whiteLineBlock first later ∧
        later = ["A: b".toList, " ".toList, "Content-Length: 5".toList] ∧
        whiteLineHead.fields = Head.fieldsOfLines ["A: b".toList] ∧
        Represents whiteLineHead "A: b".toList := by
  have hread : ((openOn (.ofBytes whiteLineRequest)).readHeadersUpTo 8192).1 =
      .ok whiteLineBlock := by decide +kernel
  have hparse : Head.parse whiteLineBlock = .ok whiteLineHead := by decide +kernel
  obtain ⟨first, later, hlines, hfields, hcounted, -⟩ :=
    readHeadersUpTo_lines (Prod.ext hread rfl) hparse
  have hlater : later = ["A: b".toList, " ".toList, "Content-Length: 5".toList] := by
    have htext : Text.lines whiteLineBlock = "POST / HTTP/1.1".toList ::
        (["A: b".toList, " ".toList, "Content-Length: 5".toList] ++ [[]]) := by decide +kernel
    exact List.append_cancel_right (List.cons.inj (hlines.lines_eq.symm.trans htext)).2
  have hcount : counted later = ["A: b".toList] := by
    rw [hlater]
    decide +kernel
  rw [hcount] at hfields hcounted
  exact ⟨hread, hparse, first, later, hlines, hlater, hfields, hcounted _ List.mem_cons_self⟩

/-- **A length behind a white line is passed over.** The reader takes the whole block, the parser does not
get beyond the white line, and the body is left in the stream. -/
theorem readRequest_whiteLine :
    ((openOn (.ofBytes whiteLineRequest)).readHeadersUpTo 8192).1 = .ok whiteLineBlock ∧
      Head.parse whiteLineBlock = .ok whiteLineHead ∧
      "Content-Length: 5".toList ∈ Text.lines whiteLineBlock ∧
      ¬ Represents whiteLineHead "Content-Length: 5".toList ∧
      ((openOn (.ofBytes whiteLineRequest)).readRequest {}).1 = .ok ⟨whiteLineHead, .none⟩ ∧
      ((openOn (.ofBytes whiteLineRequest)).readRequest {}).2.remaining = Bytes.ofAscii "hello" := by
  refine ⟨by decide +kernel, by decide +kernel, by decide +kernel, fun h => ?_, by decide +kernel,
    by decide +kernel⟩
  have hget := (h "Content-Length".toList " 5".toList (by decide +kernel)).1
  have hnone : whiteLineHead.field? (Text.trim "Content-Length".toList) = none := by decide +kernel
  rw [hnone] at hget
  cases hget

end Stream

end FormCapture
