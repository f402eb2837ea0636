import FormCapture.Proofs.Bytes.Cut
import FormCapture.Proofs.Multipart.Upload
import FormCapture.Proofs.Request.Length

/-! # Header blocks that are written

Lines that are written one after the other, a blank line behind them (`written`), make up a header block
if none of them is empty: no two line ends follow each other before the end (`isBlock_written`). Its text
is the same lines with their carriage returns dropped (`textOf_written`), and is read as these lines
(`lines_written`).

`check_upload` says what is made of the block of an upload: lines that say nothing of the body may stand in
it (`IsNeutral`), and its last two lines declare the boundary and the length. -/

namespace FormCapture

namespace Header

open Bytes (cr lf infix_of_infix_append)

/-- Lines, and a blank one behind them. -/
def written (ending : Text) (ls : List Text) : Text := ls.flatMap (· ++ ending) ++ ending

def wireEnd : Text := ['\r', '\n']

def lineFeed : Text := ['\n']

variable {ls : List Text}

theorem encode_written (ls : List Text) :
    Utf8.encode (written lineFeed ls) = (ls.map Utf8.encode).flatMap (· ++ [lf]) ++ [lf] := by
  have hlines : Utf8.encode (ls.flatMap (· ++ lineFeed)) = (ls.map Utf8.encode).flatMap (· ++ [lf]) := by
    induction ls with
    | nil => rfl
    | cons l ls ih =>
      rw [List.flatMap_cons, Utf8.encode_append, Utf8.encode_append, ih]
      rfl
  rw [written, Utf8.encode_append, hlines]
  rfl

/-- Of what is written only the carriage returns are dropped. -/
theorem kept_written (h : ∀ l ∈ ls, l.OnOneLine) :
    kept (Utf8.encode (written wireEnd ls)) = Utf8.encode (written lineFeed ls) := by
  have hline : ∀ l ∈ ls, kept (Utf8.encode l) = Utf8.encode l := by
    intro l hl
    have hcr := (Utf8.lineEnd_not_mem_encode (h l hl)).1
    exact List.filter_eq_self.mpr fun b hb => bne_iff_ne.mpr fun he => hcr (he ▸ hb)
  induction ls with
  | nil => rfl
  | cons l ls ih =>
    obtain ⟨-, hls⟩ := List.forall_mem_cons.mp h
    obtain ⟨hl, hlines⟩ := List.forall_mem_cons.mp hline
    have hrest := ih hls hlines
    simp only [written, List.flatMap_cons, List.append_assoc, Utf8.encode_append, kept_append] at hrest ⊢
    rw [hl, hrest]
    rfl

/-- **Lines that are not empty hold no blank line.** -/
theorem not_infix_blankLine {bs : List Bytes} (h : ∀ b ∈ bs, b ≠ [] ∧ lf ∉ b) :
    ¬ blankLine <:+: bs.flatMap (· ++ [lf]) := by
  induction bs with
  | nil => exact fun hin => absurd (List.infix_nil.mp hin) (by decide)
  | cons b bs ih =>
    obtain ⟨⟨-, hlf⟩, hbs⟩ := List.forall_mem_cons.mp h
    rw [List.flatMap_cons, List.append_assoc, List.singleton_append]
    intro hin
    rcases List.infix_cons_iff.mp (infix_of_infix_append hlf hin) with hstart | hlater
    · have hfeed := (List.cons_prefix_cons.mp hstart).2
      cases bs with
      | nil => exact absurd (List.prefix_nil.mp hfeed) (by decide)
      | cons c cs =>
        obtain ⟨⟨hne, hclf⟩, -⟩ := List.forall_mem_cons.mp hbs
        obtain ⟨d, c, rfl⟩ := List.exists_cons_of_ne_nil hne
        obtain rfl : lf = d := (List.cons_prefix_cons.mp hfeed).1
        exact hclf List.mem_cons_self
    · exact ih hbs hlater

/-- **Lines that are not empty make up a block**, with the blank line behind them. -/
theorem isBlock_written (hne : ls ≠ []) (h : ∀ l ∈ ls, l ≠ [] ∧ l.OnOneLine) :
    IsBlock (Utf8.encode (written wireEnd ls)) := by
  have hkept := kept_written fun l hl => (h l hl).2
  have hlines : ∀ b ∈ ls.map Utf8.encode, b ≠ [] ∧ lf ∉ b := by
    intro b hb
    obtain ⟨l, hl, rfl⟩ := List.mem_map.mp hb
    exact ⟨Utf8.encode_ne_nil (h l hl).1, (Utf8.lineEnd_not_mem_encode (h l hl).2).2⟩
  rw [encode_written] at hkept
  constructor
  · rw [EndsBlank, hkept]
    obtain rfl | ⟨front, last, rfl⟩ := List.eq_nil_or_concat ls
    · exact absurd rfl hne
    · rw [List.concat_eq_append, List.map_append, List.flatMap_append]
      exact ⟨(front.map Utf8.encode).flatMap (· ++ [lf]) ++ Utf8.encode last, by simp [blankLine]⟩
  · rintro front ⟨rest, hrest⟩ hshort hblank
    obtain rfl | ⟨rest, b, rfl⟩ := List.eq_nil_or_concat rest
    · exact hshort (by rw [← hrest, List.append_nil])
    have hlast : front ++ rest ++ [b] =
        Utf8.encode (ls.flatMap (· ++ wireEnd)) ++ [cr] ++ [lf] := by
      rw [List.append_assoc, ← List.concat_eq_append, hrest, written, Utf8.encode_append,
        List.append_assoc]
      rfl
    obtain ⟨hfront, hb⟩ := List.append_inj' hlast rfl
    obtain rfl : b = lf := (List.cons.inj hb).1
    have hbefore : kept front ++ kept rest = (ls.map Utf8.encode).flatMap (· ++ [lf]) := by
      rw [← hrest, List.concat_eq_append, ← List.append_assoc, kept_snoc _ (by decide), kept_append]
        at hkept
      exact List.append_cancel_right hkept
    refine not_infix_blankLine hlines (hblank.isInfix.trans ?_)
    rw [← hbefore]
    exact (List.prefix_append _ _).isInfix

theorem textOf_written (h : ∀ l ∈ ls, l.OnOneLine) :
    textOf (Utf8.encode (written wireEnd ls)) = written lineFeed ls := by
  rw [textOf, kept_written h, Utf8.decodeLossy_encode]

theorem lines_written (h : ∀ l ∈ ls, l.OnOneLine) :
    Text.lines (written lineFeed ls) = ls ++ [[]] := by
  have hlines := Text.lines_flatMap (fun line hline => (h line hline).isLine) lineFeed
  rwa [lineFeed, Text.lines_newline] at hlines

/-- Lines of which none is white all count, but for the first. -/
theorem countedLines_written {first : Text} {later : List Text} (hfirst : first.OnOneLine)
    (h : ∀ line ∈ later, line.OnOneLine ∧ ¬ IsWhite line) :
    countedLines (written lineFeed (first :: later)) = later := by
  have hlines := lines_written (List.forall_mem_cons.mpr ⟨hfirst, fun line hline => (h line hline).1⟩)
  have hnil : IsWhite [] := fun c hc => absurd hc List.not_mem_nil
  rw [countedLines, hlines, List.cons_append, List.tail_cons, counted_white hnil, counted]
  exact List.takeWhile_eq_self_iff.mpr fun line hline => by simp [(h line hline).2]

/-! ### What the lines of an upload give -/

/-- A line that has a name which the framing of the body does not depend on, or no name at all. -/
structure IsNeutral (line : Text) : Prop where
  onOneLine : line.OnOneLine
  notWhite : ¬ IsWhite line
  name : ∀ {key value}, Text.splitOnce ':' line = some (key, value) →
    key.trim.lower ≠ "content-length".toList ∧ key.trim.lower ≠ "content-type".toList ∧
      key.trim.lower ≠ "transfer-encoding".toList

def typeLine (boundary : Text) : Text := "Content-Type: ".toList ++ Multipart.formType boundary

def lengthLine (n : Nat) : Text := "Content-Length: ".toList ++ (toString n).toList

/-- The header lines of an upload behind its first. -/
def uploadLines (fields : List Text) (boundary : Text) (n : Nat) : List Text :=
  fields ++ [typeLine boundary, lengthLine n]

theorem given_append (name : String) (xs ys : List Text) :
    given name (xs ++ ys) = given name xs ++ given name ys :=
  List.filterMap_append

theorem given_cons_of_cut {line key value : Text} (hcut : Text.splitOnce ':' line = some (key, value))
    (name : String) (later : List Text) :
    given name (line :: later) =
      (if key.trim.lower = name.toList then [value.trim] else []) ++ given name later := by
  rw [given, List.filterMap_cons, hcut]
  by_cases hname : key.trim.lower = name.toList
  · simp only [if_pos hname]
    rfl
  · simp only [if_neg hname]
    rfl

theorem given_of_ne {name : String} {lines : List Text}
    (h : ∀ line ∈ lines, ∀ {key value}, Text.splitOnce ':' line = some (key, value) →
      key.trim.lower ≠ name.toList) : given name lines = [] := by
  refine List.filterMap_eq_nil_iff.mpr fun line hline => ?_
  cases hcut : Text.splitOnce ':' line with
  | none => rfl
  | some cut => exact if_neg (h line hline hcut)

theorem splitOnce_typeLine (boundary : Text) : Text.splitOnce ':' (typeLine boundary) =
    some ("Content-Type".toList, ' ' :: Multipart.formType boundary) :=
  Text.splitOnce_eq_some.mpr ⟨rfl, by decide⟩

theorem splitOnce_lengthLine (n : Nat) : Text.splitOnce ':' (lengthLine n) =
    some ("Content-Length".toList, ' ' :: (toString n).toList) :=
  Text.splitOnce_eq_some.mpr ⟨rfl, by decide⟩

theorem trim_formType (boundary : Text) :
    Text.trim (' ' :: Multipart.formType boundary) = Multipart.formType boundary := by
  have hends : Multipart.formType boundary =
      'm' :: ("ultipart/form-data; boundary=\"".toList ++ boundary) ++ ['"'] :=
    (List.append_assoc _ _ _).symm
  rw [Text.trim_cons_white (by decide), hends]
  exact Text.trim_eq_self (by decide) (by decide) _

theorem trim_decimal (n : Nat) : Text.trim (' ' :: (toString n).toList) = (toString n).toList := by
  rw [Text.trim_cons_white (by decide)]
  refine Text.trim_of_forall fun c hc => ?_
  by_contra hwhite
  have hplus : c ≠ '+' := by
    rintro rfl
    exact hwhite (by decide)
  have hdigit : ¬ ('0' ≤ c ∧ c ≤ '9') := by
    rintro ⟨hlow, hhigh⟩
    have hlow' : 48 ≤ c.toNat := hlow
    have hhigh' : c.toNat ≤ 57 := hhigh
    refine hwhite ?_
    simp only [Text.isWhite, Bool.or_eq_false_iff, Bool.and_eq_false_iff, decide_eq_false_iff_not,
      beq_eq_false_iff_ne]
    omega
  exact (Numeral.denotes_decimal n).not_mem hplus hdigit hc

theorem given_lengthLine (n : Nat) :
    given "content-length" [lengthLine n] = [(toString n).toList] := by
  have hname : Text.lower (Text.trim "Content-Length".toList) = "content-length".toList := by
    decide +kernel
  rw [given_cons_of_cut (splitOnce_lengthLine n), if_pos hname, trim_decimal]
  rfl

/-- What the two last lines of an upload give. -/
theorem given_last (boundary : Text) (n : Nat) :
    given "content-type" [typeLine boundary, lengthLine n] = [Multipart.formType boundary] ∧
      given "content-length" [typeLine boundary, lengthLine n] = [(toString n).toList] ∧
      given "transfer-encoding" [typeLine boundary, lengthLine n] = [] := by
  have htype : Text.lower (Text.trim "Content-Type".toList) = "content-type".toList := by
    decide +kernel
  have hlength : Text.lower (Text.trim "Content-Length".toList) = "content-length".toList := by
    decide +kernel
  have hgiven : ∀ name, given name [typeLine boundary, lengthLine n] =
      (if "content-type".toList = name.toList then [Multipart.formType boundary] else []) ++
        ((if "content-length".toList = name.toList then [(toString n).toList] else []) ++ []) := by
    intro name
    rw [given_cons_of_cut (splitOnce_typeLine boundary), given_cons_of_cut (splitOnce_lengthLine n),
      htype, hlength, trim_formType, trim_decimal]
    rfl
  rw [hgiven, hgiven, hgiven]
  exact ⟨rfl, rfl, rfl⟩

theorem fits_typeLine {boundary : Text} (h : Multipart.isValid boundary = true) :
    (typeLine boundary).OnOneLine ∧ ¬ IsWhite (typeLine boundary) := by
  have hname : Text.OnOneLine "Content-Type: ".toList ∧ 'C' ∈ "Content-Type: ".toList := by decide
  have hkind : Text.OnOneLine "multipart/form-data; boundary=\"".toList := by decide
  have hmark : Text.OnOneLine ['"'] := by decide
  exact ⟨hname.1.append (hkind.append ((Multipart.onOneLine_of_isValid h).append hmark)),
    not_isWhite_of_mem (List.mem_append_left _ hname.2) (by decide)⟩

theorem fits_lengthLine (n : Nat) : (lengthLine n).OnOneLine ∧ ¬ IsWhite (lengthLine n) := by
  have hname : Text.OnOneLine "Content-Length: ".toList ∧ 'C' ∈ "Content-Length: ".toList := by decide
  have hdecimal : Text.OnOneLine (toString n).toList :=
    ⟨(Numeral.denotes_decimal n).not_mem (by decide) (by decide),
      (Numeral.denotes_decimal n).not_mem (by decide) (by decide)⟩
  exact ⟨hname.1.append hdecimal, not_isWhite_of_mem (List.mem_append_left _ hname.2) (by decide)⟩

/-! ### The block of an upload -/

section Upload

variable {first boundary : Text} {fields : List Text} {n : Nat}

theorem fits_uploadLines (hfields : ∀ line ∈ fields, IsNeutral line)
    (hb : Multipart.isValid boundary = true) :
    ∀ line ∈ uploadLines fields boundary n, line.OnOneLine ∧ ¬ IsWhite line := by
  intro line hline
  rcases List.mem_append.mp hline with hline | hline
  · exact ⟨(hfields line hline).onOneLine, (hfields line hline).notWhite⟩
  · rcases List.mem_cons.mp hline with rfl | hline
    · exact fits_typeLine hb
    · rw [List.mem_singleton.mp hline]
      exact fits_lengthLine n

/-- What the lines of an upload give: the type and the length of the body, and no transfer coding. -/
theorem given_uploadLines (hfields : ∀ line ∈ fields, IsNeutral line) (boundary : Text) (n : Nat) :
    given "content-type" (uploadLines fields boundary n) = [Multipart.formType boundary] ∧
      given "content-length" (uploadLines fields boundary n) = [(toString n).toList] ∧
      given "transfer-encoding" (uploadLines fields boundary n) = [] := by
  obtain ⟨htype, hlength, hcoding⟩ := given_last boundary n
  rw [uploadLines, given_append, given_append, given_append, htype, hlength, hcoding,
    given_of_ne fun line hline _ _ hcut => ((hfields line hline).name hcut).1,
    given_of_ne fun line hline _ _ hcut => ((hfields line hline).name hcut).2.1,
    given_of_ne fun line hline _ _ hcut => ((hfields line hline).name hcut).2.2]
  exact ⟨rfl, rfl, rfl⟩

/-- **The block of an upload passes the checks**: its body is in parts, with the boundary and the length
that its last lines declare, whatever other fields are given. -/
theorem check_upload {limits : Limits} {method target : Text} (hfirst : first.OnOneLine)
    (hwords : Text.words first = [method, target, "HTTP/1.1".toList])
    (hfields : ∀ line ∈ fields, IsNeutral line) (hb : Multipart.isValid boundary = true)
    (hn : n ≤ limits.maxBodySize) (hmax : n ≤ Numeral.max64) :
    ∃ head, Parsed (written lineFeed (first :: uploadLines fields boundary n)) head ∧
      check limits (written lineFeed (first :: uploadLines fields boundary n)) =
        .ok (head, .multipart n boundary) := by
  have hcounted := countedLines_written hfirst (fits_uploadLines (n := n) hfields hb)
  have hfits := fits_uploadLines (n := n) hfields hb
  have hlines := lines_written (List.forall_mem_cons.mpr ⟨hfirst, fun line hline => (hfits line hline).1⟩)
  obtain ⟨htype, hlength, hcoding⟩ := given_uploadLines hfields boundary n
  rw [← hcounted] at htype hlength hcoding
  generalize written lineFeed (first :: uploadLines fields boundary n) = block at *
  have hjoin : ∀ value : Text, Fields.join [value] = value := fun value => by simp [Fields.join]
  have hnotChunked : ¬ IsChunked block := by
    rintro ⟨coding, hvalue, -⟩
    rw [value?_eq_none_iff.mpr hcoding] at hvalue
    cases hvalue
  have hdeclares : Declares block n := by
    refine ⟨(toString n).toList, ?_, Numeral.unsigned?_eq_some_iff.mpr ⟨Numeral.denotes_decimal n, hmax⟩⟩
    rw [LengthText, value?_eq, hlength]
    exact congrArg some (hjoin _)
  have hvalue : value? block "content-type" = some (Multipart.formType boundary) := by
    rw [value?_eq, htype]
    exact congrArg some (hjoin _)
  obtain ⟨head, hparsed⟩ := parse_of_hasRequestLine
    ⟨first, _, method, target, _, hlines, hwords, by decide⟩
  refine ⟨head, hparsed, ?_⟩
  have hframing : Framing.ofHead head limits = .ok (.multipart n boundary) := by
    rw [Framing.ofHead, if_neg (fun h => hnotChunked (hparsed.isChunked_iff.mp h)),
      hparsed.contentLength_of_declares hdeclares]
    simp only [if_neg (Nat.not_lt.mpr hn), hparsed.boundary_eq, hvalue,
      Multipart.ofContentType_formType hb]
  rw [check, hparsed.parse, Except.bind, hframing]
  rfl

end Upload

end Header

end FormCapture
