import FormCapture.Proofs.Settings.Written
import FormCapture.Settings.Basic

/-! # Comments behind a value

A comment behind a value is a comment mark and any text, with white space before the mark or not
(`withComment`). Behind a value without quotes it is cut off (`cleanValue_comment`): the line says what it says
without it, so the whole document is read as without it (`parseLines_congr`).

Behind a value in quotes it is not. Whether a value is in quotes is looked at first, and it is so if all that
stands behind the equals sign goes from quote to quote. A comment that ends with a quote is therefore taken for
the end of the value, and behind any other comment the quotes are left on it (`leftOver`). Main statement:
`parse_comment`. -/

namespace FormCapture

namespace Line

variable {key left right value gap comment line : Text} {mark c : Char}

/-! ### Lines with a comment -/

/-- The line that assigns a value, without quotes. -/
def plainLine (key value : Text) : Text := key ++ ' ' :: '=' :: ' ' :: value

/-- The line with a comment behind it. -/
def withComment (line gap : Text) (mark : Char) (comment : Text) : Text := line ++ (gap ++ mark :: comment)

/-- What stands before the equals sign names a key: it is not blank, and the line is neither a comment nor a
section line. -/
structure NamesKey (left : Text) : Prop where
  nonblank : left.trim ≠ []
  noEquals : '=' ∉ left
  start : left.trim.head? ≠ some '[' ∧ left.trim.head? ≠ some '#' ∧ left.trim.head? ≠ some ';'

instance (left : Text) : Decidable (NamesKey left) :=
  decidable_of_iff (left.trim ≠ [] ∧ '=' ∉ left ∧ left.trim.head? ≠ some '[' ∧
      left.trim.head? ≠ some '#' ∧ left.trim.head? ≠ some ';')
    ⟨fun ⟨h1, h2, h3⟩ => ⟨h1, h2, h3⟩, fun h => ⟨h.1, h.2, h.3⟩⟩

/-- The value has no quote and no comment mark. -/
def IsPlain (value : Text) : Prop := '"' ∉ value ∧ ∀ c ∈ value, isCommentMark c = false

instance (value : Text) : Decidable (IsPlain value) :=
  @instDecidableAnd _ _ _ (List.decidableBAll _ value)

/-- What is read of a value in quotes that has a comment behind it. -/
def leftOver (value gap : Text) (mark : Char) (comment : Text) : Text :=
  if comment.trimEnd.getLast? = some '"' then value ++ '"' :: (gap ++ mark :: comment.trimEnd.dropLast)
  else '"' :: (value ++ ['"'])

theorem isCommentMark_iff : isCommentMark c = true ↔ c = ';' ∨ c = '#' := by
  simp [isCommentMark]

theorem isWhite_mark (h : isCommentMark mark = true) : Text.isWhite mark = false := by
  rcases isCommentMark_iff.mp h with rfl | rfl
  · rfl
  · rfl

theorem mark_ne_quote (h : isCommentMark mark = true) : mark ≠ '"' := by
  rcases isCommentMark_iff.mp h with rfl | rfl
  · decide
  · decide

/-- White space holds no comment mark. -/
theorem isCommentMark_of_isWhite (h : Text.isWhite c = true) : isCommentMark c = false := by
  rw [← Bool.not_eq_true]
  intro hmark
  rw [isWhite_mark hmark] at h
  cases h

/-! ### What an assignment says -/

/-- The first character of the line is that of the key. -/
theorem head?_trim_line (h : left.trim ≠ []) :
    (Text.trim (left ++ '=' :: right)).head? = left.trim.head? := by
  have hstart : left.trimStart ≠ [] := by
    intro hnil
    rw [Text.trim, hnil] at h
    exact h rfl
  obtain ⟨c, rest, hcut⟩ := List.exists_cons_of_ne_nil hstart
  have hc : Text.isWhite c = false := by
    have := List.head?_dropWhile_not Text.isWhite left
    rw [Text.trimStart] at hcut
    simpa [hcut] using this
  have hkey : left.trim = c :: Text.trimEnd rest := by
    rw [Text.trim, hcut]
    exact Text.trimEnd_append hc [] rest
  have hequals : Text.isWhite '=' = false := by decide
  rw [hkey, Text.trim, Text.trimStart_append hequals, Text.trimEnd_append hequals, hcut]
  rfl

/-- Only what is left when the white space at its ends is cut off matters to a value. -/
theorem cleanValue_trimEnd (right : Text) : cleanValue right.trimEnd = cleanValue right := by
  rw [cleanValue, cleanValue, Text.trim_trimEnd]

/-- **A line with an equals sign behind a key** assigns what stands behind it. -/
theorem assigns_of_namesKey (h : NamesKey left) (right : Text) :
    Assigns (left ++ '=' :: right) left.trim.lower (cleanValue right) := by
  have hequals : Text.isWhite '=' = false := by decide
  have htrim : Text.trim (left ++ '=' :: right) = left.trimStart ++ '=' :: right.trimEnd := by
    rw [Text.trim, Text.trimStart_append hequals, Text.trimEnd_append hequals]
  have hhead : (Text.trim (left ++ '=' :: right)).head? = left.trim.head? := head?_trim_line h.nonblank
  obtain ⟨hbracket, hhash, hsemicolon⟩ := h.start
  have hne : Text.trim (left ++ '=' :: right) ≠ [] := by
    rw [htrim]
    simp
  have hassignment : IsAssignment (left ++ '=' :: right) := by
    unfold IsAssignment IsSkipped IsSection
    rw [hhead]
    exact ⟨not_or.mpr ⟨hne, not_or.mpr ⟨hhash, hsemicolon⟩⟩, hbracket⟩
  have hcut : '=' ∉ left.trimStart := fun hmem =>
    h.noEquals ((List.dropWhile_suffix Text.isWhite).subset hmem)
  refine ⟨hassignment, left.trimStart, right.trimEnd, htrim, hcut, ?_, ?_, ?_⟩
  · rw [Text.trim_trimStart]
    exact h.nonblank
  · rw [Text.trim_trimStart]
  · rw [cleanValue_trimEnd]

theorem NamesKey.append_space (h : NamesKey key) : NamesKey (key ++ [' ']) := by
  have htrim : Text.trim (key ++ [' ']) = key.trim := Text.trim_append_white (by decide) key
  refine ⟨?_, List.not_mem_append h.noEquals (by decide), ?_⟩
  · rw [htrim]
    exact h.nonblank
  · rw [htrim]
    exact h.start

/-- The key of a line does not show the space behind it. -/
theorem assigns_line (h : NamesKey key) (right : Text) :
    Assigns (key ++ ' ' :: '=' :: right) key.trim.lower (cleanValue right) := by
  have hline : key ++ ' ' :: '=' :: right = (key ++ [' ']) ++ '=' :: right := by simp
  have hassigns := assigns_of_namesKey h.append_space right
  rw [Text.trim_append_white (by decide)] at hassigns
  rw [hline]
  exact hassigns

/-! ### What is read as the value -/

theorem cleanValue_space (right : Text) : cleanValue (' ' :: right) = cleanValue right := by
  have htrim : Text.trim (' ' :: right) = right.trim := Text.trim_cons_white (by decide) right
  rw [cleanValue, cleanValue, htrim]

/-- A value that does not start with a quote ends at the first comment mark. -/
theorem cleanValue_of_head (h : right.trim.head? ≠ some '"') :
    cleanValue right = Text.trim (right.trim.takeWhile fun c => !isCommentMark c) := by
  have hquotes : unquote? right.trim = none := by
    unfold unquote?
    split
    · next rest he => exact absurd (by rw [he]; rfl) h
    · rfl
  rw [cleanValue, hquotes]

/-- What stands before a comment mark is what is left when the comment is cut off. -/
theorem takeWhile_mark {before : Text} (hbefore : ∀ c ∈ before, isCommentMark c = false)
    (hmark : isCommentMark mark = true) (after : Text) :
    (before ++ mark :: after).takeWhile (fun c => !isCommentMark c) = before := by
  have hall : ∀ c ∈ before, (!isCommentMark c) = true := fun c hc => by rw [hbefore c hc]; rfl
  have hstop : (mark :: after).takeWhile (fun c => !isCommentMark c) = [] :=
    List.takeWhile_cons_of_neg (by simp [hmark])
  rw [List.takeWhile_append_of_pos hall, hstop, List.append_nil]

theorem IsPlain.cleanValue_eq (h : IsPlain value) : cleanValue value = value.trim := by
  have hhead : value.trim.head? ≠ some '"' := fun hq =>
    h.1 (Text.trim_subset value (List.mem_of_head? hq))
  have hall : value.trim.takeWhile (fun c => !isCommentMark c) = value.trim := by
    rw [List.takeWhile_eq_self_iff]
    intro c hc
    rw [h.2 c (Text.trim_subset value hc)]
    rfl
  rw [cleanValue_of_head hhead, hall, Text.trim_trim]

/-- **A comment behind a value without quotes is cut off.** -/
theorem cleanValue_comment (h : IsPlain value) (hgap : ∀ c ∈ gap, Text.isWhite c = true)
    (hmark : isCommentMark mark = true) (comment : Text) :
    cleanValue (withComment value gap mark comment) = value.trim := by
  have hline : withComment value gap mark comment = (value ++ gap) ++ mark :: comment := by
    simp [withComment]
  have htrim : Text.trim (withComment value gap mark comment) =
      Text.trimStart (value ++ gap) ++ mark :: comment.trimEnd := by
    rw [hline, Text.trim, Text.trimStart_append (isWhite_mark hmark), Text.trimEnd_append (isWhite_mark hmark)]
  have hsubset : Text.trimStart (value ++ gap) ⊆ value ++ gap :=
    (List.dropWhile_suffix Text.isWhite).subset
  have hquote : '"' ∉ value ++ gap := by
    intro hq
    rcases List.mem_append.mp hq with hq | hq
    · exact h.1 hq
    · exact absurd (hgap _ hq) (by decide)
  have hplain : ∀ c ∈ value ++ gap, isCommentMark c = false := by
    intro c hc
    rcases List.mem_append.mp hc with hc | hc
    · exact h.2 c hc
    · exact isCommentMark_of_isWhite (hgap c hc)
  have hhead : (Text.trim (withComment value gap mark comment)).head? ≠ some '"' := by
    rw [htrim]
    intro hq
    cases hcut : Text.trimStart (value ++ gap) with
    | nil =>
      rw [hcut] at hq
      exact mark_ne_quote hmark (Option.some.inj hq)
    | cons c rest =>
      rw [hcut] at hq
      have hc : c = '"' := Option.some.inj hq
      have hmem : c ∈ Text.trimStart (value ++ gap) := by
        rw [hcut]
        exact List.mem_cons_self
      exact hquote (hc ▸ hsubset hmem)
  rw [cleanValue_of_head hhead, htrim, takeWhile_mark (fun c hc => hplain c (hsubset hc)) hmark,
    Text.trim_trimStart, Text.trim_append_forall hgap]

/-- **A comment behind a value in quotes is not cut off**, or the quotes are left. -/
theorem cleanValue_quoted_comment (h : ∀ c ∈ value, isCommentMark c = false)
    (hgap : ∀ c ∈ gap, Text.isWhite c = true) (hmark : isCommentMark mark = true) (comment : Text) :
    cleanValue (withComment ('"' :: (value ++ ['"'])) gap mark comment) = leftOver value gap mark comment := by
  have hline : withComment ('"' :: (value ++ ['"'])) gap mark comment =
      [] ++ '"' :: ((value ++ '"' :: gap) ++ mark :: comment) := by simp [withComment]
  have hquote : Text.isWhite '"' = false := by decide
  have htrim : Text.trim (withComment ('"' :: (value ++ ['"'])) gap mark comment) =
      '"' :: ((value ++ '"' :: gap) ++ mark :: comment.trimEnd) := by
    rw [hline, Text.trim, Text.trimStart_append hquote, Text.trimEnd_append hquote,
      Text.trimEnd_append (isWhite_mark hmark)]
    rfl
  have hlast : ((value ++ '"' :: gap) ++ mark :: comment.trimEnd).getLast? = some '"' ↔
      comment.trimEnd.getLast? = some '"' := by
    rw [List.getLast?_append_of_ne_nil _ (List.cons_ne_nil _ _)]
    cases hcut : comment.trimEnd with
    | nil => simp [mark_ne_quote hmark]
    | cons c rest => rw [List.getLast?_cons_cons]
  unfold leftOver
  by_cases hends : comment.trimEnd.getLast? = some '"'
  · have hquotes : unquote? ('"' :: ((value ++ '"' :: gap) ++ mark :: comment.trimEnd)) =
        some ((value ++ '"' :: gap) ++ mark :: comment.trimEnd).dropLast := by
      rw [unquote?, if_pos (hlast.mpr hends)]
    have hne : comment.trimEnd ≠ [] := by
      intro hnil
      rw [hnil] at hends
      cases hends
    have hdrop : ((value ++ '"' :: gap) ++ mark :: comment.trimEnd).dropLast =
        (value ++ '"' :: gap) ++ mark :: comment.trimEnd.dropLast := by
      rw [List.dropLast_append_of_ne_nil (List.cons_ne_nil _ _), List.dropLast_cons_of_ne_nil hne]
    rw [if_pos hends, cleanValue, htrim, hquotes, hdrop]
    simp only [List.append_assoc, List.cons_append]
  · have hquotes : unquote? ('"' :: ((value ++ '"' :: gap) ++ mark :: comment.trimEnd)) = none := by
      rw [unquote?, if_neg fun hq => hends (hlast.mp hq)]
    have hplain : ∀ c ∈ '"' :: (value ++ '"' :: gap), isCommentMark c = false := by
      intro c hc
      have hcases : c = '"' ∨ c ∈ value ∨ c ∈ gap := by simpa [or_left_comm] using hc
      rcases hcases with rfl | hc | hc
      · rfl
      · exact h c hc
      · exact isCommentMark_of_isWhite (hgap c hc)
    have hcons : '"' :: ((value ++ '"' :: gap) ++ mark :: comment.trimEnd) =
        ('"' :: (value ++ '"' :: gap)) ++ mark :: comment.trimEnd := rfl
    have hvalue : '"' :: (value ++ '"' :: gap) = ('"' :: (value ++ ['"'])) ++ gap := by simp
    rw [if_neg hends, cleanValue, htrim, hquotes, hcons, takeWhile_mark hplain hmark, hvalue,
      Text.trim_append_forall hgap]
    exact Text.trim_eq_self hquote hquote value

theorem leftOver_ne (value gap : Text) (mark : Char) (comment : Text) :
    leftOver value gap mark comment ≠ value := by
  intro h
  have hlen := congrArg List.length h
  unfold leftOver at hlen
  split at hlen
  · simp only [List.length_append, List.length_cons] at hlen
    omega
  · simp only [List.length_append, List.length_cons] at hlen
    omega

end Line

/-! ### Documents with a comment -/

namespace Ini

open Line

variable {line line' : Text} {key value gap comment : Text} {mark : Char}

/-- **Lines that say the same** can stand for each other. -/
theorem parseLines_congr (h : Line.ofText line = Line.ofText line') (below : List Text) :
    ∀ (above : List Text) (n : Nat) (start : Text) (settings : List Setting),
      parseLines n start settings (above ++ line :: below) =
        parseLines n start settings (above ++ line' :: below)
  | [], n, start, settings => by simp only [List.nil_append, parseLines, h]
  | first :: above, n, start, settings => by
    have ih := parseLines_congr h below above (n + 1)
    simp only [List.cons_append, parseLines, ih]

theorem parse_congr {t t' : Text} {above below : List Text} (h : Line.ofText line = Line.ofText line')
    (ht : t.lines = above ++ line :: below) (ht' : t'.lines = above ++ line' :: below) :
    parse t = parse t' := by
  rw [parse, parse, ht, ht', parseLines_congr h]

/-- **A comment behind a value without quotes does not change a document**: the line assigns what it assigns
without it, the document is read as without it, and all settings are made as without it. A value in quotes is
read as it stands; with a comment behind it, it is never read as it stands, but with its quotes, or, if the
comment ends with a quote, with the comment up to there. -/
theorem parse_comment (hkey : NamesKey key) (hvalue : IsPlain value)
    (hgap : ∀ c ∈ gap, Text.isWhite c = true) (hmark : isCommentMark mark = true) :
    Assigns (plainLine key value) key.trim.lower value.trim ∧
    Assigns (withComment (plainLine key value) gap mark comment) key.trim.lower value.trim ∧
    (∀ t t' above below, t.lines = above ++ plainLine key value :: below →
      t'.lines = above ++ withComment (plainLine key value) gap mark comment :: below →
      parse t' = parse t ∧ ∀ options, (ofText t').bind (Settings.ofSources options) =
        (ofText t).bind (Settings.ofSources options)) ∧
    Assigns (entryLine key value) key.trim.lower value ∧
    Assigns (withComment (entryLine key value) gap mark comment) key.trim.lower
      (leftOver value gap mark comment) ∧
    leftOver value gap mark comment ≠ value := by
  have hplain : Assigns (plainLine key value) key.trim.lower value.trim := by
    have hassigns := assigns_line hkey (' ' :: value)
    rw [cleanValue_space, hvalue.cleanValue_eq] at hassigns
    exact hassigns
  have hcomment : Assigns (withComment (plainLine key value) gap mark comment) key.trim.lower value.trim := by
    have hassigns := assigns_line hkey (' ' :: withComment value gap mark comment)
    rw [cleanValue_space, cleanValue_comment hvalue hgap hmark] at hassigns
    simpa [withComment, plainLine] using hassigns
  have hquoted : Assigns (entryLine key value) key.trim.lower value := by
    have hassigns := assigns_line hkey (' ' :: '"' :: (value ++ ['"']))
    rw [cleanValue_quoted] at hassigns
    exact hassigns
  have hboth : Assigns (withComment (entryLine key value) gap mark comment) key.trim.lower
      (leftOver value gap mark comment) := by
    have hassigns := assigns_line hkey (' ' :: withComment ('"' :: (value ++ ['"'])) gap mark comment)
    rw [cleanValue_space, cleanValue_quoted_comment hvalue.2 hgap hmark] at hassigns
    simpa [withComment, entryLine] using hassigns
  refine ⟨hplain, hcomment, fun t t' above below ht ht' => ?_, hquoted, hboth, leftOver_ne _ _ _ _⟩
  have hsame : Line.ofText (withComment (plainLine key value) gap mark comment) =
      Line.ofText (plainLine key value) :=
    (Says.assignment hcomment).ofText_eq.trans (Says.assignment hplain).ofText_eq.symm
  have hparse : parse t' = parse t := parse_congr hsame ht' ht
  refine ⟨hparse, fun options => ?_⟩
  rw [ofText, ofText, hparse]

/-- A port with a comment that ends with a quote, between other lines. -/
def commentedText : Text := "[server]\r\nPort = 9000\t# the \"main\"\r\nthreads = 2".toList

theorem parse_comment_samples :
    NamesKey "Port".toList ∧ IsPlain "9000".toList ∧ (∀ c ∈ "\t".toList, Text.isWhite c = true) ∧
      parse commentedText = parse "[server]\nPort = 9000\nthreads = 2".toList ∧
      leftOver "9000".toList "\t".toList '#' " the \"main\"".toList = "9000\"\t# the \"main".toList := by
  have hkey : NamesKey "Port".toList := by decide +kernel
  have hvalue : IsPlain "9000".toList := by decide +kernel
  have hgap : ∀ c ∈ "\t".toList, Text.isWhite c = true := List.all_eq_true.mp rfl
  have hmark : isCommentMark '#' = true := by decide
  obtain ⟨-, -, hsame, -⟩ :=
    @parse_comment "Port".toList "9000".toList "\t".toList " the \"main\"".toList '#' hkey hvalue hgap hmark
  have hlines : commentedText.lines = ["[server]".toList] ++
      withComment (plainLine "Port".toList "9000".toList) "\t".toList '#' " the \"main\"".toList ::
        ["threads = 2".toList] := by decide +kernel
  have hbare : Text.lines "[server]\nPort = 9000\nthreads = 2".toList = ["[server]".toList] ++
      plainLine "Port".toList "9000".toList :: ["threads = 2".toList] := by decide +kernel
  exact ⟨hkey, hvalue, hgap, (hsame _ _ _ _ hbare hlines).1, by decide +kernel⟩

/-- **A port in quotes with a comment behind it is lost**: the quotes are left on it, so it is no number, and
the default port is taken. -/
theorem parse_quotedComment :
    withComment (entryLine "port".toList "9000".toList) " ".toList ';' " main".toList =
      "port = \"9000\" ; main".toList ∧
    (parse "[server]\nport = \"9000\"".toList = .ok ⟨[⟨"server".toList, "port".toList, "9000".toList⟩]⟩ ∧
      (Settings.ofSources {} ⟨[⟨"server".toList, "port".toList, "9000".toList⟩]⟩).map Settings.port =
        .ok 9000) ∧
    parse "[server]\nport = \"9000\" ; main".toList =
      .ok ⟨[⟨"server".toList, "port".toList, "\"9000\"".toList⟩]⟩ ∧
    (Settings.ofSources {} ⟨[⟨"server".toList, "port".toList, "\"9000\"".toList⟩]⟩).map Settings.port =
      .ok 8080 := by
  refine ⟨by decide +kernel, ⟨by decide +kernel, ?_⟩, by decide +kernel, ?_⟩
  · rfl
  · rfl

end Ini

end FormCapture
