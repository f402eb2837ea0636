import FormCapture.Proofs.Request.Length

/-! # The fields of a head

What a parsed head answers when it is asked for a field, said of the lines of its block: the values that the
counted lines give under that name, joined in order (`named`). The same answers come from a table that is
built line by line, a repeated value being joined to the one that is there (`gather`): `lookup_gather` is an
induction over the lines with any table to begin with.

So an edit of the lines that leaves the values of each name in their order changes no answer (`Edited`):
lines with different names may be exchanged, a line without a colon may be put in, a name may be respelled
in other letters. Main statement: `parse_lookups`. -/

namespace FormCapture

namespace Header

variable {line key name : Text} {lines later : List Text}

/-! ### Line by line -/

theorem fieldsOfLines_cons_white (h : IsWhite line) (later : List Text) :
    Head.fieldsOfLines (line :: later) = ⟨[]⟩ :=
  @fieldsOfLines_white [] later line h

theorem fieldsOfLines_cons (h : ¬ IsWhite line) (later : List Text) :
    Head.fieldsOfLines (line :: later) =
      ⟨(Head.fieldOfLine? line).toList ++ (Head.fieldsOfLines later).lines⟩ := by
  have hcounted : counted (line :: later) = line :: counted later :=
    List.takeWhile_cons_of_pos (by simp [h])
  rw [fieldsOfLines_eq, fieldsOfLines_eq, hcounted, List.filterMap_cons, fieldOfLine?_trim]
  cases Head.fieldOfLine? line <;> rfl

theorem fieldOfLine?_append (hkey : ':' ∉ key) (value : Text) :
    Head.fieldOfLine? (key ++ ':' :: value) = some (key.trim.lower, value.trim) := by
  rw [Head.fieldOfLine?, Text.splitOnce_eq_some.mpr ⟨rfl, hkey⟩]
  rfl

theorem not_isWhite_append (key value : Text) : ¬ IsWhite (key ++ ':' :: value) :=
  not_isWhite_of_mem (List.mem_append_right key List.mem_cons_self) (by decide)

/-- What a line with a name adds to the values of each name. -/
theorem values_cons (hkey : ':' ∉ key) (value : Text) (later : List Text) (name : Text) :
    (Head.fieldsOfLines ((key ++ ':' :: value) :: later)).values name =
      (if key.trim.lower = name then [value.trim] else []) ++ (Head.fieldsOfLines later).values name := by
  rw [fieldsOfLines_cons (not_isWhite_append key value), fieldOfLine?_append hkey, Fields.values_append]
  refine congrArg (· ++ _) ?_
  by_cases hname : key.trim.lower = name
  · simp [Fields.values, hname]
  · simp [Fields.values, hname]

/-! ### The table -/

/-- The value of a field in the table, once one more has come. -/
def joined : Option Text → Text → Text
  | none, value => value
  | some before, value => before ++ Fields.joint ++ value

/-- The table with one more value: it is joined to the one that is there under the name, or is a new entry. -/
def addField (name value : Text) : List (Text × Text) → List (Text × Text)
  | [] => [(name, value)]
  | (other, before) :: later =>
    if other = name then (other, joined (some before) value) :: later
    else (other, before) :: addField name value later

/-- The table that is built line by line, up to the first line that is blank. -/
def gather (table : List (Text × Text)) : List Text → List (Text × Text)
  | [] => table
  | line :: later =>
    if line.trim.isEmpty then table
    else
      match Head.fieldOfLine? line.trim with
      | none => gather table later
      | some (name, value) => gather (addField name value table) later

theorem lookup_addField_self (name value : Text) (table : List (Text × Text)) :
    (addField name value table).lookup name = some (joined (table.lookup name) value) := by
  induction table with
  | nil => simp [addField, joined]
  | cons entry later ih =>
    obtain ⟨other, before⟩ := entry
    rw [addField]
    by_cases h : other = name
    · subst h
      simp
    · have hne : (name == other) = false := beq_eq_false_iff_ne.mpr (Ne.symm h)
      rw [if_neg h, List.lookup_cons, List.lookup_cons, hne]
      exact ih

theorem lookup_addField_of_ne (hne : key ≠ name) (value : Text) (table : List (Text × Text)) :
    (addField key value table).lookup name = table.lookup name := by
  have hkey : (name == key) = false := beq_eq_false_iff_ne.mpr (Ne.symm hne)
  induction table with
  | nil => rw [addField, List.lookup_cons, hkey]
  | cons entry later ih =>
    obtain ⟨other, before⟩ := entry
    rw [addField]
    by_cases h : other = key
    · subst h
      rw [if_pos rfl, List.lookup_cons, List.lookup_cons, hkey]
    · rw [if_neg h, List.lookup_cons, List.lookup_cons, ih]

/-- **The table holds, under each name, the values of the lines**, joined to what it held before. -/
theorem lookup_gather (lines : List Text) (table : List (Text × Text)) (name : Text) :
    (gather table lines).lookup name =
      ((Head.fieldsOfLines lines).values name).foldl (fun held value => some (joined held value))
        (table.lookup name) := by
  induction lines generalizing table with
  | nil => rfl
  | cons line later ih =>
    rw [gather]
    by_cases hwhite : IsWhite line
    · have hempty : line.trim.isEmpty = true := List.isEmpty_iff.mpr (Text.trim_eq_nil.mpr hwhite)
      rw [if_pos hempty, fieldsOfLines_cons_white hwhite]
      rfl
    · have hempty : ¬ line.trim.isEmpty = true := fun h =>
        hwhite (Text.trim_eq_nil.mp (List.isEmpty_iff.mp h))
      rw [if_neg hempty, fieldOfLine?_trim, fieldsOfLines_cons hwhite, Fields.values_append]
      cases Head.fieldOfLine? line with
      | none => exact ih table
      | some field =>
        obtain ⟨key, value⟩ := field
        simp only [ih]
        by_cases hname : key = name
        · subst hname
          rw [lookup_addField_self]
          simp [Fields.values]
        · rw [lookup_addField_of_ne hname]
          simp [Fields.values, hname]

theorem join_joined (before value : Text) (later : List Text) :
    Fields.join (joined (some before) value :: later) = Fields.join (before :: value :: later) := by
  cases later <;> simp [Fields.join, joined, List.intercalate]

theorem foldl_joined (values : List Text) (before : Text) :
    values.foldl (fun held value => some (joined held value)) (some before) =
      some (Fields.join (before :: values)) := by
  induction values generalizing before with
  | nil => simp [Fields.join]
  | cons value later ih => rw [List.foldl_cons, ih, join_joined]

/-- **What the loop builds answers as the fields do.** -/
theorem lookup_gather_nil (lines : List Text) (name : Text) :
    (gather [] lines).lookup name = (Head.fieldsOfLines lines).get? name := by
  rw [lookup_gather, List.lookup_nil, Fields.get?]
  cases (Head.fieldsOfLines lines).values name with
  | nil => rfl
  | cons value later => exact foldl_joined later value

/-! ### Edits -/

/-- An edit of the lines behind the first that changes no field: two adjacent lines with different names are
exchanged, a line without a colon that is not blank is put in, or a name is written in other letters. -/
inductive Edited : List Text → List Text → Prop
  | swap {before after : List Text} {key key' value value' : Text} : ':' ∉ key → ':' ∉ key' →
      key.trim.lower ≠ key'.trim.lower →
      Edited (before ++ (key ++ ':' :: value) :: (key' ++ ':' :: value') :: after)
        (before ++ (key' ++ ':' :: value') :: (key ++ ':' :: value) :: after)
  | insert {before after : List Text} {line : Text} : ¬ IsWhite line → ':' ∉ line →
      Edited (before ++ after) (before ++ line :: after)
  | respell {before after : List Text} {key key' value : Text} : ':' ∉ key → ':' ∉ key' →
      key'.trim.lower = key.trim.lower →
      Edited (before ++ (key ++ ':' :: value) :: after) (before ++ (key' ++ ':' :: value) :: after)

/-- What stands before does not matter to whether two blocks of lines give the same values. -/
theorem values_append_congr (before : List Text)
    (h : (Head.fieldsOfLines lines).values name = (Head.fieldsOfLines later).values name) :
    (Head.fieldsOfLines (before ++ lines)).values name =
      (Head.fieldsOfLines (before ++ later)).values name := by
  induction before with
  | nil => exact h
  | cons line before ih =>
    rw [List.cons_append, List.cons_append]
    by_cases hwhite : IsWhite line
    · rw [fieldsOfLines_cons_white hwhite, fieldsOfLines_cons_white hwhite]
    · rw [fieldsOfLines_cons hwhite, fieldsOfLines_cons hwhite, Fields.values_append,
        Fields.values_append, ih]

theorem Edited.values_eq (h : Edited lines later) (name : Text) :
    (Head.fieldsOfLines later).values name = (Head.fieldsOfLines lines).values name := by
  cases h with
  | swap hkey hkey' hne =>
    refine values_append_congr _ ?_
    rw [values_cons hkey', values_cons hkey, values_cons hkey, values_cons hkey', ← List.append_assoc,
      ← List.append_assoc]
    refine congrArg (· ++ _) ?_
    -- one of the two lines at most has the name
    split
    · next h' =>
      rw [if_neg fun h => hne (h.trans h'.symm), List.append_nil, List.nil_append]
    · rw [List.append_nil, List.nil_append]
  | insert hwhite hcolon => rw [fieldsOfLines_no_colon hwhite hcolon]
  | respell hkey hkey' hsame =>
    refine values_append_congr _ ?_
    rw [values_cons hkey', values_cons hkey, hsame]

theorem Edited.get?_eq (h : Edited lines later) (name : Text) :
    (Head.fieldsOfLines later).get? name = (Head.fieldsOfLines lines).get? name := by
  rw [Fields.get?, Fields.get?, h.values_eq name]

/-! ### Lookups -/

/-- The line is a name, in any letter case, and a value. -/
def HasName (name line : Text) : Prop :=
  ∃ key value, line = key ++ ':' :: value ∧ ':' ∉ key ∧ key.trim.lower = name.lower

/-- The values that lines give under a name, in any letter case: the trimmed right parts of the lines that have
it, in order. -/
def named (name : Text) (lines : List Text) : List Text := given (String.ofList name.lower) lines

theorem named_eq_nil_iff : named name lines = [] ↔ ∀ line ∈ lines, ¬ HasName name line := by
  rw [named, given, List.filterMap_eq_nil_iff]
  refine forall₂_congr fun line _ => ?_
  rw [String.toList_ofList]
  constructor
  · rintro hnone ⟨key, value, rfl, hkey, hname⟩
    rw [Text.splitOnce_eq_some.mpr ⟨rfl, hkey⟩] at hnone
    simp [hname] at hnone
  · intro hnot
    split
    · next key value hcut =>
      obtain ⟨rfl, hkey⟩ := Text.splitOnce_eq_some.mp hcut
      exact if_neg fun hname => hnot ⟨key, value, rfl, hkey, hname⟩
    · rfl

theorem get?_eq_named (block name : Text) :
    (Head.fieldsOfLines (Text.lines block).tail).get? name.lower =
      match named name (countedLines block) with
      | [] => none
      | values => some (Fields.join values) := by
  have hvalues := values_fieldsOfLines (Text.lines block).tail (String.ofList name.lower)
  rw [String.toList_ofList] at hvalues
  rw [Fields.get?, hvalues]
  rfl

/-- The text `other` is `raw` with its lines behind the first edited. -/
def Rearranged (raw other : Text) : Prop :=
  ∃ first lines lines', Text.lines raw = first :: lines ∧ Text.lines other = first :: lines' ∧
    Edited lines lines'

/-- Both texts are refused, or both are parsed and all lookups answer the same. -/
def SameLookups (raw other : Text) : Prop :=
  (Head.parse raw = .error .badRequest ∧ Head.parse other = .error .badRequest) ∨
    ∃ head head', Head.parse raw = .ok head ∧ Head.parse other = .ok head' ∧
      ∀ name, head'.field? name = head.field? name

theorem Rearranged.fieldsOfLines_get?_eq {raw other : Text} (h : Rearranged raw other) (name : Text) :
    (Head.fieldsOfLines (Text.lines other).tail).get? name =
      (Head.fieldsOfLines (Text.lines raw).tail).get? name := by
  obtain ⟨first, lines, lines', hraw, hother, hedited⟩ := h
  rw [hraw, hother]
  exact hedited.get?_eq name

/-- Only the first line decides whether there is a request line. -/
theorem hasRequestLine_iff {block first : Text} (h : Text.lines block = first :: later) :
    HasRequestLine block ↔ ∃ method target version,
      Text.words first = [method, target, version] ∧ Head.versionMark <+: version := by
  constructor
  · rintro ⟨line, later', method, target, version, hlines, hwords⟩
    rw [h] at hlines
    cases hlines
    exact ⟨method, target, version, hwords⟩
  · rintro ⟨method, target, version, hwords⟩
    exact ⟨first, later, method, target, version, h, hwords⟩

theorem Rearranged.hasRequestLine_iff {raw other : Text} (h : Rearranged raw other) :
    HasRequestLine other ↔ HasRequestLine raw := by
  obtain ⟨first, lines, lines', hraw, hother, -⟩ := h
  rw [Header.hasRequestLine_iff hother, Header.hasRequestLine_iff hraw]

theorem Parsed.field?_eq_get? {raw : Text} {head : Head} (h : Parsed raw head) (name : Text) :
    head.field? name = (Head.fieldsOfLines (Text.lines raw).tail).get? name.lower := by
  rw [Head.field?, h.fields]

theorem Rearranged.sameLookups {raw other : Text} (h : Rearranged raw other) : SameLookups raw other := by
  by_cases hraw : HasRequestLine raw
  · obtain ⟨head, hhead⟩ := parse_of_hasRequestLine hraw
    obtain ⟨head', hhead'⟩ := parse_of_hasRequestLine (h.hasRequestLine_iff.mpr hraw)
    refine Or.inr ⟨head, head', hhead.parse, hhead'.parse, fun name => ?_⟩
    rw [hhead.field?_eq_get?, hhead'.field?_eq_get?, h.fieldsOfLines_get?_eq]
  · have hother : ¬ HasRequestLine other := fun hother => hraw (h.hasRequestLine_iff.mp hother)
    exact Or.inl ⟨parse_of_not_hasRequestLine hraw, parse_of_not_hasRequestLine hother⟩

/-- **A head answers with the fields of the lines.** A text is parsed exactly if it has a request line. The head
then has no field of a name exactly if no line that counts has this name; else the field is the values of all
these lines, joined in order; and it is what the table holds that is built line by line. Edits that keep the
values of each name in their order change no answer. -/
theorem parse_lookups (raw : Text) :
    ((∃ head, Head.parse raw = .ok head) ↔ HasRequestLine raw) ∧
    (¬ HasRequestLine raw → Head.parse raw = .error .badRequest) ∧
    (∀ head, Head.parse raw = .ok head → ∀ name,
      (head.field? name = none ↔ ∀ line ∈ countedLines raw, ¬ HasName name line) ∧
      (head.field? name ≠ none → head.field? name = some (Fields.join (named name (countedLines raw)))) ∧
      head.field? name = (gather [] (Text.lines raw).tail).lookup name.lower) ∧
    ∀ other, Rearranged raw other → SameLookups raw other := by
  refine ⟨⟨fun ⟨head, hhead⟩ => hasRequestLine_of_parse hhead, fun h => ?_⟩,
    parse_of_not_hasRequestLine, fun head hparse name => ?_, fun other h => h.sameLookups⟩
  · obtain ⟨head, hhead⟩ := parse_of_hasRequestLine h
    exact ⟨head, hhead.parse⟩
  · have hfield := (parsed_of_parse hparse).field?_eq_get? name
    have hnamed := hfield.trans (get?_eq_named raw name)
    rw [← named_eq_nil_iff]
    refine ⟨?_, ?_, hfield.trans (lookup_gather_nil _ _).symm⟩
    · rw [hnamed]
      cases named name (countedLines raw) <;> simp
    · intro hsome
      rw [hnamed] at hsome ⊢
      cases hvalues : named name (countedLines raw) with
      | nil =>
        rw [hvalues] at hsome
        exact absurd rfl hsome
      | cons => rfl

/-- A name in two spellings with a line of another name behind, a value with colons, an empty one, a line
without a colon, and a line that does not count. -/
def mixedBlock : Text :=
  "GET / HTTP/1.1\nA : x:y\nB:1\nno field\na:\n\u00a0\nA: late".toList

/-- The same with two lines exchanged. -/
def exchangedBlock : Text :=
  "GET / HTTP/1.1\nB:1\nA : x:y\nno field\na:\n\u00a0\nA: late".toList

theorem parse_lookups_mixedBlock :
    ∃ head, Head.parse mixedBlock = .ok head ∧ head.field? "a".toList = some "x:y, ".toList ∧
      head.field? "C".toList = none ∧ SameLookups mixedBlock exchangedBlock := by
  have hlines : Text.lines mixedBlock = "GET / HTTP/1.1".toList ::
      ["A : x:y".toList, "B:1".toList, "no field".toList, "a:".toList, "\u00a0".toList, "A: late".toList] := by
    decide +kernel
  have hexchanged : Text.lines exchangedBlock = "GET / HTTP/1.1".toList ::
      ["B:1".toList, "A : x:y".toList, "no field".toList, "a:".toList, "\u00a0".toList, "A: late".toList] := by
    decide +kernel
  have hrequest : HasRequestLine mixedBlock :=
    ⟨_, _, "GET".toList, "/".toList, "HTTP/1.1".toList, hlines, by decide +kernel, by decide⟩
  have hswap := @Edited.swap [] ["no field".toList, "a:".toList, "\u00a0".toList, "A: late".toList]
    "A ".toList "B".toList " x:y".toList "1".toList (by decide) (by decide) (by decide +kernel)
  obtain ⟨hparsed, -, hfields, hsame⟩ := parse_lookups mixedBlock
  obtain ⟨head, hhead⟩ := hparsed.mpr hrequest
  have ha : named "a".toList (countedLines mixedBlock) = ["x:y".toList, []] := by decide +kernel
  have hc : named "C".toList (countedLines mixedBlock) = [] := by decide +kernel
  refine ⟨head, hhead, ?_, (hfields head hhead _).1.mpr (named_eq_nil_iff.mp hc),
    hsame exchangedBlock ⟨_, _, _, hlines, hexchanged, hswap⟩⟩
  rw [(hfields head hhead "a".toList).2.1, ha]
  · rfl
  · rw [ne_eq, (hfields head hhead "a".toList).1, ← named_eq_nil_iff, ha]
    exact List.cons_ne_nil _ _

end Header

end FormCapture
