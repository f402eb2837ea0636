import FormCapture.Proofs.Request.Declared
import FormCapture.Proofs.Text.Parts
import FormCapture.Proofs.Text.Utf8

/-! # Declared boundaries

A `Content-Type` value declares the boundary of a form in parts by its first boundary parameter. Its
parameters are the pieces between semicolons, behind the type; a boundary parameter is one whose name is
`boundary`, in any letter case; the boundary is what stands behind its first equals sign, less white space
and quotes around it. `ofContentType_eq_ok_iff` is the law, an equivalence.

A boundary that may be declared holds neither semicolons nor quotes, and white space only inside or at its
front, so it is read back from whatever value it is written into (`ofContentType_declaring`). Main
statement: `ofContentType_inverts`. -/

namespace FormCapture.Multipart

/-! ### Characters of a boundary -/

/-- The characters of RFC 2046 that a boundary may be made of, by their codes. -/
def boundaryChars : Text :=
  " '()+,-./0123456789:=?ABCDEFGHIJKLMNOPQRSTUVWXYZ_abcdefghijklmnopqrstuvwxyz".toList

theorem toNat_lt_of_isBoundaryChar {c : Char} (h : isBoundaryChar c = true) : c.toNat < 128 := by
  have hle : ∀ last : Char, c.val ≤ last.val → last.toNat < 128 → c.toNat < 128 :=
    fun last hc hlast => Nat.lt_of_le_of_lt (UInt32.le_iff_toNat_le.mp hc) hlast
  rcases Bool.or_eq_true_iff.mp h with halnum | hmark
  · rcases Bool.or_eq_true_iff.mp halnum with halpha | hdigit
    · rcases Bool.or_eq_true_iff.mp halpha with hupper | hlower
      · exact hle 'Z' (of_decide_eq_true hupper).2 (by decide)
      · exact hle 'z' (of_decide_eq_true (Bool.and_eq_true_iff.mp hlower).2) (by decide)
    · exact hle '9' (of_decide_eq_true (Bool.and_eq_true_iff.mp hdigit).2) (by decide)
  · have hmarks : "'()+_,-./:=? ".toList.all (fun d => d.toNat < 128) = true := by decide
    exact of_decide_eq_true (List.all_eq_true.mp hmarks c (List.contains_iff_mem.mp hmark))

theorem isBoundaryChar_iff {c : Char} : isBoundaryChar c = true ↔ c ∈ boundaryChars := by
  have hascii : ((List.range 128).map Char.ofNat).filter isBoundaryChar = boundaryChars := by
    decide +kernel
  rw [← hascii, List.mem_filter, List.mem_map]
  constructor
  · exact fun h =>
      ⟨⟨c.toNat, List.mem_range.mpr (toNat_lt_of_isBoundaryChar h), Char.ofNat_toNat c⟩, h⟩
  · exact fun h => h.2

section Valid

variable {boundary : Text}

/-- A boundary that may be declared is made of boundary characters. -/
theorem not_mem_of_isValid (h : isValid boundary = true) {c : Char} (hc : isBoundaryChar c = false) :
    c ∉ boundary := by
  rw [isValid, Bool.and_eq_true, List.all_eq_true] at h
  intro hmem
  rw [h.2 c hmem] at hc
  cases hc

theorem onOneLine_of_isValid (h : isValid boundary = true) : boundary.OnOneLine :=
  ⟨not_mem_of_isValid h (by decide), not_mem_of_isValid h (by decide)⟩

theorem validate_eq_ok_iff : validate boundary = .ok () ↔ isValid boundary = true := by
  unfold validate
  split
  · next h => simp [h]
  · next h => simp [h]

/-- What it takes to be declared. -/
structure IsDeclarable (boundary : Text) : Prop where
  length_pos : 1 ≤ (Utf8.encode boundary).length
  length_le : (Utf8.encode boundary).length ≤ 70
  chars : ∀ c ∈ boundary, c ∈ boundaryChars
  last : boundary.getLast? ≠ some ' '

theorem isDeclarable_of_isValid (h : isValid boundary = true) : IsDeclarable boundary := by
  simp only [isValid, Bool.and_eq_true, Bool.not_eq_true', List.isEmpty_eq_false_iff,
    decide_eq_true_eq, bne_iff_ne, List.all_eq_true] at h
  obtain ⟨⟨⟨hne, hlength⟩, hlast⟩, hchars⟩ := h
  exact ⟨List.length_pos_iff.mpr (Utf8.encode_ne_nil hne), hlength,
    fun c hc => isBoundaryChar_iff.mp (hchars c hc), hlast⟩

end Valid

/-! ### Parameters -/

/-- The parameters of a value: its pieces between semicolons, behind the first. -/
def parameters (contentType : Text) : List Text := (Text.split ';' contentType).tail

/-- The name is `boundary`, in any letter case. -/
def IsBoundaryName (name : Text) : Prop := '=' ∉ name ∧ Text.lowerAscii name.trim = "boundary".toList

/-- The text before the first equals sign is `boundary`, in any letter case, with any white space
around it. -/
def IsBoundaryParameter (parameter : Text) : Prop :=
  ∃ name value, parameter = name ++ '=' :: value ∧ IsBoundaryName name

/-- The text less white space and quotes around it. -/
def bare (value : Text) : Text := value.trim.trimChar '"'

section Parameters

variable {contentType parameter boundary : Text}

theorem boundaryParameter?_eq_some_iff :
    boundaryParameter? parameter = some boundary ↔
      ∃ name value, parameter = name ++ '=' :: value ∧ IsBoundaryName name ∧ bare value = boundary := by
  constructor
  · intro h
    unfold boundaryParameter? at h
    split at h
    · cases h
    · next name value hcut =>
      obtain ⟨rfl, hname⟩ := Text.splitOnce_eq_some.mp hcut
      split at h
      · next hboundary => exact ⟨name, value, rfl, ⟨hname, hboundary⟩, Option.some.inj h⟩
      · cases h
  · rintro ⟨name, value, rfl, ⟨hname, hboundary⟩, rfl⟩
    rw [boundaryParameter?, Text.splitOnce_eq_some.mpr ⟨rfl, hname⟩]
    exact if_pos hboundary

theorem boundaryParameter?_eq_none_iff :
    boundaryParameter? parameter = none ↔ ¬ IsBoundaryParameter parameter := by
  rw [← not_iff_not, not_not, ← ne_eq, Option.ne_none_iff_exists']
  simp only [boundaryParameter?_eq_some_iff]
  constructor
  · rintro ⟨boundary, name, value, hparameter, hname, -⟩
    exact ⟨name, value, hparameter, hname⟩
  · rintro ⟨name, value, hparameter, hname⟩
    exact ⟨bare value, name, value, hparameter, hname, rfl⟩

/-- **Which boundary a value declares**: that of its first boundary parameter, if the type is that of a
form in parts and the boundary may be declared. -/
theorem ofContentType_eq_ok_iff :
    ofContentType contentType = .ok (some boundary) ↔
      isFormData contentType = true ∧ isValid boundary = true ∧
        ∃ before parameter after, parameters contentType = before ++ parameter :: after ∧
          (∀ p ∈ before, ¬ IsBoundaryParameter p) ∧ boundaryParameter? parameter = some boundary := by
  have hfirst : ((Text.split ';' contentType).drop 1).findSome? boundaryParameter? = some boundary ↔
      ∃ before parameter after, parameters contentType = before ++ parameter :: after ∧
        (∀ p ∈ before, ¬ IsBoundaryParameter p) ∧ boundaryParameter? parameter = some boundary := by
    rw [List.drop_one, List.findSome?_eq_some_iff]
    simp only [boundaryParameter?_eq_none_iff, parameters, and_comm]
  rw [← hfirst, ofContentType]
  generalize ((Text.split ';' contentType).drop 1).findSome? boundaryParameter? = first
  cases isFormData contentType with
  | false => simp
  | true =>
    cases first with
    | none => simp
    | some found =>
      simp only [if_true, validate, true_and, Option.some.injEq]
      split
      · next hvalid =>
        simp only [Except.map, Except.ok.injEq, Option.some.injEq]
        exact ⟨fun h => ⟨h ▸ hvalid, h⟩, fun h => h.2⟩
      · next hvalid =>
        simp only [Except.map, reduceCtorEq, false_iff]
        exact fun h => hvalid (h.2 ▸ h.1)

end Parameters

/-! ### Values that are written -/

section Written

variable {type name boundary value ending s : Text} {params : List Text} {c : Char}

theorem not_mem_of_lowerAscii (h : Text.lowerAscii s = type) (hc : Text.lowerAsciiChar c ∉ type) :
    c ∉ s := fun hmem => hc (h ▸ List.mem_map_of_mem hmem)

/-- A value that declares a boundary: a type, parameters, and the boundary parameter. -/
def declaring (type : Text) (params : List Text) (name value : Text) : Text :=
  type ++ (params.flatMap (';' :: ·) ++ "; ".toList ++ name ++ '=' :: value)

/-- ASCII letters are no white space. -/
theorem lowerAsciiChar_of_isWhite (h : Text.isWhite c = true) : Text.lowerAsciiChar c = c := by
  refine if_neg fun ⟨hA, hZ⟩ => ?_
  have hlow : 65 ≤ c.toNat := hA
  have hhigh : c.toNat ≤ 90 := hZ
  simp only [Text.isWhite, Bool.or_eq_true, Bool.and_eq_true, decide_eq_true_eq, beq_iff_eq] at h
  omega

/-- A text in small letters that has no white space has none in capitals. -/
theorem not_isWhite_of_lowerAscii (h : Text.lowerAscii s = type)
    (htype : type.any Text.isWhite = false) : ∀ c ∈ s, Text.isWhite c = false := by
  intro c hc
  by_contra hwhite
  rw [Bool.not_eq_false] at hwhite
  have hmem : c ∈ type := by
    rw [← lowerAsciiChar_of_isWhite hwhite, ← h]
    exact List.mem_map_of_mem hc
  exact List.any_eq_false.mp htype c hmem hwhite

theorem isFormData_append (h : Text.lowerAscii type = "multipart/form-data".toList) (rest : Text) :
    isFormData (type ++ rest) = true := by
  have hwhite := not_isWhite_of_lowerAscii h (by decide)
  have hstart : Text.trimStart (type ++ rest) = type ++ rest := by
    cases type with
    | nil => cases h
    | cons c type => exact List.dropWhile_cons_of_neg (by simp [hwhite c List.mem_cons_self])
  rw [isFormData, hstart, List.isPrefixOf_iff_prefix, Text.lowerAscii, List.map_append,
    ← Text.lowerAscii, h]
  exact List.prefix_append _ _

theorem split_params (hparams : ∀ p ∈ params, ';' ∉ p) (htype : ';' ∉ type) (rest : Text) :
    Text.split ';' (type ++ (params.flatMap (';' :: ·) ++ ';' :: rest)) =
      type :: (params ++ Text.split ';' rest) := by
  induction params generalizing type with
  | nil => exact Text.split_append htype rest
  | cons p params ih =>
    obtain ⟨hp, hparams⟩ := List.forall_mem_cons.mp hparams
    rw [List.flatMap_cons, List.append_assoc, List.cons_append, Text.split_append htype, ih hparams hp]
    rfl

/-- **A boundary is read back from the value that it is written into**, whatever parameters stand before it
and whatever text stands behind it, if it is what the text behind the equals sign is bare. -/
theorem ofContentType_declaring (htype : Text.lowerAscii type = "multipart/form-data".toList)
    (hname : Text.lowerAscii name = "boundary".toList)
    (hparams : ∀ p ∈ params, ';' ∉ p ∧ ¬ IsBoundaryParameter p) (hvalue : ';' ∉ value)
    (hbare : bare value = boundary) (hvalid : isValid boundary = true)
    (hending : ending = [] ∨ ∃ t, ending = ';' :: t) :
    ofContentType (declaring type params name value ++ ending) = .ok (some boundary) := by
  have hnamed : IsBoundaryName (' ' :: name) := by
    have hwhite := not_isWhite_of_lowerAscii hname (by decide)
    refine ⟨?_, ?_⟩
    · exact List.not_mem_cons_of_ne_of_not_mem (by decide) (not_mem_of_lowerAscii hname (by decide))
    · rw [Text.trim_cons_white (by decide), Text.trim_of_forall hwhite, hname]
  have hparameter : boundaryParameter? (' ' :: name ++ '=' :: value) = some boundary :=
    boundaryParameter?_eq_some_iff.mpr ⟨_, _, rfl, hnamed, hbare⟩
  have hpiece : ';' ∉ ' ' :: name ++ '=' :: value := by
    have hsemicolon : ';' ∉ name := not_mem_of_lowerAscii hname (by decide)
    simp [hsemicolon, hvalue]
  have hlast : ∃ after, Text.split ';' (' ' :: name ++ '=' :: value ++ ending) =
      (' ' :: name ++ '=' :: value) :: after := by
    obtain rfl | ⟨t, rfl⟩ := hending
    · exact ⟨[], by rw [List.append_nil, Text.split_of_not_mem hpiece]⟩
    · exact ⟨_, Text.split_append hpiece t⟩
  obtain ⟨after, hafter⟩ := hlast
  have hwhole : declaring type params name value ++ ending =
      type ++ (params.flatMap (';' :: ·) ++ ';' :: (' ' :: name ++ '=' :: value ++ ending)) := by
    simp [declaring]
  have hsplit := split_params (fun p hp => (hparams p hp).1)
    (not_mem_of_lowerAscii htype (by decide)) (' ' :: name ++ '=' :: value ++ ending)
  refine ofContentType_eq_ok_iff.mpr ⟨?_, hvalid, params, _, after, ?_, fun p hp => (hparams p hp).2,
    hparameter⟩
  · rw [hwhole]
    exact isFormData_append htype _
  · rw [parameters, hwhole, hsplit, List.tail_cons, hafter]

/-- White space in a boundary that may be declared is a space. -/
theorem eq_space_of_isWhite (hc : c ∈ boundaryChars) (hwhite : Text.isWhite c = true) : c = ' ' := by
  have hall : boundaryChars.all (fun d => !Text.isWhite d || d == ' ') = true := by decide +kernel
  have hspace := List.all_eq_true.mp hall c hc
  rw [hwhite] at hspace
  exact beq_iff_eq.mp hspace

/-- Between quotes a boundary is kept as it is. -/
theorem bare_quoted (h : isValid boundary = true) : bare ('"' :: (boundary ++ ['"'])) = boundary := by
  have htrim : Text.trim ('"' :: (boundary ++ ['"'])) = '"' :: (boundary ++ ['"']) :=
    Text.trim_eq_self (by decide) (by decide) boundary
  rw [bare, htrim]
  exact Text.trimChar_marks (not_mem_of_isValid h (by decide))

/-- Without quotes a boundary is kept as it is if it has no space at its front. -/
theorem bare_plain (h : isValid boundary = true) (hfirst : boundary.head? ≠ some ' ') :
    bare boundary = boundary := by
  have hspace : ∀ c ∈ boundary, c ≠ ' ' → Text.isWhite c = false := by
    intro c hc hne
    by_contra hwhite
    rw [Bool.not_eq_false] at hwhite
    exact hne (eq_space_of_isWhite ((isDeclarable_of_isValid h).chars c hc) hwhite)
  have htrim : boundary.trim = boundary := by
    refine Text.trim_of_ends (fun c hc => ?_) fun c hc => ?_
    · exact hspace c (List.mem_of_head? hc) fun he => hfirst (he ▸ hc)
    · exact hspace c (List.mem_of_getLast? hc) fun he => (isDeclarable_of_isValid h).last (he ▸ hc)
  rw [bare, htrim]
  exact Text.trimChar_of_not_mem (not_mem_of_isValid h (by decide))

/-- **What is declared is read, and what is read may be declared.** A boundary is read back from every value
that declares it: in quotes, or plain if it has no space at its front; the type and the name of the
parameter in any letter case, other parameters before it, any text behind a semicolon after it. What is
read from any value is one to seventy bytes of the boundary characters, the last no space, and a body can
be read with it. -/
theorem ofContentType_inverts :
    (∀ (type name boundary ending : Text) (params : List Text), validate boundary = .ok () →
      Text.lowerAscii type = "multipart/form-data".toList → Text.lowerAscii name = "boundary".toList →
      (∀ p ∈ params, ';' ∉ p ∧ ¬ IsBoundaryParameter p) → (ending = [] ∨ ∃ t, ending = ';' :: t) →
      ofContentType (declaring type params name ('"' :: (boundary ++ ['"'])) ++ ending) =
          .ok (some boundary) ∧
        (boundary.head? ≠ some ' ' →
          ofContentType (declaring type params name boundary ++ ending) = .ok (some boundary))) ∧
    ∀ contentType boundary, ofContentType contentType = .ok (some boundary) →
      IsDeclarable boundary ∧ usable boundary = .ok () := by
  refine ⟨fun type name boundary ending params hvalidate htype hname hparams hending => ?_, ?_⟩
  · have hvalid := validate_eq_ok_iff.mp hvalidate
    have hmark : ';' ∉ boundary := not_mem_of_isValid hvalid (by decide)
    constructor
    · have hquoted : ';' ∉ '"' :: (boundary ++ ['"']) := by simp [hmark]
      exact ofContentType_declaring htype hname hparams hquoted (bare_quoted hvalid) hvalid hending
    · intro hfirst
      exact ofContentType_declaring htype hname hparams hmark (bare_plain hvalid hfirst) hvalid hending
  · intro contentType boundary h
    obtain ⟨-, hvalid, -⟩ := ofContentType_eq_ok_iff.mp h
    exact ⟨isDeclarable_of_isValid hvalid, Header.usable_of_isValid hvalid⟩

/-- A boundary with marks and spaces in it, among parameters that look like boundary parameters. -/
theorem ofContentType_inverts_spaced :
    ofContentType "Multipart/FORM-data;boundary;x boundary=1; Boundary=\" a=b: c?\";boundary=d".toList =
        .ok (some " a=b: c?".toList) ∧
      ofContentType "multipart/form-data; BOUNDARY='a' =b".toList = .ok (some "'a' =b".toList) ∧
      IsDeclarable "'a' =b".toList := by
  have hname : ∀ p ∈ ["boundary".toList, "x boundary=1".toList], ';' ∉ p ∧ ¬ IsBoundaryParameter p := by
    simp only [← boundaryParameter?_eq_none_iff]
    decide
  obtain ⟨hwritten, hread⟩ := ofContentType_inverts
  have hquoted := (hwritten "Multipart/FORM-data".toList "Boundary".toList " a=b: c?".toList
    ";boundary=d".toList _ (by decide +kernel) (by decide) (by decide) hname (Or.inr ⟨_, rfl⟩)).1
  have hplain := (hwritten "multipart/form-data".toList "BOUNDARY".toList "'a' =b".toList []
    [] (by decide +kernel) (by decide) (by decide) (fun _ h => absurd h List.not_mem_nil) (Or.inl rfl)).2
    (by decide)
  exact ⟨hquoted, hplain, (hread _ _ hplain).1⟩

end Written

end FormCapture.Multipart
