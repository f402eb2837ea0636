import FormCapture.Proofs.Header.FieldMap
import FormCapture.Proofs.Multipart.ContentType

/-! # Content types that are given more than once

The values of a repeated field are joined before one of them is looked at, so the boundary of a body is
taken from all `Content-Type` lines of its head together. The joint holds neither a semicolon nor an equals
sign, and a comma stands in no name of a boundary parameter; so the parameter begins in one of the lines,
with its semicolon, its name and its equals sign (`exists_begins`). What does not have to stand in that line
is the type, which is the first line's, and the end of the value: a value that no semicolon ends goes on
with the lines behind it. `boundary_begins` says what is left of a declaration by one line, and
`boundary_strayBlock` is a head whose boundary is declared by none. -/

namespace FormCapture

open Multipart

namespace Fields

theorem join_singleton (value : Text) : join [value] = value := List.intercalate_singleton

theorem join_cons {later : List Text} (h : later ≠ []) (first : Text) :
    join (first :: later) = first ++ (joint ++ join later) := by
  rw [join, List.intercalate_cons_of_ne_nil h, List.append_assoc, ← join]

/-- **A character that is not of the joint stands in one of the values.** The induction takes off the values
in front of it. -/
theorem exists_of_join_eq {c : Char} (hc : c ∉ joint) : ∀ {values : List Text} {front rest : Text},
    join values = front ++ c :: rest →
      ∃ before start last after, values = before ++ (start ++ c :: last) :: after ∧
        front = join (before ++ [start]) ∧ rest = join (last :: after)
  | [], front, rest, h => by simp [join] at h
  | [only], front, rest, h => by
    rw [join_singleton] at h
    exact ⟨[], front, rest, [], by rw [h]; rfl, (join_singleton front).symm, (join_singleton rest).symm⟩
  | first :: second :: later, front, rest, h => by
    rw [join_cons (List.cons_ne_nil second later)] at h
    rcases Text.exists_of_append_eq h with ⟨last, rfl, rfl⟩ | ⟨skipped, rfl, hskipped⟩
    · exact ⟨[], front, last, second :: later, rfl, (join_singleton front).symm,
        (join_cons (List.cons_ne_nil second later) last).symm⟩
    · rcases Text.exists_of_append_eq hskipped with ⟨last, hjoint, -⟩ | ⟨passed, rfl, hlater⟩
      · exact absurd (hjoint ▸ List.mem_append_right skipped List.mem_cons_self) hc
      · obtain ⟨before, start, last, after, hvalues, rfl, rfl⟩ := exists_of_join_eq hc hlater
        exact ⟨first :: before, start, last, after, by rw [hvalues]; rfl,
          (join_cons (List.append_ne_nil_of_right_ne_nil before (List.cons_ne_nil start [])) first).symm, rfl⟩

/-- What stands last in the values stands last in what they are joined to. -/
theorem suffix_join (last : Text) : ∀ before : List Text, last <:+ join (before ++ [last])
  | [] => ⟨[], (join_singleton last).symm⟩
  | first :: before => by
    rw [List.cons_append, join_cons (List.append_ne_nil_of_right_ne_nil before (List.cons_ne_nil last []))]
    exact (suffix_join last before).trans ((List.suffix_append _ _).trans (List.suffix_append _ _))

theorem prefix_join (first : Text) (later : List Text) : first <+: join (first :: later) := by
  cases later with
  | nil => exact ⟨[], (List.append_nil first).trans (join_singleton first).symm⟩
  | cons second later => exact ⟨_, (join_cons (List.cons_ne_nil second later) first).symm⟩

end Fields

namespace Header

open Fields

variable {raw boundary value front name text : Text} {values before after : List Text}

/-! ### Names and types -/

/-- A name of a boundary parameter is made of letters and white space. -/
theorem not_mem_of_isBoundaryName (h : IsBoundaryName name) {c : Char} (hwhite : Text.isWhite c = false)
    (hc : Text.lowerAsciiChar c ∉ "boundary".toList) : c ∉ name :=
  fun hmem => hc (h.2 ▸ List.mem_map_of_mem (Text.mem_trim hwhite hmem))

/-- **The type is that of the first value**, for it holds no comma. -/
theorem isFormData_of_join (h : isFormData (join (value :: after)) = true) : isFormData value = true := by
  cases after with
  | nil => rwa [join_singleton] at h
  | cons second later =>
    have hcomma : join (value :: second :: later) = value ++ ',' :: ' ' :: join (second :: later) :=
      join_cons (List.cons_ne_nil second later) value
    rw [isFormData, List.isPrefixOf_iff_prefix] at h ⊢
    rw [hcomma, Text.trimStart_append (by decide), Text.lowerAscii, List.map_append, List.map_cons] at h
    rcases List.prefix_or_prefix_of_prefix h (List.prefix_append _ _) with hin | ⟨more, hmore⟩
    · exact hin
    · rw [← hmore, List.prefix_append_right_inj] at h
      cases more with
      | nil =>
        rw [List.append_nil] at hmore
        exact hmore ▸ List.prefix_rfl
      | cons d more =>
        obtain ⟨rfl, -⟩ := List.cons_prefix_cons.mp h
        have hmem := hmore ▸ List.mem_append_right _ List.mem_cons_self
        exact absurd hmem (by decide)

/-! ### The parameter -/

/-- The text up to its first semicolon. -/
def upToSemicolon (t : Text) : Text := t.takeWhile (· != ';')

theorem upToSemicolon_append {s : Text} (h : ';' ∉ s) (t : Text) :
    upToSemicolon (s ++ t) = s ++ upToSemicolon t :=
  List.takeWhile_append_of_pos fun _ hc => bne_iff_ne.mpr fun he => h (he ▸ hc)

theorem upToSemicolon_ended {t ending : Text} (h : ';' ∉ t)
    (hending : ending = [] ∨ ∃ rest, ending = ';' :: rest) : upToSemicolon (t ++ ending) = t := by
  have hstop : upToSemicolon ending = [] := by
    obtain rfl | ⟨rest, rfl⟩ := hending
    · rfl
    · exact List.takeWhile_cons_of_neg (by decide)
  rw [upToSemicolon_append h, hstop, List.append_nil]

/-- The first piece of a text ends at its first semicolon. -/
theorem exists_split_eq (t : Text) : ∃ pieces, Text.split ';' t = upToSemicolon t :: pieces := by
  obtain ⟨piece, pieces, ht⟩ := List.exists_cons_of_ne_nil (Text.split_ne_nil ';' t)
  have hpiece : upToSemicolon t = piece := by
    obtain ⟨hmark, ⟨rfl, -⟩ | ⟨rest, rfl, -⟩⟩ := Text.split_eq_cons ht
    · have h := upToSemicolon_ended hmark (Or.inl rfl)
      rwa [List.append_nil] at h
    · exact upToSemicolon_ended hmark (Or.inr ⟨rest, rfl⟩)
  exact ⟨pieces, hpiece ▸ ht⟩

theorem upToSemicolon_parameter (h : IsBoundaryName name) (t : Text) :
    upToSemicolon (name ++ '=' :: t) = name ++ '=' :: upToSemicolon t := by
  have hmark : ';' ∉ name := not_mem_of_isBoundaryName h (by decide) (by decide)
  rw [upToSemicolon_append hmark, upToSemicolon, List.takeWhile_cons_of_pos (by decide), upToSemicolon]

/-- **The boundary parameter of several values begins in one of them**, `value`: with a semicolon, a name and
an equals sign. No parameter in front of it is a boundary parameter. -/
structure Begins (before : List Text) (value front name text : Text) : Prop where
  value_eq : value = front ++ ';' :: (name ++ '=' :: text)
  isBoundaryName : IsBoundaryName name
  isFirst : ∀ p ∈ parameters (join (before ++ [front])), ¬ IsBoundaryParameter p

/-- **Where a boundary begins that is declared by values that are joined**, and where it ends. -/
theorem exists_begins (h : ofContentType (join values) = .ok (some boundary)) :
    ∃ before value after front name text, values = before ++ value :: after ∧
      Begins before value front name text ∧ boundary = bare (upToSemicolon (join (text :: after))) := by
  obtain ⟨-, -, earlier, parameter, later, hparameters, hearlier, hparameter⟩ :=
    ofContentType_eq_ok_iff.mp h
  obtain ⟨name, found, rfl, hname, rfl⟩ := boundaryParameter?_eq_some_iff.mp hparameter
  obtain ⟨type, pieces, hpieces⟩ := List.exists_cons_of_ne_nil (Text.split_ne_nil ';' (join values))
  rw [parameters, hpieces, List.tail_cons] at hparameters
  subst hparameters
  obtain ⟨skipped, rest, hjoin, hskipped, hrest⟩ :=
    Text.split_eq_append hpieces (List.cons_ne_nil type earlier) (List.cons_ne_nil _ later)
  obtain ⟨after', hafter'⟩ := exists_split_eq rest
  have hpiece : upToSemicolon rest = name ++ '=' :: found := (List.cons.inj (hafter'.symm.trans hrest)).1
  obtain ⟨w, rfl⟩ : ∃ w, rest = name ++ '=' :: w := by
    obtain ⟨more, hmore⟩ := List.takeWhile_prefix (l := rest) (· != ';')
    refine ⟨found ++ more, ?_⟩
    rw [← hmore, ← upToSemicolon, hpiece, List.append_assoc, List.cons_append]
  rw [upToSemicolon_parameter hname] at hpiece
  have hfound : upToSemicolon w = found := (List.cons.inj (List.append_cancel_left hpiece)).2
  obtain ⟨before, front, last, after, rfl, rfl, hlast⟩ := exists_of_join_eq (by decide) hjoin
  -- the name and the equals sign cannot be behind a joint, which would put a comma into the name
  obtain ⟨others, start, text, after, hvalues, hstart, rfl⟩ := exists_of_join_eq (by decide) hlast.symm
  cases others with
  | cons first others =>
    have hcomma : ',' ∈ name := by
      rw [hstart, List.cons_append, join_cons (List.append_ne_nil_of_right_ne_nil others (List.cons_ne_nil start []))]
      simp [joint]
    exact absurd hcomma (not_mem_of_isBoundaryName hname (by decide) (by decide))
  | nil =>
    cases hvalues
    rw [List.nil_append, join_singleton] at hstart
    subst hstart
    refine ⟨before, _, after, front, name, text, rfl, ⟨rfl, hname, ?_⟩, by rw [hfound]⟩
    rw [parameters, hskipped]
    exact hearlier

/-- The value ends in the line that it begins in. -/
theorem upToSemicolon_join (h : ';' ∈ text ∨ after = []) :
    upToSemicolon (join (text :: after)) = upToSemicolon text := by
  rcases h with hmem | rfl
  · obtain ⟨more, hmore⟩ := prefix_join text after
    obtain ⟨start, rest, rfl, hstart⟩ := List.eq_append_cons_of_mem hmem
    rw [← hmore, List.append_assoc, List.cons_append, upToSemicolon_ended hstart (Or.inr ⟨_, rfl⟩),
      upToSemicolon_ended hstart (Or.inr ⟨_, rfl⟩)]
  · rw [join_singleton]

/-- A parameter that begins in a value and ends there is declared by this value alone, if its type is that of
a form in parts. -/
theorem Begins.ofContentType_eq (h : Begins before value front name text)
    (hboundary : boundary = bare (upToSemicolon text)) (hvalid : isValid boundary = true)
    (hform : isFormData value = true) : ofContentType value = .ok (some boundary) := by
  obtain ⟨pieces, hpieces⟩ := exists_split_eq (name ++ '=' :: text)
  refine ofContentType_eq_ok_iff.mpr ⟨hform, hvalid, (Text.split ';' front).tail, _, pieces, ?_,
    fun p hp => h.isFirst p (Text.tail_split_subset ';' (suffix_join front before) hp),
    boundaryParameter?_eq_some_iff.mpr ⟨name, upToSemicolon text, rfl, h.isBoundaryName, hboundary.symm⟩⟩
  rw [parameters, h.value_eq, Text.split_append_cons, List.tail_append_of_ne_nil (Text.split_ne_nil ';' front),
    hpieces, upToSemicolon_parameter h.isBoundaryName]

theorem ofContentType_of_boundary {head : Head} (hparse : Head.parse raw = .ok head)
    (hboundary : head.boundary = .ok (some boundary)) :
    ofContentType (join (given "content-type" (countedLines raw))) = .ok (some boundary) := by
  rw [(parsed_of_parse hparse).boundary_eq, value?_eq] at hboundary
  cases hgiven : given "content-type" (countedLines raw) with
  | nil =>
    rw [hgiven] at hboundary
    cases hboundary
  | cons first later =>
    rw [hgiven] at hboundary
    exact hboundary

/-- **A boundary is declared where its parameter begins.** The parameter begins in the value of one
`Content-Type` line, and no parameter in front of it is a boundary parameter; the boundary goes up to the
next semicolon, be it in the lines behind. The type is that of the first line. So a parameter that ends in
its line, or is in the last, is declared by this line, and the line alone declares the boundary if it also
has the type; as it does if it is the only one. -/
theorem boundary_begins {head : Head} (hparse : Head.parse raw = .ok head)
    (hboundary : head.boundary = .ok (some boundary)) :
    ∃ before value after front name text,
      given "content-type" (countedLines raw) = before ++ value :: after ∧
      Begins before value front name text ∧
      boundary = bare (upToSemicolon (join (text :: after))) ∧
      (∀ first ∈ (before ++ [value]).head?, isFormData first = true) ∧
      (';' ∈ text ∨ after = [] → boundary = bare (upToSemicolon text) ∧
        (isFormData value = true → ofContentType value = .ok (some boundary))) ∧
      (before = [] → after = [] → ofContentType value = .ok (some boundary)) := by
  have hjoin := ofContentType_of_boundary hparse hboundary
  obtain ⟨before, value, after, front, name, text, hvalues, hbegins, hb⟩ := exists_begins hjoin
  obtain ⟨hform, hvalid, -⟩ := ofContentType_eq_ok_iff.mp hjoin
  rw [hvalues] at hform
  have hclosed : ';' ∈ text ∨ after = [] → boundary = bare (upToSemicolon text) := fun h =>
    hb.trans (congrArg bare (upToSemicolon_join h))
  refine ⟨before, value, after, front, name, text, hvalues, hbegins, hb, ?_, fun h => ?_, ?_⟩
  · cases before with
    | nil =>
      rintro first ⟨⟩
      exact isFormData_of_join hform
    | cons first before =>
      rintro first ⟨⟩
      exact isFormData_of_join hform
  · exact ⟨hclosed h, hbegins.ofContentType_eq (hclosed h) hvalid⟩
  · rintro rfl rfl
    exact hbegins.ofContentType_eq (hclosed (Or.inr rfl)) hvalid (isFormData_of_join hform)

/-- Three lines, of which the second holds the parameter and its end. -/
def threeTypesBlock : Text :=
  ("POST / HTTP/1.1\nContent-Type: multipart/form-data; a\n" ++
    "content-type : Multipart/Form-Data; BOUNDARY = \"b, c\"; d\nContent-Type: text/plain\n\n").toList

def threeTypesHead : Head :=
  { method := "POST".toList, target := "/".toList, version := "HTTP/1.1".toList,
    fields := ⟨[("content-type".toList, "multipart/form-data; a".toList),
      ("content-type".toList, "Multipart/Form-Data; BOUNDARY = \"b, c\"; d".toList),
      ("content-type".toList, "text/plain".toList)]⟩, raw := threeTypesBlock }

theorem boundary_begins_threeTypes :
    Head.parse threeTypesBlock = .ok threeTypesHead ∧
      threeTypesHead.boundary = .ok (some "b, c".toList) ∧
      ∃ before value after front name text,
        given "content-type" (countedLines threeTypesBlock) = before ++ value :: after ∧
        Begins before value front name text ∧
        "b, c".toList = bare (upToSemicolon (join (text :: after))) ∧
        (isFormData value = true → ';' ∈ text → ofContentType value = .ok (some "b, c".toList)) := by
  have hparse : Head.parse threeTypesBlock = .ok threeTypesHead := by decide +kernel
  have hboundary : threeTypesHead.boundary = .ok (some "b, c".toList) := by decide +kernel
  obtain ⟨before, value, after, front, name, text, hvalues, hbegins, hb, -, hclosed, -⟩ :=
    boundary_begins hparse hboundary
  exact ⟨hparse, hboundary, before, value, after, front, name, text, hvalues, hbegins, hb,
    fun hform hmark => (hclosed (Or.inl hmark)).2 hform⟩

/-- A type behind a declared boundary. -/
def strayBlock : Text :=
  ("POST / HTTP/1.1\nContent-Type: multipart/form-data; boundary=abc\nContent-Type: text/plain\n" ++
    "Content-Length: 21\n\n").toList

def strayHead : Head :=
  { method := "POST".toList, target := "/".toList, version := "HTTP/1.1".toList,
    fields := ⟨[("content-type".toList, "multipart/form-data; boundary=abc".toList),
      ("content-type".toList, "text/plain".toList), ("content-length".toList, "21".toList)]⟩,
    raw := strayBlock }

/-- A boundary behind another type. -/
def partedBlock : Text :=
  "POST / HTTP/1.1\nContent-Type: multipart/form-data\nContent-Type: x; boundary=abc\n\n".toList

def partedHead : Head :=
  { method := "POST".toList, target := "/".toList, version := "HTTP/1.1".toList,
    fields := ⟨[("content-type".toList, "multipart/form-data".toList),
      ("content-type".toList, "x; boundary=abc".toList)]⟩, raw := partedBlock }

/-- **Two lines that together declare a boundary which neither declares**: the boundary of one goes on with
the type of the other, and a body is cut at it; or the type is that of one and the parameter that of the
other. -/
theorem boundary_strayBlock :
    (Head.parse strayBlock = .ok strayHead ∧ strayHead.boundary = .ok (some "abc, text/plain".toList) ∧
      (∀ value ∈ given "content-type" (countedLines strayBlock),
        ofContentType value ≠ .ok (some "abc, text/plain".toList)) ∧
      ((Stream.openOn (.ofBytes (Utf8.encode strayBlock ++
          Bytes.ofAscii "--abc, text/plain--\r\n"))).readRequest {}).1 =
        .ok ⟨strayHead, .multipart "abc, text/plain".toList "--abc, text/plain--\r\n".toList⟩) ∧
    Head.parse partedBlock = .ok partedHead ∧ partedHead.boundary = .ok (some "abc".toList) ∧
      ∀ value ∈ given "content-type" (countedLines partedBlock),
        ofContentType value ≠ .ok (some "abc".toList) := by
  refine ⟨⟨?_, ?_, ?_, ?_⟩, ?_, ?_, ?_⟩ <;> decide +kernel

end Header

end FormCapture
