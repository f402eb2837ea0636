import FormCapture.Proofs.Text.Parts
import FormCapture.Settings.Ini
import Mathlib.Data.Nat.Find

/-! # INI documents, read line by line

What a line is shows in its trimmed text alone: it is skipped, it is a section line, or it is an assignment;
and it may be faulty. `Line.Says` gives the four readings, each in its own words, and `Line.ofText_eq_iff`
says that a line is read as what it says.

A document is then known by the numbers of its lines. The text is refused at the first faulty line
(`parseLines_eq_error_iff`); a key of a section has the value of the last line that assigns it while the
section is the current one (`LastValue`). Both are inductions over the lines, with any section and any
settings to begin with, one step per reading of the first line. Main statement: `parse_lastAssignment`. -/

namespace FormCapture

/-! ### What a line says -/

namespace Line

variable {line name key value : Text} {fault : LineFault} {r : Except LineFault Line}

/-- The line is blank or a comment. -/
def IsSkipped (line : Text) : Prop :=
  line.trim = [] ∨ line.trim.head? = some '#' ∨ line.trim.head? = some ';'

/-- The line starts with a bracket. -/
def IsSection (line : Text) : Prop := line.trim.head? = some '['

def IsAssignment (line : Text) : Prop := ¬ IsSkipped line ∧ ¬ IsSection line

instance (line : Text) : Decidable (IsSkipped line) := inferInstanceAs (Decidable (_ ∨ _ ∨ _))

instance (line : Text) : Decidable (IsSection line) := inferInstanceAs (Decidable (_ = _))

instance (line : Text) : Decidable (IsAssignment line) := inferInstanceAs (Decidable (_ ∧ _))

/-- The line is a section line with this name, in small letters. -/
def Opens (line name : Text) : Prop :=
  ∃ inner : Text, line.trim = '[' :: (inner ++ [']']) ∧ inner.trim ≠ [] ∧ name = inner.trim.lower

/-- The line is an assignment of this value to this key, in small letters. -/
def Assigns (line key value : Text) : Prop :=
  IsAssignment line ∧ ∃ left right : Text, line.trim = left ++ '=' :: right ∧ '=' ∉ left ∧ left.trim ≠ [] ∧
    key = left.trim.lower ∧ value = cleanValue right

/-- What is wrong with a line. -/
inductive HasFault (line : Text) : LineFault → Prop
  | unterminated : IsSection line → (∀ inner : Text, line.trim ≠ '[' :: (inner ++ [']'])) →
      HasFault line (.unterminatedSection line.trim)
  | blankName {inner : Text} : line.trim = '[' :: (inner ++ [']']) → inner.trim = [] →
      HasFault line .emptySection
  | noEquals : IsAssignment line → '=' ∉ line.trim → HasFault line (.invalidSyntax line.trim)
  | blankKey {left right : Text} : IsAssignment line → line.trim = left ++ '=' :: right → '=' ∉ left →
      left.trim = [] → HasFault line .emptyKey

/-- The four readings of a line. -/
inductive Says (line : Text) : Except LineFault Line → Prop
  | skipped : IsSkipped line → Says line (.ok .skipped)
  | heading {name : Text} : Opens line name → Says line (.ok (.heading name))
  | assignment {key value : Text} : Assigns line key value → Says line (.ok (.assignment key value))
  | fault {fault : LineFault} : HasFault line fault → Says line (.error fault)

theorem Opens.isSection (h : Opens line name) : IsSection line := by
  obtain ⟨inner, hline, -⟩ := h
  rw [IsSection, hline]
  rfl

/-! ### How it is read -/

theorem ofText_of_isSkipped (h : IsSkipped line) : ofText line = .ok .skipped := by
  rcases h with h | h | h
  · rw [ofText, h, ofTrimmed]
  · obtain ⟨rest, hline⟩ := List.head?_eq_some_iff.mp h
    rw [ofText, hline]
    rfl
  · obtain ⟨rest, hline⟩ := List.head?_eq_some_iff.mp h
    rw [ofText, hline]
    rfl

theorem ofText_of_isSection {rest : Text} (h : line.trim = '[' :: rest) :
    ofText line = ofSection line.trim rest := by
  rw [ofText, h]
  rfl

theorem ofText_of_isAssignment (h : IsAssignment line) : ofText line = ofAssignment line.trim := by
  obtain ⟨hskipped, hsection⟩ := h
  cases htrim : line.trim with
  | nil => exact absurd (Or.inl htrim) hskipped
  | cons c rest =>
    rw [IsSkipped, htrim] at hskipped
    rw [IsSection, htrim] at hsection
    simp only [List.head?_cons, Option.some.injEq, reduceCtorEq, false_or, not_or] at hskipped hsection
    have hmark : isCommentMark c = false := by
      simpa [isCommentMark] using And.intro hskipped.2 hskipped.1
    rw [ofText, htrim, ofTrimmed, hmark, if_neg Bool.false_ne_true, if_neg hsection]

/-- A section line that is closed is read by what stands between the brackets. -/
theorem ofSection_closed (line inner : Text) :
    ofSection line (inner ++ [']']) =
      if inner.trim = [] then .error .emptySection else .ok (.heading inner.trim.lower) := by
  rw [ofSection, if_pos List.getLast?_concat, List.dropLast_concat]
  simp only [List.isEmpty_iff, Text.lower_eq_nil]

/-- An assignment is read by what stands before and after its first equals sign. -/
theorem ofAssignment_cut {left right : Text} (h : '=' ∉ left) :
    ofAssignment (left ++ '=' :: right) =
      if left.trim = [] then .error .emptyKey else .ok (.assignment left.trim.lower (cleanValue right)) := by
  rw [ofAssignment, Text.splitOnce_eq_some.mpr ⟨rfl, h⟩]
  simp only [List.isEmpty_iff, Text.lower_eq_nil]

theorem HasFault.ofText_eq (h : HasFault line fault) : ofText line = .error fault := by
  cases h with
  | unterminated hsection hopen =>
    obtain ⟨rest, hline⟩ := List.head?_eq_some_iff.mp hsection
    rw [ofText_of_isSection hline, ofSection, if_neg]
    intro hlast
    obtain ⟨inner, rfl⟩ := List.getLast?_eq_some_iff.mp hlast
    exact hopen inner hline
  | blankName hline hblank => rw [ofText_of_isSection hline, ofSection_closed, if_pos hblank]
  | noEquals hassignment hequals =>
    rw [ofText_of_isAssignment hassignment, ofAssignment, Text.splitOnce_eq_none.mpr hequals]
  | blankKey hassignment hline hleft hblank =>
    rw [ofText_of_isAssignment hassignment, hline, ofAssignment_cut hleft, if_pos hblank]

theorem Says.ofText_eq (h : Says line r) : ofText line = r := by
  cases h with
  | skipped h => exact ofText_of_isSkipped h
  | heading h =>
    obtain ⟨inner, hline, hname, rfl⟩ := h
    rw [ofText_of_isSection hline, ofSection_closed, if_neg hname]
  | assignment h =>
    obtain ⟨hassignment, left, right, hline, hleft, hkey, rfl, rfl⟩ := h
    rw [ofText_of_isAssignment hassignment, hline, ofAssignment_cut hleft, if_neg hkey]
  | fault h => exact h.ofText_eq

/-- Each line has a reading. -/
theorem exists_says (line : Text) : ∃ r, Says line r := by
  by_cases hskipped : IsSkipped line
  · exact ⟨_, .skipped hskipped⟩
  by_cases hsection : IsSection line
  · by_cases hclosed : ∃ inner : Text, line.trim = '[' :: (inner ++ [']'])
    · obtain ⟨inner, hline⟩ := hclosed
      by_cases hname : inner.trim = []
      · exact ⟨_, .fault (.blankName hline hname)⟩
      · exact ⟨_, .heading ⟨inner, hline, hname, rfl⟩⟩
    · exact ⟨_, .fault (.unterminated hsection fun inner hline => hclosed ⟨inner, hline⟩)⟩
  · by_cases hequals : '=' ∈ line.trim
    · obtain ⟨left, right, hline, hleft⟩ := List.eq_append_cons_of_mem hequals
      by_cases hkey : Text.trim left = []
      · exact ⟨_, .fault (.blankKey ⟨hskipped, hsection⟩ hline hleft hkey)⟩
      · exact ⟨_, .assignment ⟨⟨hskipped, hsection⟩, left, right, hline, hleft, hkey, rfl, rfl⟩⟩
    · exact ⟨_, .fault (.noEquals ⟨hskipped, hsection⟩ hequals)⟩

/-- **A line is read as what it says.** -/
theorem ofText_eq_iff : ofText line = r ↔ Says line r := by
  refine ⟨fun h => ?_, Says.ofText_eq⟩
  obtain ⟨said, hsaid⟩ := exists_says line
  rwa [← h, hsaid.ofText_eq]

theorem Says.unique {r' : Except LineFault Line} (h : Says line r) (h' : Says line r') : r = r' :=
  h.ofText_eq.symm.trans h'.ofText_eq

theorem Assigns.unique {key' value' : Text} (h : Assigns line key value) (h' : Assigns line key' value') :
    key = key' ∧ value = value' := by
  cases (Says.assignment h).unique (.assignment h')
  exact ⟨rfl, rfl⟩

theorem HasFault.unique {fault' : LineFault} (h : HasFault line fault) (h' : HasFault line fault') :
    fault = fault' := by
  cases (Says.fault h).unique (.fault h')
  rfl

theorem Opens.unique {name' : Text} (h : Opens line name) (h' : Opens line name') : name = name' := by
  cases (Says.heading h).unique (.heading h')
  rfl

theorem Assigns.not_isSection (h : Assigns line key value) : ¬ IsSection line := h.1.2

theorem Opens.not_assigns (h : Opens line name) : ¬ Assigns line key value :=
  fun ha => ha.not_isSection h.isSection

theorem IsSkipped.not_assigns (h : IsSkipped line) : ¬ Assigns line key value := fun ha => ha.1.1 h

theorem IsSkipped.not_isSection (h : IsSkipped line) : ¬ IsSection line := by
  intro hsection
  rw [IsSection] at hsection
  rw [IsSkipped, hsection] at h
  rcases h with h | h | h
  · rw [h] at hsection
    cases hsection
  · cases h
  · cases h

/-- A line that can be read has no fault. -/
theorem Says.not_hasFault {said : Line} (h : Says line (.ok said)) : ¬ HasFault line fault := by
  intro hf
  cases h.unique (.fault hf)

end Line

/-! ### Documents -/

namespace Ini

open Line

variable {start name key value opened line : Text} {above rest lines : List Text}
  {settings : List Setting} {fault : LineFault} {e : Fault} {ini : Ini} {n i : Nat}

/-- The section behind some lines: the name of the last section line, or `start` if there is none. -/
def InSection (start : Text) (above : List Text) (name : Text) : Prop :=
  (name = start ∧ ∀ line ∈ above, ¬ IsSection line) ∨
    ∃ before line between, above = before ++ line :: between ∧ Opens line name ∧
      ∀ other ∈ between, ¬ IsSection other

/-- Line `i` assigns the value to the key while the section has this name. -/
def AssignsAt (start : Text) (lines : List Text) (i : Nat) (name key value : Text) : Prop :=
  ∃ line, lines[i]? = some line ∧ Assigns line key value ∧ InSection start (lines.take i) name

/-- Line `i` is faulty. -/
def FaultAt (lines : List Text) (i : Nat) (fault : LineFault) : Prop :=
  ∃ line, lines[i]? = some line ∧ HasFault line fault

/-! ### The current section -/

theorem inSection_nil : InSection start [] name ↔ name = start := by
  simp [InSection]

/-- A section line above another is not the nearest. -/
theorem InSection.cons {line : Text} (h : ∃ before heading between, above = before ++ heading :: between ∧
      Opens heading name ∧ ∀ other ∈ between, ¬ IsSection other) :
    InSection start (line :: above) name := by
  obtain ⟨before, heading, between, rfl, hopens, hbetween⟩ := h
  exact Or.inr ⟨line :: before, heading, between, rfl, hopens, hbetween⟩

theorem inSection_cons_of_not (h : ¬ IsSection line) :
    InSection start (line :: above) name ↔ InSection start above name := by
  constructor
  · rintro (⟨rfl, hnone⟩ | ⟨_ | ⟨first, before⟩, heading, between, habove, hopens, hbetween⟩)
    · exact Or.inl ⟨rfl, fun other hother => hnone other (List.mem_cons_of_mem line hother)⟩
    · cases habove
      exact absurd hopens.isSection h
    · cases habove
      exact Or.inr ⟨before, heading, between, rfl, hopens, hbetween⟩
  · rintro (⟨rfl, hnone⟩ | hnearest)
    · exact Or.inl ⟨rfl, List.forall_mem_cons.mpr ⟨h, hnone⟩⟩
    · exact .cons hnearest

theorem inSection_cons_of_opens (h : Opens line opened) :
    InSection start (line :: above) name ↔ InSection opened above name := by
  constructor
  · rintro (⟨rfl, hnone⟩ | ⟨_ | ⟨first, before⟩, heading, between, habove, hopens, hbetween⟩)
    · exact absurd h.isSection (hnone line List.mem_cons_self)
    · cases habove
      exact Or.inl ⟨hopens.unique h, hbetween⟩
    · cases habove
      exact Or.inr ⟨before, heading, between, rfl, hopens, hbetween⟩
  · rintro (⟨rfl, hnone⟩ | hnearest)
    · exact Or.inr ⟨[], line, above, rfl, h, hnone⟩
    · exact .cons hnearest

/-! ### Line by line -/

theorem assignsAt_zero :
    AssignsAt start (line :: rest) 0 name key value ↔ Assigns line key value ∧ name = start := by
  simp [AssignsAt, inSection_nil]

theorem assignsAt_succ_of_not (h : ¬ IsSection line) :
    AssignsAt start (line :: rest) (i + 1) name key value ↔ AssignsAt start rest i name key value := by
  simp only [AssignsAt, List.getElem?_cons_succ, List.take_succ_cons, inSection_cons_of_not h]

theorem assignsAt_succ_of_opens (h : Opens line opened) :
    AssignsAt start (line :: rest) (i + 1) name key value ↔ AssignsAt opened rest i name key value := by
  simp only [AssignsAt, List.getElem?_cons_succ, List.take_succ_cons, inSection_cons_of_opens h]

theorem AssignsAt.unique {value' : Text} (h : AssignsAt start lines i name key value)
    (h' : AssignsAt start lines i name key value') : value = value' := by
  obtain ⟨line, hline, hassigns, -⟩ := h
  obtain ⟨line', hline', hassigns', -⟩ := h'
  rw [hline] at hline'
  cases hline'
  exact (hassigns.unique hassigns').2

theorem faultAt_zero : FaultAt (line :: rest) 0 fault ↔ HasFault line fault := by
  simp [FaultAt]

theorem faultAt_succ : FaultAt (line :: rest) (i + 1) fault ↔ FaultAt rest i fault := by
  simp [FaultAt]

/-- **What a line does to the reading of the lines behind it.** -/
theorem parseLines_cons (n : Nat) (start : Text) (settings : List Setting) (line : Text) (rest : List Text) :
    (∃ fault, HasFault line fault ∧ parseLines n start settings (line :: rest) = .error ⟨fault, n⟩) ∨
    (IsSkipped line ∧
      parseLines n start settings (line :: rest) = parseLines (n + 1) start settings rest) ∨
    (∃ name, Opens line name ∧
      parseLines n start settings (line :: rest) = parseLines (n + 1) name settings rest) ∨
    ∃ key value, Assigns line key value ∧ parseLines n start settings (line :: rest) =
      parseLines (n + 1) start (⟨start, key, value⟩ :: settings) rest := by
  obtain ⟨r, hsays⟩ := exists_says line
  have hread := hsays.ofText_eq
  cases hsays with
  | skipped h => exact Or.inr (Or.inl ⟨h, by rw [parseLines, hread]⟩)
  | @heading name h => exact Or.inr (Or.inr (Or.inl ⟨name, h, by rw [parseLines, hread]⟩))
  | @assignment key value h =>
    exact Or.inr (Or.inr (Or.inr ⟨key, value, h, by rw [parseLines, hread]⟩))
  | @fault f h => exact Or.inl ⟨f, h, by rw [parseLines, hread]⟩

/-! ### The first faulty line -/

/-- Line `i` is faulty and none before it is. -/
def FirstFaultAt (lines : List Text) (i : Nat) (fault : LineFault) : Prop :=
  FaultAt lines i fault ∧ ∀ j < i, ∀ other, ¬ FaultAt lines j other

theorem firstFaultAt_of_hasFault (h : HasFault line fault) {other : LineFault} :
    FirstFaultAt (line :: rest) i other ↔ i = 0 ∧ other = fault := by
  constructor
  · rintro ⟨hat, hfirst⟩
    cases i with
    | zero => exact ⟨rfl, (faultAt_zero.mp hat).unique h⟩
    | succ i => exact absurd (faultAt_zero.mpr h) (hfirst 0 (Nat.succ_pos i) fault)
  · rintro ⟨rfl, rfl⟩
    exact ⟨faultAt_zero.mpr h, fun j hj => absurd hj (Nat.not_lt_zero j)⟩

/-- A line without a fault only moves the numbers. -/
theorem exists_firstFaultAt_cons (h : ∀ fault, ¬ HasFault line fault) {m : Nat} :
    (∃ i, m = n + i ∧ FirstFaultAt (line :: rest) i fault) ↔
      ∃ i, m = n + 1 + i ∧ FirstFaultAt rest i fault := by
  constructor
  · rintro ⟨_ | i, hm, hat, hfirst⟩
    · exact absurd (faultAt_zero.mp hat) (h fault)
    · refine ⟨i, by omega, faultAt_succ.mp hat, fun j hj other hother => ?_⟩
      exact hfirst (j + 1) (Nat.succ_lt_succ hj) other (faultAt_succ.mpr hother)
  · rintro ⟨i, hm, hat, hfirst⟩
    refine ⟨i + 1, by omega, faultAt_succ.mpr hat, fun j hj other hother => ?_⟩
    cases j with
    | zero => exact h other (faultAt_zero.mp hother)
    | succ j => exact hfirst j (Nat.lt_of_succ_lt_succ hj) other (faultAt_succ.mp hother)

/-- **A document is refused at its first faulty line**, with its number. -/
theorem parseLines_eq_error_iff :
    parseLines n start settings lines = .error e ↔
      ∃ i, e.number = n + i ∧ FirstFaultAt lines i e.fault := by
  induction lines generalizing n start settings with
  | nil => simp [parseLines, FirstFaultAt, FaultAt]
  | cons line rest ih =>
    rcases parseLines_cons n start settings line rest with
      ⟨fault, hfault, hparse⟩ | ⟨h, hparse⟩ | ⟨opened, h, hparse⟩ | ⟨key, value, h, hparse⟩
    · simp only [hparse, firstFaultAt_of_hasFault hfault, Except.error.injEq]
      constructor
      · rintro rfl
        exact ⟨0, rfl, rfl, rfl⟩
      · rintro ⟨i, hnumber, rfl, hsame⟩
        rw [← hsame, ← Nat.add_zero n, ← hnumber]
    · rw [hparse, ih, exists_firstFaultAt_cons fun _ => (Says.skipped h).not_hasFault]
    · rw [hparse, ih, exists_firstFaultAt_cons fun _ => (Says.heading h).not_hasFault]
    · rw [hparse, ih, exists_firstFaultAt_cons fun _ => (Says.assignment h).not_hasFault]

/-! ### The last assignment -/

/-- **The last value that the lines give a key of a section**, if they give it one. -/
inductive LastValue (start : Text) (lines : List Text) (name key : Text) : Option Text → Prop
  | none : (∀ i value, ¬ AssignsAt start lines i name key value) → LastValue start lines name key none
  | some {i : Nat} {value : Text} : AssignsAt start lines i name key value →
      (∀ j > i, ∀ later, ¬ AssignsAt start lines j name key later) →
      LastValue start lines name key (some value)

section Cons

variable {start' : Text} {last : Option Text}
  (hrest : ∀ i value, AssignsAt start (line :: rest) (i + 1) name key value ↔
    AssignsAt start' rest i name key value)

include hrest

/-- What the lines behind the first one assign last is assigned last. -/
theorem LastValue.later (h : LastValue start' rest name key (Option.some value)) :
    LastValue start (line :: rest) name key (Option.some value) := by
  cases h with
  | @some i _ hat hlast =>
    refine .some ((hrest i value).mpr hat) fun j hj => ?_
    cases j with
    | zero => exact absurd hj (Nat.not_lt_zero _)
    | succ j => exact fun later h => hlast j (Nat.lt_of_succ_lt_succ hj) later ((hrest j later).mp h)

/-- A first line that does not assign the key does not count. -/
theorem LastValue.skip (hfirst : ∀ value, ¬ AssignsAt start (line :: rest) 0 name key value)
    (h : LastValue start' rest name key last) : LastValue start (line :: rest) name key last := by
  cases h with
  | none hnone =>
    refine .none fun i value hat => ?_
    cases i with
    | zero => exact hfirst value hat
    | succ i => exact hnone i value ((hrest i value).mp hat)
  | some hat hlast => exact .later hrest (.some hat hlast)

/-- What a first line assigns to the key counts if no other does. -/
theorem LastValue.over (hfirst : AssignsAt start (line :: rest) 0 name key value)
    (h : LastValue start' rest name key last) :
    LastValue start (line :: rest) name key (last.or (Option.some value)) := by
  cases h with
  | none hnone =>
    refine .some hfirst fun j hj => ?_
    cases j with
    | zero => exact absurd hj (Nat.lt_irrefl 0)
    | succ j => exact fun later hat => hnone j later ((hrest j later).mp hat)
  | some hat hlast => exact .later hrest (.some hat hlast)

end Cons

theorem text?_cons_self :
    (Ini.mk (⟨name, key, value⟩ :: settings)).text? name key = some value := by
  simp [text?]

theorem text?_cons_of_ne {name' key' : Text} (h : ¬ (name' = name ∧ key' = key)) :
    (Ini.mk (⟨name', key', value⟩ :: settings)).text? name key = (Ini.mk settings).text? name key := by
  have hfind : (decide (name' = name) && decide (key' = key)) = false := by simpa using h
  simp only [text?, List.find?_cons, hfind]

/-- **A key has the last value that the lines give it**, or else the one that it had before. -/
theorem exists_lastValue (h : parseLines n start settings lines = .ok ini) (name key : Text) :
    ∃ last, LastValue start lines name key last ∧
      ini.text? name key = last.or ((Ini.mk settings).text? name key) := by
  induction lines generalizing n start settings with
  | nil =>
    cases h
    exact ⟨none, .none fun i value hat => by simp [AssignsAt] at hat, rfl⟩
  | cons line rest ih =>
    rcases parseLines_cons n start settings line rest with
      ⟨fault, -, hparse⟩ | ⟨hskipped, hparse⟩ | ⟨opened, hopens, hparse⟩ | ⟨key', value, hassigns, hparse⟩
    · rw [hparse] at h
      cases h
    · obtain ⟨last, hlast, hvalue⟩ := ih (hparse ▸ h)
      refine ⟨last, hlast.skip (fun i value => assignsAt_succ_of_not hskipped.not_isSection) ?_, hvalue⟩
      exact fun value hat => hskipped.not_assigns (assignsAt_zero.mp hat).1
    · obtain ⟨last, hlast, hvalue⟩ := ih (hparse ▸ h)
      refine ⟨last, hlast.skip (fun i value => assignsAt_succ_of_opens hopens) ?_, hvalue⟩
      exact fun value hat => hopens.not_assigns (assignsAt_zero.mp hat).1
    · obtain ⟨last, hlast, hvalue⟩ := ih (hparse ▸ h)
      have hrest : ∀ i value, AssignsAt start (line :: rest) (i + 1) name key value ↔
          AssignsAt start rest i name key value := fun i value =>
        assignsAt_succ_of_not hassigns.not_isSection
      by_cases hsame : start = name ∧ key' = key
      · obtain ⟨rfl, rfl⟩ := hsame
        rw [text?_cons_self] at hvalue
        refine ⟨_, hlast.over hrest (assignsAt_zero.mpr ⟨hassigns, rfl⟩), ?_⟩
        rw [hvalue, Option.or_assoc, Option.some_or]
      · rw [text?_cons_of_ne hsame] at hvalue
        refine ⟨last, hlast.skip hrest ?_, hvalue⟩
        rintro value' hat
        obtain ⟨hassigns', rfl⟩ := assignsAt_zero.mp hat
        exact hsame ⟨rfl, (hassigns.unique hassigns').1⟩

theorem LastValue.eq_none_iff {last : Option Text} (h : LastValue start lines name key last) :
    last = Option.none ↔ ∀ i value, ¬ AssignsAt start lines i name key value := by
  cases h with
  | none hnone => exact ⟨fun _ => hnone, fun _ => rfl⟩
  | some hat _ => exact ⟨nofun, fun hnone => absurd hat (hnone _ _)⟩

theorem LastValue.eq_some_iff {last : Option Text} (h : LastValue start lines name key last) :
    last = Option.some value ↔ ∃ i, AssignsAt start lines i name key value ∧
      ∀ j > i, ∀ later, ¬ AssignsAt start lines j name key later := by
  cases h with
  | none hnone => exact ⟨nofun, fun ⟨i, hat, _⟩ => absurd hat (hnone i value)⟩
  | @some i found hat hlast =>
    constructor
    · intro h
      cases h
      exact ⟨i, hat, hlast⟩
    · rintro ⟨j, hat', hlast'⟩
      -- neither of two last lines is behind the other
      rcases Nat.lt_trichotomy i j with hlt | rfl | hgt
      · exact absurd hat' (hlast j hlt value)
      · rw [hat.unique hat']
      · exact absurd hat (hlast' i hgt found)

theorem exists_faultAt_iff :
    (∃ i fault, FaultAt lines i fault) ↔ ∃ line ∈ lines, ∃ fault, HasFault line fault := by
  constructor
  · rintro ⟨i, fault, line, hline, hfault⟩
    exact ⟨line, List.mem_of_getElem? hline, fault, hfault⟩
  · rintro ⟨line, hline, fault, hfault⟩
    obtain ⟨i, hi⟩ := List.mem_iff_getElem?.mp hline
    exact ⟨i, fault, line, hi, hfault⟩

/-- Where there is a fault there is a first one. -/
theorem exists_firstFaultAt (h : ∃ i fault, FaultAt lines i fault) : ∃ i fault, FirstFaultAt lines i fault := by
  classical
  obtain ⟨fault, hfault⟩ := Nat.find_spec h
  exact ⟨Nat.find h, fault, hfault, fun j hj other hother => Nat.find_min h hj ⟨other, hother⟩⟩

/-- The message of a fault names its line, last of all or before the text of the line. -/
theorem Fault.exists_message_eq (e : Fault) :
    ∃ what ending, e.message = what ++ " at line " ++ toString e.number ++ ending ∧
      (ending = "" ∨ ∃ line : Text, ending = ": " ++ String.ofList line) := by
  obtain ⟨fault, number⟩ := e
  cases fault with
  | unterminatedSection line =>
    exact ⟨"unterminated section", _, by simp [message, String.append_assoc], Or.inr ⟨line, rfl⟩⟩
  | emptySection => exact ⟨"empty section name", "", by simp [message], Or.inl rfl⟩
  | invalidSyntax line =>
    exact ⟨"invalid syntax", _, by simp [message, String.append_assoc], Or.inr ⟨line, rfl⟩⟩
  | emptyKey => exact ⟨"empty key", "", by simp [message], Or.inl rfl⟩

/-- **The last assignment wins, the first faulty line is reported.** A text is refused exactly if one of its
lines is faulty, and then with the fault and the number of the first such line, which the message names.
Otherwise a key of a section has no value exactly if no line assigns it one while the section, under its
last section line above, is the current one; else it has the value of the last line that does. -/
theorem parse_lastAssignment (t : Text) :
    ((∃ e, parse t = .error e) ↔ ∃ line ∈ t.lines, ∃ fault, HasFault line fault) ∧
    (∀ e, parse t = .error e ↔ ∃ i, e.number = 1 + i ∧ FirstFaultAt t.lines i e.fault) ∧
    (∀ e, parse t = .error e → ofText t = .error (.invalidConfiguration e.message) ∧
      ∃ what ending, e.message = what ++ " at line " ++ toString e.number ++ ending ∧
        (ending = "" ∨ ∃ line : Text, ending = ": " ++ String.ofList line)) ∧
    ∀ ini, parse t = .ok ini → ∀ name key,
      (ini.text? name key = none ↔ ∀ i value, ¬ AssignsAt [] t.lines i name key value) ∧
      ∀ value, ini.text? name key = some value ↔
        ∃ i, AssignsAt [] t.lines i name key value ∧
          ∀ j > i, ∀ later, ¬ AssignsAt [] t.lines j name key later := by
  refine ⟨?_, fun e => parseLines_eq_error_iff, fun e he => ⟨?_, e.exists_message_eq⟩, ?_⟩
  · rw [← exists_faultAt_iff]
    constructor
    · rintro ⟨e, he⟩
      obtain ⟨i, -, hat, -⟩ := parseLines_eq_error_iff.mp he
      exact ⟨i, e.fault, hat⟩
    · intro h
      obtain ⟨i, fault, hfirst⟩ := exists_firstFaultAt h
      exact ⟨⟨fault, 1 + i⟩, parseLines_eq_error_iff.mpr ⟨i, rfl, hfirst⟩⟩
  · rw [ofText, he]
    rfl
  · intro ini hini name key
    obtain ⟨last, hlast, hvalue⟩ := exists_lastValue hini name key
    have hempty : (Ini.mk []).text? name key = none := rfl
    rw [hempty, Option.or_none] at hvalue
    rw [hvalue]
    exact ⟨hlast.eq_none_iff, fun value => hlast.eq_some_iff⟩

/-- A section that is opened twice, with another between that has the same key. -/
def reopenedText : Text := "[S]\nk = 1\n[t]\nk=2\n; k = 3\n[ s ]\n  K = x = y # z".toList

def reopenedIni : Ini :=
  ⟨[⟨"s".toList, "k".toList, "x = y".toList⟩, ⟨"t".toList, "k".toList, "2".toList⟩,
    ⟨"s".toList, "k".toList, "1".toList⟩]⟩

/-- A comment, a blank line, and an assignment without an equals sign. -/
def faultyText : Text := "# a\n\nb\n[c".toList

theorem parse_lastAssignment_samples :
    parse reopenedText = .ok reopenedIni ∧
      reopenedIni.text? "s".toList "k".toList = some "x = y".toList ∧
      parse faultyText = .error ⟨.invalidSyntax "b".toList, 3⟩ ∧
      ofText faultyText =
        .error (.invalidConfiguration (Fault.message ⟨.invalidSyntax "b".toList, 3⟩)) := by
  have hini : parse reopenedText = .ok reopenedIni := by decide +kernel
  have he : parse faultyText = .error ⟨.invalidSyntax "b".toList, 3⟩ := by decide +kernel
  obtain ⟨-, -, -, hvalues⟩ := parse_lastAssignment reopenedText
  obtain ⟨-, -, hmessage, -⟩ := parse_lastAssignment faultyText
  have hlines : reopenedText.lines = ["[S]".toList, "k = 1".toList, "[t]".toList, "k=2".toList,
      "; k = 3".toList, "[ s ]".toList, "  K = x = y # z".toList] := by decide +kernel
  have hassigns : Assigns "  K = x = y # z".toList "k".toList "x = y".toList :=
    ⟨by decide +kernel, "K ".toList, " x = y # z".toList, by decide +kernel, by decide +kernel,
      by decide +kernel, by decide +kernel, by decide +kernel⟩
  have hopens : Opens "[ s ]".toList "s".toList :=
    ⟨" s ".toList, by decide +kernel, by decide +kernel, by decide +kernel⟩
  have hat : AssignsAt [] reopenedText.lines 6 "s".toList "k".toList "x = y".toList := by
    rw [hlines]
    exact ⟨_, rfl, hassigns, Or.inr ⟨["[S]".toList, "k = 1".toList, "[t]".toList, "k=2".toList,
      "; k = 3".toList], _, [], rfl, hopens, fun _ h => absurd h List.not_mem_nil⟩⟩
  have hlast : ∀ j > 6, ∀ later, ¬ AssignsAt [] reopenedText.lines j "s".toList "k".toList later := by
    rintro j hj later ⟨line, hline, -⟩
    rw [hlines, List.getElem?_eq_none hj] at hline
    cases hline
  exact ⟨hini, ((hvalues _ hini _ _).2 _).mpr ⟨6, hat, hlast⟩, he, (hmessage _ he).1⟩

end Ini

end FormCapture
