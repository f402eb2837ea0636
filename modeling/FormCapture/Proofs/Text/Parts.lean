import FormCapture.Text.Case
import Mathlib.Data.List.DropRight
import Mathlib.Data.List.TakeWhile

/-! # Parts of a text

White space at the ends of a text does not matter to how the text is cut in two (`splitOnce_trim`); the
pieces of a text are those of the two sides of any separator in it (`split_append_cons`, `split_eq_append`);
words end where white space begins (`words_append`); and a line that does not end with a carriage return is a
line as it stands (`lines_append`).

What occurs in the small form of a text occurs in that of every text around it (`infix_lower`), but for
the sigmas, whose small form depends on what stands next to them. -/

namespace FormCapture.Text

/-! ### White space at the ends -/

theorem trimStart_append {c : Char} (hc : isWhite c = false) (s t : Text) :
    trimStart (s ++ c :: t) = trimStart s ++ c :: t := by
  have hstop : (c :: t).dropWhile isWhite = c :: t := List.dropWhile_cons_of_neg (by simp [hc])
  rw [trimStart, trimStart, List.dropWhile_append]
  split
  · next h => rw [List.isEmpty_iff.mp h, hstop, List.nil_append]
  · rfl

theorem trimEnd_append {c : Char} (hc : isWhite c = false) (s t : Text) :
    trimEnd (s ++ c :: t) = s ++ c :: trimEnd t := by
  have hrev : (s ++ c :: t).reverse = t.reverse ++ c :: s.reverse := by simp
  have h := trimStart_append hc t.reverse s.reverse
  rw [trimStart, trimStart] at h
  rw [trimEnd, trimEnd, hrev, h]
  simp

theorem trimStart_eq_nil {t : Text} : trimStart t = [] ↔ ∀ c ∈ t, isWhite c = true :=
  List.dropWhile_eq_nil_iff

theorem trimEnd_eq_nil {t : Text} : trimEnd t = [] ↔ ∀ c ∈ t, isWhite c = true := by
  rw [trimEnd, List.reverse_eq_nil_iff, List.dropWhile_eq_nil_iff]
  exact ⟨fun h c hc => h c (List.mem_reverse.mpr hc), fun h c hc => h c (List.mem_reverse.mp hc)⟩

/-- Nothing is left of a text just if it is white space all through. -/
theorem trim_eq_nil {t : Text} : trim t = [] ↔ ∀ c ∈ t, isWhite c = true := by
  rw [trim, trimEnd_eq_nil, ← trimStart_eq_nil, trimStart, trimStart, List.dropWhile_idempotent,
    List.dropWhile_eq_nil_iff]

theorem trim_subset (t : Text) : t.trim ⊆ t := by
  have hend : ∀ s : Text, trimEnd s ⊆ s := fun s c hc =>
    List.mem_reverse.mp ((List.dropWhile_suffix isWhite).subset (List.mem_reverse.mp hc))
  exact fun c hc => (List.dropWhile_suffix isWhite).subset (hend _ hc)

/-- Only white space is cut off. -/
theorem mem_trim {c : Char} (hc : isWhite c = false) {t : Text} (h : c ∈ t) : c ∈ t.trim := by
  obtain ⟨before, after, rfl⟩ := List.append_of_mem h
  rw [trim, trimStart_append hc, trimEnd_append hc]
  exact List.mem_append_right _ List.mem_cons_self

theorem trim_trimStart (t : Text) : trim (trimStart t) = trim t := by
  rw [trim, trim, trimStart, trimStart, List.dropWhile_idempotent]

/-- The two ends are cut off independently, for a text that is not white space all through has a
character at which both cuts stop. -/
theorem trim_trimEnd (t : Text) : trim (trimEnd t) = trim t := by
  have hcut := List.takeWhile_append_dropWhile (p := isWhite) (l := t)
  have hfront : trimStart (t.takeWhile isWhite) = [] :=
    trimStart_eq_nil.mpr fun c hc => List.mem_takeWhile_imp hc
  have hidem : ∀ s : Text, trimEnd (trimEnd s) = trimEnd s := fun s => by
    rw [trimEnd, trimEnd, List.reverse_reverse, List.dropWhile_idempotent]
  cases hrest : t.dropWhile isWhite with
  | nil =>
    have hwhite := trimStart_eq_nil.mp hrest
    rw [trimEnd_eq_nil.mpr hwhite, trim_eq_nil.mpr hwhite]
    rfl
  | cons c rest =>
    have hc : isWhite c = false := by
      have := List.head?_dropWhile_not isWhite t
      simpa [hrest] using this
    rw [hrest] at hcut
    rw [← hcut, trimEnd_append hc, trim, trim, trimStart_append hc, trimStart_append hc, hfront,
      trimEnd_append hc, trimEnd_append hc, hidem]

/-- **White space at the ends of a text stays at the ends of its halves.** -/
theorem splitOnce_trim {separator : Char} (hs : isWhite separator = false) {t before after : Text}
    (h : splitOnce separator t = some (before, after)) :
    splitOnce separator t.trim = some (before.trimStart, after.trimEnd) := by
  obtain ⟨rfl, hbefore⟩ := splitOnce_eq_some.mp h
  rw [trim, trimStart_append hs, trimEnd_append hs]
  exact splitOnce_eq_some.mpr ⟨rfl, fun hmem => hbefore ((List.dropWhile_suffix isWhite).subset hmem)⟩

/-- A text whose first and last characters are no white space has none at its ends. -/
theorem trim_of_ends {t : Text} (hfirst : ∀ c ∈ t.head?, isWhite c = false)
    (hlast : ∀ c ∈ t.getLast?, isWhite c = false) : trim t = t := by
  have hkeep : ∀ {s : Text}, (∀ c ∈ s.head?, isWhite c = false) → s.dropWhile isWhite = s := by
    intro s hs
    cases s with
    | nil => rfl
    | cons c s => exact List.dropWhile_cons_of_neg (by simp [hs c rfl])
  rw [List.getLast?_eq_head?_reverse] at hlast
  rw [trim, trimStart, hkeep hfirst, trimEnd, hkeep hlast, List.reverse_reverse]

theorem trim_eq_self {c d : Char} (hc : isWhite c = false) (hd : isWhite d = false) (t : Text) :
    trim (c :: t ++ [d]) = c :: t ++ [d] := by
  refine trim_of_ends (fun e he => ?_) fun e he => ?_
  · cases he
    exact hc
  · rw [List.getLast?_append_of_ne_nil _ (List.cons_ne_nil d [])] at he
    cases he
    exact hd

theorem trim_of_forall {t : Text} (h : ∀ c ∈ t, isWhite c = false) : trim t = t :=
  trim_of_ends (fun c hc => h c (List.mem_of_head? hc)) fun c hc => h c (List.mem_of_getLast? hc)

theorem head?_trim (t : Text) : ∀ c ∈ t.trim.head?, isWhite c = false := by
  intro c hc
  have hprefix : t.trim <+: t.trimStart := by
    rw [trim, trimEnd, ← List.reverse_suffix, List.reverse_reverse]
    exact List.dropWhile_suffix isWhite
  have hstart := List.head?_dropWhile_not isWhite t
  obtain ⟨rest, hrest⟩ := List.head?_eq_some_iff.mp hc
  obtain ⟨more, hmore⟩ := hprefix
  rw [hrest, trimStart, List.cons_append] at hmore
  rw [← hmore] at hstart
  simpa using hstart

theorem trim_append_white {c : Char} (hc : isWhite c = true) (t : Text) : trim (t ++ [c]) = trim t := by
  have hend : trimEnd (t ++ [c]) = trimEnd t := by
    rw [trimEnd, List.reverse_append, List.reverse_singleton, List.singleton_append,
      List.dropWhile_cons_of_pos hc, ← trimEnd]
  rw [← trim_trimEnd, hend, trim_trimEnd]

theorem trim_cons_white {c : Char} (hc : isWhite c = true) (t : Text) : trim (c :: t) = trim t := by
  have hstart : trimStart (c :: t) = trimStart t := List.dropWhile_cons_of_pos hc
  rw [trim, hstart, trim]

theorem trim_trim (t : Text) : trim (trim t) = trim t := by
  rw [trim, trim, ← trim, trim_trimEnd, trim_trimStart, trim]

/-- White space behind a text does not matter. -/
theorem trim_append_forall {w : Text} (hw : ∀ c ∈ w, isWhite c = true) (t : Text) :
    trim (t ++ w) = trim t := by
  have hrev : ∀ c ∈ w.reverse, isWhite c = true := fun c hc => hw c (List.mem_reverse.mp hc)
  have hend : trimEnd (t ++ w) = trimEnd t := by
    rw [trimEnd, List.reverse_append, List.dropWhile_append_of_pos hrev, ← trimEnd]
  rw [← trim_trimEnd, hend, trim_trimEnd]

/-- White space before a text does not matter. -/
theorem trim_forall_append {w : Text} (hw : ∀ c ∈ w, isWhite c = true) (t : Text) :
    trim (w ++ t) = trim t := by
  have hstart : trimStart (w ++ t) = trimStart t := List.dropWhile_append_of_pos hw
  rw [trim, hstart, trim]

/-! ### Marks and separators -/

theorem dropWhile_eq_self {c : Char} {t : Text} (h : c ∉ t) : t.dropWhile (· == c) = t := by
  cases t with
  | nil => rfl
  | cons d t =>
    have hne : ¬ (d == c) = true := fun he => h (by rw [beq_iff_eq.mp he]; exact List.mem_cons_self)
    exact List.dropWhile_cons_of_neg hne

theorem trimChar_of_not_mem {c : Char} {t : Text} (h : c ∉ t) : trimChar c t = t := by
  have hrev : c ∉ t.reverse := fun hc => h (List.mem_reverse.mp hc)
  rw [trimChar, dropWhile_eq_self h, dropWhile_eq_self hrev, List.reverse_reverse]

/-- What stands between two marks is left when they are cut off. -/
theorem trimChar_marks {c : Char} {t : Text} (h : c ∉ t) : trimChar c (c :: (t ++ [c])) = t := by
  have hrev : c ∉ t.reverse := fun hc => h (List.mem_reverse.mp hc)
  have hmark : ∀ s : Text, (c :: s).dropWhile (· == c) = s.dropWhile (· == c) := fun s =>
    List.dropWhile_cons_of_pos (beq_self_eq_true c)
  cases t with
  | nil => simp [trimChar]
  | cons d t =>
    have hstop : (d :: t ++ [c]).dropWhile (· == c) = d :: t ++ [c] := by
      have hne : ¬ (d == c) = true := fun he => h (by rw [beq_iff_eq.mp he]; exact List.mem_cons_self)
      exact List.dropWhile_cons_of_neg hne
    rw [trimChar, hmark, hstop, List.reverse_append, List.reverse_singleton, List.singleton_append,
      hmark, dropWhile_eq_self hrev, List.reverse_reverse]

/-- A character of two texts in a row stands in one of them. -/
theorem exists_of_append_eq {s t front rest : Text} {c : Char} (h : s ++ t = front ++ c :: rest) :
    (∃ last, s = front ++ c :: last ∧ rest = last ++ t) ∨
      ∃ skipped, front = s ++ skipped ∧ t = skipped ++ c :: rest := by
  rcases List.append_eq_append_iff.mp h with ⟨skipped, hfront, ht⟩ | ⟨last, hs, hrest⟩
  · exact Or.inr ⟨skipped, hfront, ht⟩
  · rcases List.cons_eq_append_iff.mp hrest with ⟨rfl, ht⟩ | ⟨last', rfl, ht⟩
    · exact Or.inr ⟨[], by rw [hs, List.append_nil, List.append_nil], ht⟩
    · exact Or.inl ⟨last', hs, ht⟩

theorem split_of_not_mem {c : Char} {t : Text} (h : c ∉ t) : split c t = [t] := by
  rw [split]
  split
  · rfl
  · next heq =>
    rw [splitOnce_eq_none.mpr h] at heq
    cases heq

theorem split_append {c : Char} {before : Text} (h : c ∉ before) (after : Text) :
    split c (before ++ c :: after) = before :: split c after := by
  rw [split]
  have hcut : splitOnce c (before ++ c :: after) = some (before, after) :=
    splitOnce_eq_some.mpr ⟨rfl, h⟩
  split
  · next heq =>
    rw [hcut] at heq
    cases heq
  · next heq =>
    rw [hcut] at heq
    cases heq
    rfl

/-- The first piece, and what is left to cut up behind it. -/
theorem split_eq_cons {c : Char} {t piece : Text} {pieces : List Text}
    (h : split c t = piece :: pieces) :
    c ∉ piece ∧ (t = piece ∧ pieces = [] ∨ ∃ rest, t = piece ++ c :: rest ∧ split c rest = pieces) := by
  rw [split] at h
  split at h
  · next heq =>
    cases h
    exact ⟨splitOnce_eq_none.mp heq, Or.inl ⟨rfl, rfl⟩⟩
  · next before after heq =>
    cases h
    obtain ⟨rfl, hbefore⟩ := splitOnce_eq_some.mp heq
    exact ⟨hbefore, Or.inr ⟨after, rfl, rfl⟩⟩

theorem split_ne_nil (c : Char) (t : Text) : split c t ≠ [] := by
  rw [split]
  split
  · exact List.cons_ne_nil _ _
  · exact List.cons_ne_nil _ _

/-- **A text that is cut at one separator** has the pieces of its two sides. -/
theorem split_append_cons (c : Char) : ∀ s t : Text, split c (s ++ c :: t) = split c s ++ split c t
  | s, t => by
    obtain ⟨piece, pieces, hs⟩ := List.exists_cons_of_ne_nil (split_ne_nil c s)
    obtain ⟨hpiece, ⟨rfl, rfl⟩ | ⟨rest, rfl, rfl⟩⟩ := split_eq_cons hs
    · rw [hs, split_append hpiece]
      rfl
    · rw [hs, List.append_assoc, List.cons_append, split_append hpiece, split_append_cons c rest t]
      rfl
termination_by s => s.length
decreasing_by
  subst_vars
  simp
  omega

/-- Two groups of pieces are those of the two sides of a separator. -/
theorem split_eq_append {c : Char} : ∀ {before after : List Text} {t : Text},
    split c t = before ++ after → before ≠ [] → after ≠ [] →
      ∃ front rest, t = front ++ c :: rest ∧ split c front = before ∧ split c rest = after
  | [], _, _, _, hbefore, _ => absurd rfl hbefore
  | piece :: before, after, t, h, _, hafter => by
    obtain ⟨hpiece, ⟨-, hnil⟩ | ⟨rest, rfl, hrest⟩⟩ := split_eq_cons h
    · exact absurd (List.append_eq_nil_iff.mp hnil).2 hafter
    · by_cases hbefore : before = []
      · subst hbefore
        exact ⟨piece, rest, rfl, split_of_not_mem hpiece, hrest⟩
      · obtain ⟨front, last, rfl, hfront, hlast⟩ := split_eq_append hrest hbefore hafter
        refine ⟨piece ++ c :: front, last, by simp, ?_, hlast⟩
        rw [split_append hpiece, hfront]

/-- The pieces behind the first of an ending of a text are pieces of the text. -/
theorem tail_split_subset (c : Char) {s t : Text} (h : s <:+ t) : (split c s).tail ⊆ (split c t).tail := by
  obtain ⟨before, rfl⟩ := h
  obtain ⟨piece, pieces, hs⟩ := List.exists_cons_of_ne_nil (split_ne_nil c s)
  rw [hs, List.tail_cons]
  obtain ⟨-, ⟨-, rfl⟩ | ⟨rest, rfl, rfl⟩⟩ := split_eq_cons hs
  · exact List.nil_subset _
  · rw [← List.append_assoc, split_append_cons, List.tail_append_of_ne_nil (split_ne_nil c _)]
    exact List.subset_append_right _ _

/-! ### Words -/

/-- The text is one word. -/
def IsWord (t : Text) : Prop := t ≠ [] ∧ ∀ c ∈ t, isWhite c = false

instance (t : Text) : Decidable (IsWord t) :=
  @instDecidableAnd _ _ _ (List.decidableBAll _ t)

theorem words_of_nil {t : Text} (h : t.dropWhile isWhite = []) : words t = [] := by
  rw [words]
  split
  · rfl
  · next heq =>
    rw [h] at heq
    cases heq

theorem words_of_cons {t rest : Text} {c : Char} (h : t.dropWhile isWhite = c :: rest) :
    words t = (c :: rest.takeWhile fun d => !isWhite d) ::
      words (rest.dropWhile fun d => !isWhite d) := by
  rw [words]
  split
  · next heq =>
    rw [h] at heq
    cases heq
  · next heq =>
    rw [h] at heq
    cases heq
    rfl

theorem words_cons_white {c : Char} (hc : isWhite c = true) (t : Text) : words (c :: t) = words t := by
  have hdrop : (c :: t).dropWhile isWhite = t.dropWhile isWhite := List.dropWhile_cons_of_pos hc
  cases h : t.dropWhile isWhite with
  | nil => rw [words_of_nil h, words_of_nil (hdrop.trans h)]
  | cons d rest => rw [words_of_cons h, words_of_cons (hdrop.trans h)]

/-- **A word ends at the first white space behind it.** -/
theorem words_append {word rest : Text} (h : word.IsWord)
    (hrest : ∀ c ∈ rest.head?, isWhite c = true) : words (word ++ rest) = word :: words rest := by
  obtain ⟨c, word, rfl⟩ := List.exists_cons_of_ne_nil h.1
  obtain ⟨hc, hword⟩ := List.forall_mem_cons.mp h.2
  have hstart : (c :: word ++ rest).dropWhile isWhite = c :: (word ++ rest) :=
    List.dropWhile_cons_of_neg (by simp [hc])
  have hall : ∀ d ∈ word, (!isWhite d) = true := fun d hd => by rw [hword d hd]; rfl
  have hstop : rest.takeWhile (fun d => !isWhite d) = [] ∧
      rest.dropWhile (fun d => !isWhite d) = rest := by
    cases rest with
    | nil => exact ⟨rfl, rfl⟩
    | cons d rest =>
      have hd : isWhite d = true := hrest d rfl
      exact ⟨List.takeWhile_cons_of_neg (by simp [hd]), List.dropWhile_cons_of_neg (by simp [hd])⟩
  rw [words_of_cons hstart, List.takeWhile_append_of_pos hall, List.dropWhile_append_of_pos hall,
    hstop.1, hstop.2, List.append_nil]

/-! ### Lines -/

/-- The text fits on one line. -/
def OnOneLine (t : Text) : Prop := '\r' ∉ t ∧ '\n' ∉ t

instance (t : Text) : Decidable (OnOneLine t) := inferInstanceAs (Decidable (_ ∧ _))

theorem OnOneLine.append {s t : Text} (hs : s.OnOneLine) (ht : t.OnOneLine) : OnOneLine (s ++ t) :=
  ⟨fun h => (List.mem_append.mp h).elim hs.1 ht.1, fun h => (List.mem_append.mp h).elim hs.2 ht.2⟩

/-- Line ends are white space, so a word holds none. -/
theorem IsWord.onOneLine {t : Text} (h : t.IsWord) : t.OnOneLine :=
  ⟨fun hmem => absurd (h.2 _ hmem) (by decide), fun hmem => absurd (h.2 _ hmem) (by decide)⟩

/-- The text is a line as it stands: a carriage return at its end would not be part of it. -/
def IsLine (t : Text) : Prop := '\n' ∉ t ∧ t.getLast? ≠ some '\r'

instance (t : Text) : Decidable (IsLine t) := inferInstanceAs (Decidable (_ ∧ _))

theorem OnOneLine.isLine {t : Text} (h : t.OnOneLine) : t.IsLine :=
  ⟨h.2, fun hlast => h.1 (List.mem_of_getLast? hlast)⟩

theorem lines_append {line : Text} (h : line.IsLine) (rest : Text) :
    lines (line ++ '\n' :: rest) = line :: lines rest := by
  have hcut : splitOnce '\n' (line ++ '\n' :: rest) = some (line, rest) :=
    splitOnce_eq_some.mpr ⟨rfl, h.1⟩
  have hlast : dropCarriageReturn line = line := if_neg h.2
  rw [lines, hcut]
  simp only [hlast]

theorem lines_newline : lines ['\n'] = [[]] := by
  have h : lines ([] ++ '\n' :: []) = [] :: lines [] := lines_append (by decide) []
  rw [List.nil_append] at h
  rw [h, lines]
  rfl

/-- **Lines that are written one after the other** are read as they were. -/
theorem lines_flatMap {ls : List Text} (h : ∀ line ∈ ls, line.IsLine) (rest : Text) :
    lines (ls.flatMap (· ++ ['\n']) ++ rest) = ls ++ lines rest := by
  induction ls with
  | nil => rfl
  | cons line ls ih =>
    obtain ⟨hline, hls⟩ := List.forall_mem_cons.mp h
    rw [List.flatMap_cons, List.append_assoc, List.append_assoc, List.singleton_append,
      lines_append hline, ih hls]
    rfl

/-- So are lines with a line feed between them, if the last is not empty. -/
theorem lines_intercalate {ls : List Text} (h : ∀ line ∈ ls, line.IsLine)
    (hlast : ∀ line ∈ ls.getLast?, line ≠ []) : lines (['\n'].intercalate ls) = ls := by
  induction ls with
  | nil =>
    rw [List.intercalate_nil, lines]
    rfl
  | cons line ls ih =>
    obtain ⟨hline, hls⟩ := List.forall_mem_cons.mp h
    cases ls with
    | nil =>
      have hne : line.isEmpty = false := List.isEmpty_eq_false_iff.mpr (hlast line rfl)
      rw [List.intercalate_singleton, lines, splitOnce_eq_none.mpr hline.1]
      simp only [hne, Bool.false_eq_true, if_false]
    | cons second ls =>
      rw [List.intercalate_cons_cons, List.append_assoc, List.singleton_append, lines_append hline,
        ih hls fun last hl => hlast last (by rwa [List.getLast?_cons_cons])]

/-! ### Small forms -/

theorem lowerChar_ne_nil (c : Char) : lowerChar c ≠ [] := by
  unfold lowerChar
  split
  · exact List.cons_ne_nil _ _
  · split
    · exact List.cons_ne_nil _ _
    · exact List.cons_ne_nil _ _

/-- Each character has a small form, so only the empty text has an empty one. -/
theorem lower_eq_nil {t : Text} : lower t = [] ↔ t = [] := by
  constructor
  · intro h
    cases t with
    | nil => rfl
    | cons c t =>
      rw [lower, lowerOnto, lowerOnto_eq, List.append_nil, List.reverse_reverse,
        List.append_eq_nil_iff] at h
      have hc := h.1
      unfold lowerBetween at hc
      split at hc
      · split at hc
        · cases hc
        · cases hc
      · exact absurd hc (lowerChar_ne_nil c)
  · rintro rfl
    rfl

/-! ### Occurrences -/

theorem occurs_iff {needle : Text} : ∀ {t : Text}, occurs needle t = true ↔ needle <:+: t
  | [] => by rw [occurs, List.isEmpty_iff, List.infix_nil]
  | c :: t => by
    rw [occurs, Bool.or_eq_true, List.isPrefixOf_iff_prefix, List.infix_cons_iff, occurs_iff]

/-- Every small sigma as the one that does not end a word. -/
def joinSigma (c : Char) : Char := if c = 'ς' then 'σ' else c

/-- The small form of a character, whatever stands around it. -/
def lowerAlone (c : Char) : Text := if c = 'Σ' then ['σ'] else (lowerChar c).map joinSigma

theorem map_joinSigma_lowerOnto : ∀ (t before : Text),
    (lowerOnto [] before t).map joinSigma = t.flatMap lowerAlone
  | [], _ => rfl
  | c :: t, before => by
    have hc : (lowerBetween before c t).map joinSigma = lowerAlone c := by
      unfold lowerBetween lowerAlone
      split
      · split <;> rfl
      · rfl
    rw [lowerOnto, lowerOnto_eq, List.append_nil, List.reverse_reverse, List.map_append, hc,
      map_joinSigma_lowerOnto t (c :: before), List.flatMap_cons]

theorem map_joinSigma_eq {t : Text} (h : 'ς' ∉ t) : t.map joinSigma = t := by
  refine (List.map_congr_left fun c hc => ?_).trans (List.map_id t)
  have hne : c ≠ 'ς' := fun he => h (he ▸ hc)
  exact if_neg hne

/-- **Small forms keep what occurs in them**, if it has no sigmas. -/
theorem infix_lower {needle s t : Text} (hσ : 'σ' ∉ needle) (hς : 'ς' ∉ needle)
    (h : needle <:+: lower s) (hst : s <:+: t) : needle <:+: lower t := by
  obtain ⟨before, after, rfl⟩ := hst
  have hjoined : needle.map joinSigma <:+: (lower (before ++ s ++ after)).map joinSigma := by
    rw [lower, map_joinSigma_lowerOnto, List.flatMap_append, List.flatMap_append,
      ← map_joinSigma_lowerOnto s []]
    exact (h.map joinSigma).trans (List.infix_append _ _ _)
  obtain ⟨found, hfound, he⟩ := List.infix_map_iff.mp hjoined
  rw [map_joinSigma_eq hς] at he
  -- a final sigma in what was found would be a sigma of the needle
  have hfinal : 'ς' ∉ found := fun hmem => hσ (he ▸ List.mem_map_of_mem hmem)
  rw [he, map_joinSigma_eq hfinal]
  exact hfound

end FormCapture.Text
