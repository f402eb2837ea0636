/-! # Text

Text as a list of characters, and how it is cut up: white space at its ends, words, lines, pieces
around a separator. White space is the Unicode property White_Space, twenty-five characters.

Nothing is lost by a cut: `splitOnce_eq_some` says that the two pieces and the separator make up the
text again, and `trim` is the text less a run of white space at either end. -/

namespace FormCapture

abbrev Text := List Char

namespace Text

/-! ### White space -/

/-- White_Space: tab to carriage return, the spaces, the line and paragraph separators. -/
def isWhite (c : Char) : Bool :=
  let n := c.toNat
  (9 ≤ n && n ≤ 13) || n == 0x20 || n == 0x85 || n == 0xA0 || n == 0x1680 ||
    (0x2000 ≤ n && n ≤ 0x200A) || n == 0x2028 || n == 0x2029 || n == 0x202F || n == 0x205F ||
    n == 0x3000

def trimStart (t : Text) : Text := t.dropWhile isWhite

def trimEnd (t : Text) : Text := (t.reverse.dropWhile isWhite).reverse

def trim (t : Text) : Text := trimEnd (trimStart t)

theorem length_dropWhile_le (p : Char → Bool) (t : Text) : (t.dropWhile p).length ≤ t.length :=
  (List.dropWhile_sublist p).length_le

def words (t : Text) : List Text :=
  match _h : t.dropWhile isWhite with
  | [] => []
  | c :: rest =>
    (c :: rest.takeWhile fun d => !isWhite d) :: words (rest.dropWhile fun d => !isWhite d)
termination_by t.length
decreasing_by
  have h₁ := length_dropWhile_le isWhite t
  have h₂ := length_dropWhile_le (fun d => !isWhite d) rest
  simp only [_h, List.length_cons] at h₁
  omega

/-! ### Separators -/

def splitOnce (separator : Char) (t : Text) : Option (Text × Text) :=
  match t.dropWhile (· != separator) with
  | [] => none
  | _ :: rest => some (t.takeWhile (· != separator), rest)

theorem dropWhile_ne_eq_nil {separator : Char} : ∀ {t : Text},
    t.dropWhile (· != separator) = [] ↔ separator ∉ t
  | [] => by simp
  | c :: t => by
    by_cases h : c = separator
    · simp [h]
    · simp [h, Ne.symm h, dropWhile_ne_eq_nil (t := t)]

theorem splitOnce_eq_none {separator : Char} {t : Text} :
    splitOnce separator t = none ↔ separator ∉ t := by
  rw [← dropWhile_ne_eq_nil]
  unfold splitOnce
  split
  · next e => simp [e]
  · next e => simp [e]

theorem splitOnce_eq_some {separator : Char} {t before after : Text} :
    splitOnce separator t = some (before, after) ↔
      t = before ++ separator :: after ∧ separator ∉ before := by
  constructor
  · unfold splitOnce
    split
    · simp
    · next c rest e =>
      simp only [Option.some.injEq, Prod.mk.injEq]
      rintro ⟨rfl, rfl⟩
      have hc : c = separator := by
        have := List.head?_dropWhile_not (· != separator) t
        simpa [e] using this
      subst hc
      refine ⟨?_, fun hmem => ?_⟩
      · rw [← e, List.takeWhile_append_dropWhile]
      · simpa using List.all_eq_true.mp List.all_takeWhile c hmem
  · rintro ⟨rfl, hmem⟩
    have hall : ∀ c ∈ before, (c != separator) = true := fun c hc =>
      bne_iff_ne.mpr fun e => hmem (e ▸ hc)
    unfold splitOnce
    rw [List.dropWhile_append_of_pos hall, List.takeWhile_append_of_pos hall]
    simp

theorem length_of_splitOnce {separator : Char} {t before after : Text}
    (h : splitOnce separator t = some (before, after)) : after.length < t.length := by
  obtain ⟨rfl, -⟩ := splitOnce_eq_some.mp h
  simp
  omega

/-- The pieces between the separators: one more than there are separators. -/
def split (separator : Char) (t : Text) : List Text :=
  match _h : splitOnce separator t with
  | none => [t]
  | some (before, after) => before :: split separator after
termination_by t.length
decreasing_by exact length_of_splitOnce _h

/-! ### Lines -/

def dropCarriageReturn (t : Text) : Text :=
  if t.getLast? = some '\r' then t.dropLast else t

/-- The lines of a text. A line ends with a line feed, which is dropped together with a carriage
return right before it; what follows the last line feed is a line if it is not empty. -/
def lines (t : Text) : List Text :=
  match _h : splitOnce '\n' t with
  | none => if t.isEmpty then [] else [t]
  | some (line, rest) => dropCarriageReturn line :: lines rest
termination_by t.length
decreasing_by exact length_of_splitOnce _h

/-! ### Parts of a text -/

def occurs (needle : Text) : Text → Bool
  | [] => needle.isEmpty
  | c :: rest => needle.isPrefixOf (c :: rest) || occurs needle rest

/-- The text before `ending`, if the text ends with it. -/
def dropEnding? (t ending : Text) : Option Text :=
  if ending.isSuffixOf t then some (t.take (t.length - ending.length)) else none

def trimChar (c : Char) (t : Text) : Text :=
  ((t.dropWhile (· == c)).reverse.dropWhile (· == c)).reverse

end Text

end FormCapture
