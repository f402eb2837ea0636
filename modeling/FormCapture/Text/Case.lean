import FormCapture.Text.CaseTable

/-! # Letter case

The small and the capital form of a text, for all of Unicode. A form can be longer than the
character (`ß` is `SS` in capitals). A capital sigma becomes a final `ς` if a cased letter stands
before it and none after it, and `σ` otherwise; characters that are case-ignorable count as absent
in that. -/

namespace FormCapture.Text

/-! ### ASCII -/

/-- The small form of an ASCII capital; any other character is kept. -/
def lowerAsciiChar (c : Char) : Char :=
  if 'A' ≤ c ∧ c ≤ 'Z' then Char.ofNat (c.toNat + 32) else c

/-- The capital form of an ASCII small letter; any other character is kept. -/
def upperAsciiChar (c : Char) : Char :=
  if 'a' ≤ c ∧ c ≤ 'z' then Char.ofNat (c.toNat - 32) else c

def lowerAscii (t : Text) : Text := t.map lowerAsciiChar

/-! ### One character -/

/-- The character that a table of runs gives for a character, if it has one. -/
def shifted (runs : List CaseRun) (c : Char) : Option Char :=
  (runs.find? (·.has c.toNat)).map fun r => Char.ofNat ((c.toNat : Int) + r.shift).toNat

def lowerChar (c : Char) : Text :=
  if c.toNat < 128 then [lowerAsciiChar c]
  else if c.toNat = 0x130 then ['i', Char.ofNat 0x307]
  else [(shifted lowerRuns c).getD c]

def upperChar (c : Char) : Text :=
  if c.toNat < 128 then [upperAsciiChar c]
  else
    match upperLong.find? (·.1 == c.toNat) with
    | some (_, form) => form.map Char.ofNat
    | none => [(shifted upperRuns c).getD c]

/-! ### Texts -/

/-- Whether the first character that is not case-ignorable has letter case. -/
def startsCased (t : Text) : Bool :=
  match t.dropWhile fun c => caseIgnorable.has c.toNat with
  | [] => false
  | c :: _ => cased.has c.toNat

/-- The small form of a character between the text before it, which stands in reverse, and the text
after it. -/
def lowerBetween (before : Text) (c : Char) (after : Text) : Text :=
  if c = 'Σ' then
    if startsCased before && !startsCased after then ['ς'] else ['σ']
  else lowerChar c

/-- Writes the small form of a text after `done`; `done` and the text before stand in reverse. -/
def lowerOnto (done before : Text) : Text → Text
  | [] => done.reverse
  | c :: after => lowerOnto ((lowerBetween before c after).reverse ++ done) (c :: before) after

def lower (t : Text) : Text := lowerOnto [] [] t

def upper (t : Text) : Text := t.flatMap upperChar

theorem lowerOnto_eq : ∀ (t done before : Text),
    lowerOnto done before t = done.reverse ++ lowerOnto [] before t
  | [], done, before => by simp [lowerOnto]
  | c :: t, done, before => by
    rw [lowerOnto, lowerOnto, lowerOnto_eq t, lowerOnto_eq t (_ ++ [])]
    simp

theorem lowerOnto_of_not_mem : ∀ {t : Text}, 'Σ' ∉ t → ∀ before : Text,
    lowerOnto [] before t = t.flatMap lowerChar
  | [], _, before => by simp [lowerOnto]
  | c :: t, h, before => by
    simp only [List.mem_cons, not_or] at h
    rw [lowerOnto, lowerOnto_eq, lowerOnto_of_not_mem h.2, lowerBetween, if_neg (Ne.symm h.1)]
    simp

theorem lower_of_not_mem {t : Text} (h : 'Σ' ∉ t) : lower t = t.flatMap lowerChar :=
  lowerOnto_of_not_mem h []

end FormCapture.Text
