import FormCapture.Text.Utf8

/-! # Control sequences

What is left of a text when a terminal's control sequences and control characters are taken out. Tab,
line feed, form feed and carriage return stay. A sequence starts with an escape character, and what
follows says which kind it is and how it ends: a command (`[`) with a letter or a mark, a title (`]`)
with a bell, a device string (`P`) once its data has begun, and a plain string (`X`, `^`, `_`), with
the byte `9C`, any other with the first character that is no filler. The next escape character and two
of the control characters end a sequence of any kind. A sequence that does not end takes the rest of
the text with it.

Layout in a short sequence or in a command stays, and it is taken in one of two ways. As a whole text
is read (`visible`), it ends the sequence. As a text is printed (`printed`), it only breaks into it:
what follows is shown up to the next control character, at which the sequence goes on, unless a
character that is not ASCII has been shown by then. -/

namespace FormCapture.Text

/-- Where a reader stands in a control sequence. -/
inductive Control
  | none
  | escape
  | filled
  | command
  | title
  | device
  | parameters
  | deviceFilled
  /-- In a string that ends with the byte `9C`. -/
  | string
  deriving DecidableEq, Repr

/-- Whether a character stands for itself though it is a control character. -/
def isLayout (c : Char) : Bool := c == '\t' || c == '\n' || c == '\x0c' || c == '\r'

def isControl (c : Char) : Bool := c.toNat < 0x20 || c.toNat == 0x7F

/-- Whether a character takes the place between the start and the end of a short sequence. -/
def isFiller (c : Char) : Bool := 0x20 ≤ c.toNat && c.toNat < 0x30

/-- Whether a character that is not ASCII holds the byte `9C`. -/
def holdsTerminator (c : Char) : Bool := (Utf8.encode [c]).contains 0x9C

namespace Control

/-- Where a reader stands after the character that follows an escape character. -/
def ofIntroducer (c : Char) : Control :=
  if c = '[' then command
  else if c = ']' then title
  else if c = 'P' then device
  else if c = 'X' || c = '^' || c = '_' then string
  else none

/-- Where a reader stands after a character of a sequence that is ASCII and no control character. -/
def next (state : Control) (c : Char) : Control :=
  match state with
  | none => none
  | escape => if isFiller c then filled else ofIntroducer c
  | filled => if isFiller c then filled else none
  | command => if c.toNat < 0x40 then command else none
  | title => title
  | device =>
    if isFiller c then deviceFilled else if c.toNat < 0x40 then parameters else string
  | parameters =>
    if isFiller c then deviceFilled else if c.toNat < 0x3C then parameters else string
  | deviceFilled => if isFiller c then deviceFilled else string
  | string => string

def showsLayout : Control → Bool
  | none | escape | filled | command => true
  | title | device | parameters | deviceFilled | string => false

/-- Where a reader stands after a character, and whether that character stays in the text. -/
def step (state : Control) (c : Char) : Control × Bool :=
  if c = '\x1b' then (escape, false)
  else if c = '\x18' || c = '\x1a' then (none, false)
  else if 0x80 ≤ c.toNat then
    match state with
    | none => (none, true)
    | string => (if holdsTerminator c then none else string, false)
    | _ => (state, false)
  else if isLayout c && state.showsLayout then (none, true)
  else if isControl c then (if state = title && c = '\x07' then none else state, false)
  else (state.next c, state = none)

end Control

/-- What stays of a text that is read from a given state on, in reverse, after what stayed before. A
step gives the next state and whether the character stays. -/
def keepOnto {σ : Type} (step : σ → Char → σ × Bool) (kept : Text) (state : σ) : Text → Text
  | [] => kept
  | c :: rest =>
    keepOnto step (if (step state c).2 then c :: kept else kept) (step state c).1 rest

/-- What a text shows on a terminal. -/
def visible (t : Text) : Text := (keepOnto Control.step [] .none t).reverse

/-! ### Printing -/

structure Printing where
  control : Control := .none
  /-- Whether layout has broken into that sequence. -/
  broken : Bool := false
  deriving DecidableEq, Repr

def Printing.step (p : Printing) (c : Char) : Printing × Bool :=
  if p.broken && (isLayout c || !isControl c) then
    (if 0x80 ≤ c.toNat then {} else p, true)
  else if isLayout c && p.control.showsLayout then (⟨p.control, true⟩, true)
  else (⟨(p.control.step c).1, false⟩, (p.control.step c).2)

/-- What a terminal shows of a text that is printed. -/
def printed (t : Text) : Text := (keepOnto Printing.step [] {} t).reverse

/-! ### Plain texts -/

theorem keepOnto_eq_self {σ : Type} {step : σ → Char → σ × Bool} {state : σ} {t : Text}
    (h : ∀ c ∈ t, step state c = (state, true)) :
    ∀ kept, keepOnto step kept state t = t.reverse ++ kept := by
  induction t with
  | nil => intro kept; rfl
  | cons c t ih =>
    intro kept
    rw [keepOnto, h c (by simp), ih fun d hd => h d (by simp [hd])]
    simp

theorem step_none_of_not_isControl {c : Char} (h : isControl c = false) :
    Control.none.step c = (.none, true) := by
  have h₁ : c ≠ '\x1b' := by rintro rfl; exact absurd h (by decide)
  have h₂ : c ≠ '\x18' := by rintro rfl; exact absurd h (by decide)
  have h₃ : c ≠ '\x1a' := by rintro rfl; exact absurd h (by decide)
  by_cases h₄ : 0x80 ≤ c.toNat
  · simp [Control.step, h₁, h₂, h₃, h₄]
  · by_cases h₅ : isLayout c
    · simp [Control.step, h₁, h₂, h₃, h₄, h₅, Control.showsLayout]
    · simp [Control.step, h₁, h₂, h₃, h₄, h₅, h, Control.next]

theorem isLayout_of_not_isControl {c : Char} (h : isControl c = false) : isLayout c = false := by
  rw [Bool.eq_false_iff]
  intro hl
  simp only [isLayout, Bool.or_eq_true, beq_iff_eq] at hl
  rcases hl with ((rfl | rfl) | rfl) | rfl <;> exact absurd h (by decide)

theorem visible_eq_self {t : Text} (h : ∀ c ∈ t, isControl c = false) : visible t = t := by
  rw [visible, keepOnto_eq_self fun c hc => step_none_of_not_isControl (h c hc)]
  simp

theorem printed_eq_self {t : Text} (h : ∀ c ∈ t, isControl c = false) : printed t = t := by
  have step : ∀ c ∈ t, Printing.step {} c = ({}, true) := by
    intro c hc
    simp [Printing.step, isLayout_of_not_isControl (h c hc), step_none_of_not_isControl (h c hc)]
  rw [printed, keepOnto_eq_self step]
  simp

end FormCapture.Text
