import FormCapture.Text.Basic

/-! # Integer numerals

Decimal numerals of bounded integers. A numeral is one or more ASCII digits after at most one sign;
a plus sign is always allowed, a minus sign only where negative numbers are. The digits are read from
left to right, and the first fault ends the reading: a character that is no digit, or a value that
leaves the bounds. -/

namespace FormCapture.Numeral

inductive Fault
  | empty
  | invalidDigit
  | tooLarge
  | tooSmall
  deriving DecidableEq, Repr

def digit? (c : Char) : Option Nat :=
  if '0' ≤ c ∧ c ≤ '9' then some (c.toNat - 48) else none

def isDigit (c : Char) : Bool := (digit? c).isSome

/-- Reads digits after a value read so far, up to a greatest value. -/
def digits (limit : Nat) : Nat → Text → Except Fault Nat
  | value, [] => .ok value
  | value, c :: rest =>
    match digit? c with
    | none => .error .invalidDigit
    | some d =>
      if limit < value * 10 + d then .error .tooLarge else digits limit (value * 10 + d) rest

/-- Reads a number that is not negative, up to a greatest value. -/
def unsigned (limit : Nat) : Text → Except Fault Nat
  | [] => .error .empty
  | ['+'] => .error .invalidDigit
  | '+' :: rest => digits limit 0 rest
  | t => digits limit 0 t

/-- Reads a number of at least `-least` and at most `most`. -/
def signed (least most : Nat) : Text → Except Fault Int
  | ['-'] => .error .invalidDigit
  | '-' :: rest =>
    match digits least 0 rest with
    | .ok n => .ok (-(n : Int))
    | .error .tooLarge => .error .tooSmall
    | .error fault => .error fault
  | t => (unsigned most t).map fun n => (n : Int)

def unsigned? (limit : Nat) (t : Text) : Option Nat := (unsigned limit t).toOption

def max16 : Nat := UInt16.size - 1

def max64 : Nat := UInt64.size - 1

/-- The value of a text of digits after a value read so far. -/
def value (start : Nat) (t : Text) : Nat := t.foldl (fun n c => n * 10 + (c.toNat - 48)) start

theorem le_value : ∀ (t : Text) (start : Nat), start ≤ value start t
  | [], _ => Nat.le_refl _
  | c :: t, start => by
    have h := le_value t (start * 10 + (c.toNat - 48))
    simp only [value, List.foldl_cons] at h ⊢
    omega

theorem digits_eq {limit : Nat} : ∀ {t : Text} {start : Nat}, start ≤ limit → t.all isDigit →
    digits limit start t = if value start t ≤ limit then .ok (value start t) else .error .tooLarge
  | [], start, hs, _ => by simp [digits, value, hs]
  | c :: t, start, hs, ht => by
    simp only [List.all_cons, Bool.and_eq_true] at ht
    obtain ⟨d, hd⟩ := Option.isSome_iff_exists.mp ht.1
    have hdc : d = c.toNat - 48 := by
      unfold digit? at hd
      split at hd
      · exact (Option.some.inj hd).symm
      · cases hd
    have hv : value start (c :: t) = value (start * 10 + d) t := by simp [value, hdc]
    rw [digits, hd, hv]
    by_cases h : limit < start * 10 + d
    · have := le_value t (start * 10 + d)
      simp only [h, if_true]
      rw [if_neg (by omega)]
    · simp only [h, if_false]
      exact digits_eq (by omega) ht.2

/-! ### Long runs of digits -/

theorem value_append (start : Nat) (t u : Text) : value start (t ++ u) = value (value start t) u := by
  simp [value]

theorem value_eq (start : Nat) (t : Text) : value start t = start * Nat.pow 10 t.length + value 0 t := by
  induction t generalizing start with
  | nil => simp [value]
  | cons c t ih =>
    have h₁ := ih (start * 10 + (c.toNat - 48))
    have h₂ := ih (0 * 10 + (c.toNat - 48))
    simp only [value, List.foldl_cons, List.length_cons] at h₁ h₂ ⊢
    have hpow : Nat.pow 10 (t.length + 1) = Nat.pow 10 t.length * 10 := rfl
    rw [h₁, h₂]
    simp only [hpow, Nat.add_mul]
    have : start * 10 * Nat.pow 10 t.length = start * (Nat.pow 10 t.length * 10) := by
      rw [Nat.mul_assoc, Nat.mul_comm 10]
    omega

/-- The value of a text of digits, put together from the values of its two halves. -/
def longValue (t : Text) : Nat :=
  if t.length ≤ 256 then value 0 t
  else
    let rest := t.length - t.length / 2
    longValue (t.take (t.length / 2)) * Nat.pow 10 rest + longValue (t.drop (t.length / 2))
termination_by t.length
decreasing_by
  all_goals simp only [List.length_take, List.length_drop]; omega

theorem longValue_eq (t : Text) : longValue t = value 0 t := by
  fun_induction longValue t with
  | case1 => rfl
  | case2 t h rest ih₁ ih₂ =>
    have hsplit := value_append 0 (t.take (t.length / 2)) (t.drop (t.length / 2))
    rw [List.take_append_drop] at hsplit
    rw [hsplit, value_eq, ih₁, ih₂, List.length_drop]

end FormCapture.Numeral
