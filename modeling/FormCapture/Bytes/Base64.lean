import FormCapture.Bytes.Basic

/-! # Base64

Three bytes are written as four digits of six bits each, over the alphabet `A`-`Z`, `a`-`z`,
`0`-`9`, `+`, `/`; a last group of one or two bytes is filled up with `=`. Main statement:
`decode?_encode`, reading gives back what was written. -/

namespace FormCapture.Base64

/-! ### Digits -/

/-- The letter that stands for a six-bit number. -/
def digit (n : Nat) : UInt8 :=
  if n < 26 then (65 + n).toUInt8
  else if n < 52 then (71 + n).toUInt8
  else if n < 62 then (n - 4).toUInt8
  else if n = 62 then 43
  else 47

/-- The six-bit number that a letter stands for. -/
def value? (b : UInt8) : Option Nat :=
  let n := b.toNat
  if 65 ≤ n ∧ n ≤ 90 then some (n - 65)
  else if 97 ≤ n ∧ n ≤ 122 then some (n - 71)
  else if 48 ≤ n ∧ n ≤ 57 then some (n + 4)
  else if n = 43 then some 62
  else if n = 47 then some 63
  else none

def pad : UInt8 := 61

theorem value?_digit : ∀ n < 64, value? (digit n) = some n := by decide

theorem digit_ne_pad : ∀ n < 64, digit n ≠ pad := by decide

/-! ### Writing -/

def group (a b c : UInt8) : Bytes :=
  [digit (a.toNat / 4), digit (a.toNat % 4 * 16 + b.toNat / 16),
    digit (b.toNat % 16 * 4 + c.toNat / 64), digit (c.toNat % 64)]

/-- Writes the bytes after the letters in `done`, which stand in reverse. -/
def encodeOnto (done : Bytes) : Bytes → Bytes
  | [] => done.reverse
  | [a] => done.reverse ++ [digit (a.toNat / 4), digit (a.toNat % 4 * 16), pad, pad]
  | [a, b] =>
    done.reverse ++
      [digit (a.toNat / 4), digit (a.toNat % 4 * 16 + b.toNat / 16), digit (b.toNat % 16 * 4), pad]
  | a :: b :: c :: rest => encodeOnto ((group a b c).reverse ++ done) rest

def encode (bytes : Bytes) : Bytes := encodeOnto [] bytes

theorem encodeOnto_eq : ∀ (bytes done : Bytes),
    encodeOnto done bytes = done.reverse ++ encode bytes
  | [], done => by simp [encode, encodeOnto]
  | [a], done => by simp [encode, encodeOnto]
  | [a, b], done => by simp [encode, encodeOnto]
  | a :: b :: c :: rest, done => by
    simp only [encode, encodeOnto]
    rw [encodeOnto_eq rest, encodeOnto_eq rest]
    simp

@[simp] theorem encode_nil : encode [] = [] := rfl

theorem encode_append_group (a b c : UInt8) (rest : Bytes) :
    encode (a :: b :: c :: rest) = group a b c ++ encode rest := by
  simp only [encode, encodeOnto]
  rw [encodeOnto_eq]
  simp [encode]

/-! ### Reading -/

def decode? : Bytes → Option Bytes
  | [] => some []
  | p :: q :: r :: s :: rest => do
    let x ← value? p
    let y ← value? q
    if r = pad ∧ s = pad ∧ rest = [] then
      some [(x * 4 + y / 16).toUInt8]
    else
      let z ← value? r
      if s = pad ∧ rest = [] then
        some [(x * 4 + y / 16).toUInt8, (y % 16 * 16 + z / 4).toUInt8]
      else
        let w ← value? s
        let more ← decode? rest
        some ((x * 4 + y / 16).toUInt8 :: (y % 16 * 16 + z / 4).toUInt8 ::
          (z % 4 * 64 + w).toUInt8 :: more)
  | _ => none

theorem decode?_encode : ∀ bytes : Bytes, decode? (encode bytes) = some bytes
  | [] => rfl
  | [a] => by
    have ha := a.toNat_lt
    simp only [encode, encodeOnto, decode?, List.reverse_nil, List.nil_append]
    rw [value?_digit _ (by omega), value?_digit _ (by omega)]
    simp only [Option.bind_eq_bind, Option.bind_some, and_self, if_true, Option.some.injEq,
      List.cons.injEq, and_true]
    rw [show a.toNat / 4 * 4 + a.toNat % 4 * 16 / 16 = a.toNat by omega]
    simp
  | [a, b] => by
    have ha := a.toNat_lt
    have hb := b.toNat_lt
    simp only [encode, encodeOnto, decode?, List.reverse_nil, List.nil_append]
    rw [value?_digit _ (by omega), value?_digit _ (by omega), value?_digit _ (by omega)]
    have hp : digit (b.toNat % 16 * 4) ≠ pad := digit_ne_pad _ (by omega)
    simp only [Option.bind_eq_bind, Option.bind_some, hp, and_self, and_true, if_true,
      if_false, Option.some.injEq, List.cons.injEq]
    rw [show a.toNat / 4 * 4 + (a.toNat % 4 * 16 + b.toNat / 16) / 16 = a.toNat by omega,
      show (a.toNat % 4 * 16 + b.toNat / 16) % 16 * 16 + b.toNat % 16 * 4 / 4 = b.toNat by omega]
    simp
  | a :: b :: c :: rest => by
    have ha := a.toNat_lt
    have hb := b.toNat_lt
    have hc := c.toNat_lt
    rw [encode_append_group, group]
    simp only [decode?, List.cons_append, List.nil_append]
    rw [value?_digit _ (by omega), value?_digit _ (by omega), value?_digit _ (by omega),
      value?_digit _ (by omega), decode?_encode rest]
    have hp : digit (c.toNat % 64) ≠ pad := digit_ne_pad _ (by omega)
    simp only [Option.bind_eq_bind, Option.bind_some, hp, and_false, false_and, if_false,
      Option.some.injEq, List.cons.injEq]
    rw [show a.toNat / 4 * 4 + (a.toNat % 4 * 16 + b.toNat / 16) / 16 = a.toNat by omega,
      show (a.toNat % 4 * 16 + b.toNat / 16) % 16 * 16 +
        (b.toNat % 16 * 4 + c.toNat / 64) / 4 = b.toNat by omega,
      show (b.toNat % 16 * 4 + c.toNat / 64) % 4 * 64 + c.toNat % 64 = c.toNat by omega]
    simp

end FormCapture.Base64
