import FormCapture.Bytes.Basic
import FormCapture.Text.Basic

/-! # UTF-8

Characters as bytes and back. A lead byte fixes how many continuation bytes follow and the range of
each (`Lead`); a stretch of bytes that starts a character but breaks off is one *break*, and so is
a byte that starts none. `pieces` cuts any byte string into characters and breaks.

`decodeLossy` writes U+FFFD for each break, `decode?` fails if there is one. Main statements:
`pieces_cons` and `pieces_encode`, by which both give back what `encode` wrote. -/

namespace FormCapture.Utf8

/-! ### Writing -/

def encode (t : Text) : Bytes := t.flatMap String.utf8EncodeChar

@[simp] theorem encode_nil : encode [] = [] := rfl

@[simp] theorem encode_cons (c : Char) (t : Text) :
    encode (c :: t) = String.utf8EncodeChar c ++ encode t := by
  simp [encode]

@[simp] theorem encode_append (s t : Text) : encode (s ++ t) = encode s ++ encode t := by
  simp [encode]

/-! ### One character -/

/-- What a lead byte announces: the high bits of the character, and the range in which each
continuation byte has to be. -/
structure Lead where
  /-- The bits of the lead byte that belong to the character. -/
  high : Nat
  /-- The least and the greatest value of each continuation byte. -/
  tails : List (UInt8 × UInt8)

/-- What a byte announces as a lead byte, if it is one. The first continuation byte has a smaller
range where a longer form, a surrogate or a number above U+10FFFF would result. -/
def lead? (b : UInt8) : Option Lead :=
  let n := b.toNat
  if n < 0x80 then some ⟨n, []⟩
  else if n < 0xC2 then none
  else if n < 0xE0 then some ⟨n - 0xC0, [(0x80, 0xBF)]⟩
  else if n = 0xE0 then some ⟨0, [(0xA0, 0xBF), (0x80, 0xBF)]⟩
  else if n = 0xED then some ⟨0xD, [(0x80, 0x9F), (0x80, 0xBF)]⟩
  else if n < 0xF0 then some ⟨n - 0xE0, [(0x80, 0xBF), (0x80, 0xBF)]⟩
  else if n = 0xF0 then some ⟨0, [(0x90, 0xBF), (0x80, 0xBF), (0x80, 0xBF)]⟩
  else if n < 0xF4 then some ⟨n - 0xF0, [(0x80, 0xBF), (0x80, 0xBF), (0x80, 0xBF)]⟩
  else if n = 0xF4 then some ⟨4, [(0x80, 0x8F), (0x80, 0xBF), (0x80, 0xBF)]⟩
  else none

/-- Reads continuation bytes in the given ranges onto the bits read so far: the number, or none at
the first byte out of range, and the bytes that remain. -/
def takeTails : List (UInt8 × UInt8) → Nat → Bytes → Option Nat × Bytes
  | [], bits, rest => (some bits, rest)
  | _ :: _, _, [] => (none, [])
  | (lo, hi) :: tails, bits, b :: rest =>
    if lo ≤ b ∧ b ≤ hi then takeTails tails (bits * 64 + b.toNat % 64) rest
    else (none, b :: rest)

/-- The character that starts with byte `b`, or none for a break, and the bytes that remain. -/
def next (b : UInt8) (rest : Bytes) : Option Char × Bytes :=
  match lead? b with
  | none => (none, rest)
  | some l => ((takeTails l.tails l.high rest).1.map Char.ofNat, (takeTails l.tails l.high rest).2)

theorem length_takeTails_le : ∀ (tails : List (UInt8 × UInt8)) (bits : Nat) (rest : Bytes),
    (takeTails tails bits rest).2.length ≤ rest.length
  | [], _, _ => Nat.le_refl _
  | _ :: _, _, [] => Nat.le_refl _
  | (lo, hi) :: tails, bits, b :: rest => by
    unfold takeTails
    split
    · exact Nat.le_succ_of_le (length_takeTails_le tails _ rest)
    · exact Nat.le_refl _

theorem length_next_le (b : UInt8) (rest : Bytes) : (next b rest).2.length ≤ rest.length := by
  unfold next
  split
  · exact Nat.le_refl _
  · exact length_takeTails_le _ _ _

/-! ### Whole byte strings -/

/-- Cuts the bytes into characters and breaks, after those in `done`, which stand in reverse. -/
def piecesOnto (done : List (Option Char)) : Bytes → List (Option Char)
  | [] => done.reverse
  | b :: rest => piecesOnto ((next b rest).1 :: done) (next b rest).2
termination_by bytes => bytes.length
decreasing_by
  have := length_next_le b rest
  simp only [List.length_cons]
  omega

/-- The characters and breaks (none) of a byte string, in order. -/
def pieces (bytes : Bytes) : List (Option Char) := piecesOnto [] bytes

def replacement : Char := Char.ofNat 0xFFFD

/-- The text of the bytes, with U+FFFD in place of each break. -/
def decodeLossy (bytes : Bytes) : Text := (pieces bytes).map (·.getD replacement)

def isValid (bytes : Bytes) : Bool := (pieces bytes).all (·.isSome)

def decode? (bytes : Bytes) : Option Text :=
  if isValid bytes then some (decodeLossy bytes) else none

theorem piecesOnto_eq (bytes : Bytes) (done : List (Option Char)) :
    piecesOnto done bytes = done.reverse ++ pieces bytes := by
  unfold pieces
  match bytes with
  | [] => simp [piecesOnto]
  | b :: rest =>
    rw [piecesOnto, piecesOnto, piecesOnto_eq (next b rest).2, piecesOnto_eq (next b rest).2 [_]]
    simp
termination_by bytes.length
decreasing_by
  all_goals
    have := length_next_le b rest
    simp only [List.length_cons]
    omega

@[simp] theorem pieces_nil : pieces [] = [] := by simp [pieces, piecesOnto]

theorem pieces_cons (b : UInt8) (rest : Bytes) :
    pieces (b :: rest) = (next b rest).1 :: pieces (next b rest).2 := by
  rw [pieces, piecesOnto, piecesOnto_eq]
  simp

@[simp] theorem decodeLossy_nil : decodeLossy [] = [] := by simp [decodeLossy]

theorem decodeLossy_cons (b : UInt8) (rest : Bytes) :
    decodeLossy (b :: rest) = (next b rest).1.getD replacement :: decodeLossy (next b rest).2 := by
  simp [decodeLossy, pieces_cons]

/-! ### Reading back what was written -/

theorem toNat_ofNat {n : Nat} (h : n < 256) : (UInt8.ofNat n).toNat = n := by
  simp only [UInt8.toNat_ofNat']
  omega

theorem next_of_lead {b : UInt8} {l : Lead} (h : lead? b = some l) (rest : Bytes) :
    next b rest =
      ((takeTails l.tails l.high rest).1.map Char.ofNat, (takeTails l.tails l.high rest).2) := by
  simp [next, h]

theorem takeTails_step {lo hi : UInt8} {tails : List (UInt8 × UInt8)} {bits n : Nat} {rest : Bytes}
    (h₁ : lo.toNat ≤ n) (h₂ : n ≤ hi.toNat) (h₃ : n < 256) :
    takeTails ((lo, hi) :: tails) bits (UInt8.ofNat n :: rest) =
      takeTails tails (bits * 64 + n % 64) rest := by
  have h : lo ≤ UInt8.ofNat n ∧ UInt8.ofNat n ≤ hi := by
    simp only [UInt8.le_iff_toNat_le, toNat_ofNat h₃]
    exact ⟨h₁, h₂⟩
  rw [takeTails, if_pos h, toNat_ofNat h₃]

/-- A lead byte with continuation bytes in range is read as the character they spell. -/
theorem pieces_of_lead {n m : Nat} {l : Lead} {tail rest : Bytes} (h : lead? (UInt8.ofNat m) = some l)
    (ht : takeTails l.tails l.high (tail ++ rest) = (some n, rest)) :
    pieces (UInt8.ofNat m :: tail ++ rest) = some (Char.ofNat n) :: pieces rest := by
  rw [List.cons_append, pieces_cons, next_of_lead h, ht]
  rfl

theorem pieces_encodeChar (c : Char) (rest : Bytes) :
    pieces (String.utf8EncodeChar c ++ rest) = some c :: pieces rest := by
  have hn : c.toNat < 0xD800 ∨ 0xDFFF < c.toNat ∧ c.toNat < 0x110000 := c.valid
  have hc : Char.ofNat c.toNat = c := Char.ofNat_toNat c
  rw [← hc]
  unfold String.utf8EncodeChar
  rw [hc]
  change pieces ((if c.toNat ≤ 127 then [UInt8.ofNat c.toNat]
    else if c.toNat ≤ 2047 then [UInt8.ofNat (c.toNat / 64 % 32 + 192), UInt8.ofNat (c.toNat % 64 + 128)]
    else if c.toNat ≤ 65535 then [UInt8.ofNat (c.toNat / 4096 % 16 + 224),
      UInt8.ofNat (c.toNat / 64 % 64 + 128), UInt8.ofNat (c.toNat % 64 + 128)]
    else [UInt8.ofNat (c.toNat / 262144 % 8 + 240), UInt8.ofNat (c.toNat / 4096 % 64 + 128),
      UInt8.ofNat (c.toNat / 64 % 64 + 128), UInt8.ofNat (c.toNat % 64 + 128)]) ++ rest) =
    some c :: pieces rest
  rw [← hc]
  generalize c.toNat = n at hn
  have hv : (Char.ofNat n).toNat = n := by
    rw [Char.ofNat, dif_pos hn]
    rfl
  rw [hv]
  by_cases h1 : n ≤ 127
  · rw [if_pos h1]
    refine pieces_of_lead (l := ⟨n, []⟩) ?_ rfl
    simp only [lead?, toNat_ofNat (show n < 256 by omega)]
    rw [if_pos (by omega)]
  rw [if_neg h1]
  by_cases h2 : n ≤ 2047
  · rw [if_pos h2]
    refine pieces_of_lead (l := ⟨n / 64, [(0x80, 0xBF)]⟩) ?_ ?_
    · simp only [lead?, toNat_ofNat (show n / 64 % 32 + 192 < 256 by omega)]
      rw [if_neg (by omega), if_neg (by omega), if_pos (by omega),
        show n / 64 % 32 + 192 - 0xC0 = n / 64 by omega]
    · simp only [List.cons_append, List.nil_append]
      rw [takeTails_step (by simp) (by simp; omega) (by omega), takeTails]
      congr 2
      omega
  rw [if_neg h2]
  by_cases h3 : n ≤ 65535
  · rw [if_pos h3]
    have hl : n / 4096 % 16 + 224 < 256 := by omega
    by_cases h4 : n / 4096 = 0
    · refine pieces_of_lead (l := ⟨0, [(0xA0, 0xBF), (0x80, 0xBF)]⟩) ?_ ?_
      · simp only [lead?, toNat_ofNat hl]
        rw [if_neg (by omega), if_neg (by omega), if_neg (by omega), if_pos (by omega)]
      · simp only [List.cons_append, List.nil_append]
        rw [takeTails_step (by simp; omega) (by simp; omega) (by omega),
          takeTails_step (by simp) (by simp; omega) (by omega), takeTails]
        congr 2
        omega
    by_cases h5 : n / 4096 = 13
    · refine pieces_of_lead (l := ⟨0xD, [(0x80, 0x9F), (0x80, 0xBF)]⟩) ?_ ?_
      · simp only [lead?, toNat_ofNat hl]
        rw [if_neg (by omega), if_neg (by omega), if_neg (by omega), if_neg (by omega),
          if_pos (by omega)]
      · simp only [List.cons_append, List.nil_append]
        rw [takeTails_step (by simp) (by simp; omega) (by omega),
          takeTails_step (by simp) (by simp; omega) (by omega), takeTails]
        congr 2
        omega
    · refine pieces_of_lead (l := ⟨n / 4096, [(0x80, 0xBF), (0x80, 0xBF)]⟩) ?_ ?_
      · simp only [lead?, toNat_ofNat hl]
        rw [if_neg (by omega), if_neg (by omega), if_neg (by omega), if_neg (by omega),
          if_neg (by omega), if_pos (by omega),
          show n / 4096 % 16 + 224 - 0xE0 = n / 4096 by omega]
      · simp only [List.cons_append, List.nil_append]
        rw [takeTails_step (by simp) (by simp; omega) (by omega),
          takeTails_step (by simp) (by simp; omega) (by omega), takeTails]
        congr 2
        omega
  rw [if_neg h3]
  have hl : n / 262144 % 8 + 240 < 256 := by omega
  by_cases h4 : n / 262144 = 0
  · refine pieces_of_lead (l := ⟨0, [(0x90, 0xBF), (0x80, 0xBF), (0x80, 0xBF)]⟩) ?_ ?_
    · simp only [lead?, toNat_ofNat hl]
      rw [if_neg (by omega), if_neg (by omega), if_neg (by omega), if_neg (by omega),
        if_neg (by omega), if_neg (by omega), if_pos (by omega)]
    · simp only [List.cons_append, List.nil_append]
      rw [takeTails_step (by simp; omega) (by simp; omega) (by omega),
        takeTails_step (by simp) (by simp; omega) (by omega),
        takeTails_step (by simp) (by simp; omega) (by omega), takeTails]
      congr 2
      omega
  by_cases h5 : n / 262144 = 4
  · refine pieces_of_lead (l := ⟨4, [(0x80, 0x8F), (0x80, 0xBF), (0x80, 0xBF)]⟩) ?_ ?_
    · simp only [lead?, toNat_ofNat hl]
      rw [if_neg (by omega), if_neg (by omega), if_neg (by omega), if_neg (by omega),
        if_neg (by omega), if_neg (by omega), if_neg (by omega), if_neg (by omega),
        if_pos (by omega)]
    · simp only [List.cons_append, List.nil_append]
      rw [takeTails_step (by simp) (by simp; omega) (by omega),
        takeTails_step (by simp) (by simp; omega) (by omega),
        takeTails_step (by simp) (by simp; omega) (by omega), takeTails]
      congr 2
      omega
  · refine pieces_of_lead (l := ⟨n / 262144, [(0x80, 0xBF), (0x80, 0xBF), (0x80, 0xBF)]⟩) ?_ ?_
    · simp only [lead?, toNat_ofNat hl]
      rw [if_neg (by omega), if_neg (by omega), if_neg (by omega), if_neg (by omega),
        if_neg (by omega), if_neg (by omega), if_neg (by omega), if_pos (by omega),
        show n / 262144 % 8 + 240 - 0xF0 = n / 262144 by omega]
    · simp only [List.cons_append, List.nil_append]
      rw [takeTails_step (by simp) (by simp; omega) (by omega),
        takeTails_step (by simp) (by simp; omega) (by omega),
        takeTails_step (by simp) (by simp; omega) (by omega), takeTails]
      congr 2
      omega

theorem pieces_encode : ∀ (t : Text) (rest : Bytes),
    pieces (encode t ++ rest) = t.map some ++ pieces rest
  | [], rest => by simp
  | c :: t, rest => by
    rw [encode_cons, List.append_assoc, pieces_encodeChar, pieces_encode t rest]
    rfl

theorem decodeLossy_encode_append (t : Text) (rest : Bytes) :
    decodeLossy (encode t ++ rest) = t ++ decodeLossy rest := by
  simp [decodeLossy, pieces_encode, Function.comp_def]

theorem decodeLossy_encode (t : Text) : decodeLossy (encode t) = t := by
  simpa using decodeLossy_encode_append t []

theorem decode?_encode (t : Text) : decode? (encode t) = some t := by
  have h : isValid (encode t) = true := by
    have := pieces_encode t []
    simp only [List.append_nil, pieces_nil] at this
    simp [isValid, this]
  simp [decode?, h, decodeLossy_encode]

end FormCapture.Utf8
