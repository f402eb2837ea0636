import FormCapture.Bytes.Base64

/-! # The letters of base64 texts

A base64 text is made of digits and of the letter that fills up its last group (`mem_encode`), so it
holds neither a dash nor a line end. -/

namespace FormCapture.Base64

/-- The letter is a digit, or fills up a group. -/
def IsLetter (b : UInt8) : Prop := (∃ n < 64, b = digit n) ∨ b = pad

theorem isLetter_digit {n : Nat} (h : n < 64) : IsLetter (digit n) := Or.inl ⟨n, h, rfl⟩

theorem mem_encode : ∀ {bytes : Bytes} {b : UInt8}, b ∈ encode bytes → IsLetter b
  | [], b, hb => by simp at hb
  | [a], b, hb => by
    have ha := a.toNat_lt
    simp only [encode, encodeOnto, List.reverse_nil, List.nil_append, List.mem_cons,
      List.not_mem_nil, or_false] at hb
    rcases hb with rfl | rfl | rfl | rfl
    · exact isLetter_digit (by omega)
    · exact isLetter_digit (by omega)
    · exact Or.inr rfl
    · exact Or.inr rfl
  | [a, c], b, hb => by
    have ha := a.toNat_lt
    have hc := c.toNat_lt
    simp only [encode, encodeOnto, List.reverse_nil, List.nil_append, List.mem_cons,
      List.not_mem_nil, or_false] at hb
    rcases hb with rfl | rfl | rfl | rfl
    · exact isLetter_digit (by omega)
    · exact isLetter_digit (by omega)
    · exact isLetter_digit (by omega)
    · exact Or.inr rfl
  | a :: c :: d :: rest, b, hb => by
    have ha := a.toNat_lt
    have hc := c.toNat_lt
    have hd := d.toNat_lt
    rw [encode_append_group, List.mem_append] at hb
    rcases hb with hb | hb
    · simp only [group, List.mem_cons, List.not_mem_nil, or_false] at hb
      rcases hb with rfl | rfl | rfl | rfl
      · exact isLetter_digit (by omega)
      · exact isLetter_digit (by omega)
      · exact isLetter_digit (by omega)
      · exact isLetter_digit (by omega)
    · exact mem_encode hb

theorem not_isLetter {b : UInt8} (hd : ∀ n < 64, b ≠ digit n) (hp : b ≠ pad) : ¬ IsLetter b := by
  rintro (⟨n, hn, rfl⟩ | rfl)
  · exact hd n hn rfl
  · exact hp rfl

/-- A base64 text is ASCII. -/
theorem toNat_lt_of_mem_encode {bytes : Bytes} {b : UInt8} (h : b ∈ encode bytes) : b.toNat < 128 := by
  have hdigit : ∀ n < 64, (digit n).toNat < 128 := by decide
  rcases mem_encode h with ⟨n, hn, rfl⟩ | rfl
  · exact hdigit n hn
  · decide

end FormCapture.Base64
