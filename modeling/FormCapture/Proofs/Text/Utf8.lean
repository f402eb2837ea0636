import FormCapture.Proofs.Text.Parts
import FormCapture.Text.Utf8
import Mathlib.Tactic.SplitIfs

/-! # Low bytes of UTF-8

Bytes below 128 are ASCII characters wherever they stand in the encoding of a text. They are so too
where bytes are read that encode no text: a low byte is read as its character and parts what stands
before it from what stands behind (`decodeLossy_append_low`), and no other bytes are read as an ASCII
character (`mem_of_mem_decodeLossy`). Bytes that are a text (`IsText`) can be put together of such. -/

namespace FormCapture.Utf8

/-! ### Written bytes -/

theorem toNat_ge_of_mem_encodeChar {c : Char} (hc : 128 ≤ c.toNat) {b : UInt8}
    (hb : b ∈ String.utf8EncodeChar c) : 128 ≤ b.toNat := by
  have hv : c.val.toNat = c.toNat := rfl
  unfold String.utf8EncodeChar at hb
  simp only [hv] at hb
  rw [if_neg (by omega)] at hb
  split at hb
  · simp only [List.mem_cons, List.not_mem_nil, or_false] at hb
    rcases hb with rfl | rfl <;> simp only [UInt8.toNat_ofNat'] <;> omega
  split at hb
  · simp only [List.mem_cons, List.not_mem_nil, or_false] at hb
    rcases hb with rfl | rfl | rfl <;> simp only [UInt8.toNat_ofNat'] <;> omega
  · simp only [List.mem_cons, List.not_mem_nil, or_false] at hb
    rcases hb with rfl | rfl | rfl | rfl <;> simp only [UInt8.toNat_ofNat'] <;> omega

theorem encodeChar_of_lt {c : Char} (hc : c.toNat < 128) :
    String.utf8EncodeChar c = [UInt8.ofNat c.toNat] := by
  have hv : c.val.toNat = c.toNat := rfl
  unfold String.utf8EncodeChar
  simp only [hv]
  rw [if_pos (by omega)]

/-- **A low byte is a character of the text.** -/
theorem mem_of_mem_encode {t : Text} {b : UInt8} (h : b ∈ encode t) (hb : b.toNat < 128) :
    Char.ofNat b.toNat ∈ t := by
  obtain ⟨c, hct, hbc⟩ := List.mem_flatMap.mp h
  rcases Nat.lt_or_ge c.toNat 128 with hc | hc
  · rw [encodeChar_of_lt hc, List.mem_singleton] at hbc
    have hn : b.toNat = c.toNat := by
      rw [hbc, toNat_ofNat (by omega)]
    rw [hn, Char.ofNat_toNat]
    exact hct
  · have := toNat_ge_of_mem_encodeChar hc hbc
    omega

/-- A text that fits on a line holds no line end when it is written. -/
theorem lineEnd_not_mem_encode {t : Text} (h : t.OnOneLine) :
    Bytes.cr ∉ encode t ∧ Bytes.lf ∉ encode t :=
  ⟨fun hcr => h.1 (mem_of_mem_encode hcr (by decide)),
    fun hlf => h.2 (mem_of_mem_encode hlf (by decide))⟩

/-! ### A low byte ends what stands before it -/

theorem high_of_mem_tails {b : UInt8} {l : Lead} (h : lead? b = some l) :
    ∀ tail ∈ l.tails, 128 ≤ tail.1.toNat := by
  simp only [lead?] at h
  split_ifs at h
  all_goals
    obtain rfl := Option.some.inj h
    simp

theorem lead?_of_low {b : UInt8} (hb : b.toNat < 128) : lead? b = some ⟨b.toNat, []⟩ := by
  simp only [lead?]
  rw [if_pos hb]

/-- Continuation bytes are not looked for behind a low byte. -/
theorem takeTails_append_low {b : UInt8} (hb : b.toNat < 128) (ys : Bytes) :
    ∀ {tails : List (UInt8 × UInt8)} {bits : Nat} {xs : Bytes},
      (∀ tail ∈ tails, 128 ≤ tail.1.toNat) →
      takeTails tails bits (xs ++ b :: ys) =
        ((takeTails tails bits xs).1, (takeTails tails bits xs).2 ++ b :: ys)
  | [], _, _, _ => rfl
  | (lo, hi) :: tails, bits, [], h => by
    have hlo : ¬ (lo ≤ b ∧ b ≤ hi) := by
      rintro ⟨hle, -⟩
      have hhigh : 128 ≤ lo.toNat := h (lo, hi) List.mem_cons_self
      rw [UInt8.le_iff_toNat_le] at hle
      omega
    have hstop : takeTails ((lo, hi) :: tails) bits (b :: ys) = (none, b :: ys) := if_neg hlo
    rw [List.nil_append, hstop]
    rfl
  | (lo, hi) :: tails, bits, x :: xs, h => by
    rw [List.cons_append, takeTails, takeTails]
    split
    · exact takeTails_append_low hb ys fun tail ht => h tail (List.mem_cons_of_mem _ ht)
    · rfl

theorem next_append_low {b : UInt8} (hb : b.toNat < 128) (x : UInt8) (xs ys : Bytes) :
    next x (xs ++ b :: ys) = ((next x xs).1, (next x xs).2 ++ b :: ys) := by
  unfold next
  cases h : lead? x with
  | none => rfl
  | some l => simp only [takeTails_append_low hb ys (high_of_mem_tails h)]

theorem decodeLossy_low {b : UInt8} (hb : b.toNat < 128) (ys : Bytes) :
    decodeLossy (b :: ys) = Char.ofNat b.toNat :: decodeLossy ys := by
  rw [decodeLossy_cons, next_of_lead (lead?_of_low hb)]
  rfl

/-- **A low byte parts the bytes**, whatever stands before it. -/
theorem decodeLossy_append_low {b : UInt8} (hb : b.toNat < 128) (xs ys : Bytes) :
    decodeLossy (xs ++ b :: ys) = decodeLossy xs ++ Char.ofNat b.toNat :: decodeLossy ys := by
  match xs with
  | [] => rw [List.nil_append, decodeLossy_low hb, decodeLossy_nil, List.nil_append]
  | x :: xs =>
    have := length_next_le x xs
    rw [List.cons_append, decodeLossy_cons, decodeLossy_cons, next_append_low hb,
      decodeLossy_append_low hb (next x xs).2 ys]
    rfl
termination_by xs.length

/-- Bytes are read on their own up to where a low byte follows. -/
theorem decodeLossy_append {b : UInt8} {xs ys more : Bytes} (hb : b.toNat < 128) (hys : ys = b :: more) :
    decodeLossy (xs ++ ys) = decodeLossy xs ++ decodeLossy ys := by
  rw [hys, decodeLossy_append_low hb, decodeLossy_low hb]

/-! ### Higher bytes are not read as ASCII -/

/-- How many numbers continuation bytes can spell behind the bits before them. -/
def span : List (UInt8 × UInt8) → Nat
  | [] => 1
  | _ :: tails => 64 * span tails

/-- The number that continuation bytes make has the bits read before them in front. -/
theorem takeTails_bounds : ∀ {tails : List (UInt8 × UInt8)} {bits : Nat} {xs rest : Bytes} {n : Nat},
    takeTails tails bits xs = (some n, rest) → bits * span tails ≤ n ∧ n < (bits + 1) * span tails
  | [], bits, xs, rest, n, h => by
    cases h
    simp [span]
  | _ :: _, _, [], _, _, h => by cases h
  | (lo, hi) :: tails, bits, x :: xs, rest, n, h => by
    rw [takeTails] at h
    split at h
    · obtain ⟨hge, hlt⟩ := takeTails_bounds h
      rw [span, ← Nat.mul_assoc, ← Nat.mul_assoc]
      exact ⟨Nat.le_trans (Nat.mul_le_mul_right _ (by omega)) hge,
        Nat.lt_of_lt_of_le hlt (Nat.mul_le_mul_right _ (by omega))⟩
    · cases h

/-- The range of the first continuation byte bounds the number further. -/
theorem takeTails_bounds_first {lo hi : UInt8} (hlo : 128 ≤ lo.toNat) (hhi : hi.toNat < 192)
    {tails : List (UInt8 × UInt8)} {bits : Nat} {xs rest : Bytes} {n : Nat}
    (h : takeTails ((lo, hi) :: tails) bits xs = (some n, rest)) :
    (bits * 64 + lo.toNat % 64) * span tails ≤ n ∧
      n < (bits * 64 + hi.toNat % 64 + 1) * span tails := by
  match xs with
  | [] => cases h
  | x :: xs =>
    rw [takeTails] at h
    split at h
    · next hx =>
      rw [UInt8.le_iff_toNat_le, UInt8.le_iff_toNat_le] at hx
      obtain ⟨hge, hlt⟩ := takeTails_bounds h
      exact ⟨Nat.le_trans (Nat.mul_le_mul_right _ (by omega)) hge,
        Nat.lt_of_lt_of_le hlt (Nat.mul_le_mul_right _ (by omega))⟩
    · cases h

/-- A lead byte that is not low starts a character that is not ASCII: each range of the first
continuation byte keeps the number above 127, off the surrogates and within Unicode. -/
theorem bounds_of_lead {b : UInt8} (hb : 128 ≤ b.toNat) {l : Lead} (hl : lead? b = some l)
    {xs rest : Bytes} {n : Nat} (h : takeTails l.tails l.high xs = (some n, rest)) :
    128 ≤ n ∧ n.isValidChar := by
  simp only [lead?] at hl
  unfold Nat.isValidChar
  split_ifs at hl
  · omega
  all_goals
    obtain rfl := Option.some.inj hl
    obtain ⟨hge, hlt⟩ := takeTails_bounds_first (by simp) (by simp) h
    simp only [span, UInt8.reduceToNat] at hge hlt
    omega

/-- What remains is the end of the bytes. -/
theorem suffix_takeTails : ∀ (tails : List (UInt8 × UInt8)) (bits : Nat) (xs : Bytes),
    (takeTails tails bits xs).2 <:+ xs
  | [], _, _ => List.suffix_rfl
  | _ :: _, _, [] => List.suffix_rfl
  | (lo, hi) :: tails, bits, x :: xs => by
    rw [takeTails]
    split
    · exact (suffix_takeTails tails _ xs).trans (List.suffix_cons x xs)
    · exact List.suffix_rfl

theorem suffix_next (b : UInt8) (xs : Bytes) : (next b xs).2 <:+ xs := by
  unfold next
  split
  · exact List.suffix_rfl
  · exact suffix_takeTails _ _ xs

theorem toNat_of_isValidChar {n : Nat} (h : n.isValidChar) : (Char.ofNat n).toNat = n := by
  rw [Char.ofNat, dif_pos h]
  rfl

theorem low_of_next {b : UInt8} {xs : Bytes} {c : Char} (h : (next b xs).1 = some c)
    (hc : c.toNat < 128) : b.toNat = c.toNat := by
  cases hl : lead? b with
  | none =>
    rw [next, hl] at h
    cases h
  | some l =>
    rw [next_of_lead hl] at h
    obtain ⟨n, hn, rfl⟩ := Option.map_eq_some_iff.mp h
    rcases Nat.lt_or_ge b.toNat 128 with hb | hb
    · rw [lead?_of_low hb] at hl
      cases hl
      cases hn
      exact (toNat_of_isValidChar (Or.inl (Nat.lt_trans hb (by decide)))).symm
    · obtain ⟨hge, hvalid⟩ := bounds_of_lead hb hl (Prod.ext hn rfl)
      rw [toNat_of_isValidChar hvalid] at hc
      omega

/-- **An ASCII character comes from its byte alone.** -/
theorem mem_of_mem_decodeLossy {bytes : Bytes} {c : Char} (h : c ∈ decodeLossy bytes)
    (hc : c.toNat < 128) : UInt8.ofNat c.toNat ∈ bytes := by
  match bytes with
  | [] => exact absurd h (by simp)
  | b :: bytes =>
    have hlen := length_next_le b bytes
    rw [decodeLossy_cons, List.mem_cons] at h
    rcases h with h | h
    · cases hn : (next b bytes).1 with
      | none =>
        rw [hn] at h
        subst h
        exact absurd hc (by decide)
      | some d =>
        rw [hn] at h
        subst h
        rw [← low_of_next hn hc, UInt8.ofNat_toNat]
        exact List.mem_cons_self
    · exact List.mem_cons_of_mem b
        ((suffix_next b bytes).subset (mem_of_mem_decodeLossy h hc))
termination_by bytes.length

theorem not_mem_decodeLossy {bytes : Bytes} {b : UInt8} (hb : b.toNat < 128) (h : b ∉ bytes) :
    Char.ofNat b.toNat ∉ decodeLossy bytes := by
  intro hmem
  have hc : (Char.ofNat b.toNat).toNat = b.toNat :=
    toNat_of_isValidChar (Or.inl (Nat.lt_trans hb (by decide)))
  have hb' := mem_of_mem_decodeLossy hmem (by rwa [hc])
  rw [hc, UInt8.ofNat_toNat] at hb'
  exact h hb'

/-! ### Bytes that are a text -/

/-- The bytes encode a text. -/
def IsText (bytes : Bytes) : Prop := ∃ t, encode t = bytes

theorem encode_ne_nil {t : Text} (h : t ≠ []) : encode t ≠ [] :=
  fun hnil => h (by rw [← decodeLossy_encode t, hnil, decodeLossy_nil])

theorem isText_encode (t : Text) : IsText (encode t) := ⟨t, rfl⟩

theorem IsText.append {xs ys : Bytes} (h : IsText xs) (h' : IsText ys) : IsText (xs ++ ys) := by
  obtain ⟨s, rfl⟩ := h
  obtain ⟨t, rfl⟩ := h'
  exact ⟨s ++ t, encode_append s t⟩

theorem isText_flatMap {α : Type} {l : List α} {f : α → Bytes} (h : ∀ a ∈ l, IsText (f a)) :
    IsText (l.flatMap f) := by
  induction l with
  | nil => exact isText_encode []
  | cons a l ih =>
    obtain ⟨ha, hl⟩ := List.forall_mem_cons.mp h
    exact ha.append (ih hl)

/-- ASCII bytes as a text, one character for each. -/
def ofLow (bytes : Bytes) : Text := bytes.map fun b => Char.ofNat b.toNat

theorem encode_ofLow {bytes : Bytes} (h : ∀ b ∈ bytes, b.toNat < 128) : encode (ofLow bytes) = bytes := by
  induction bytes with
  | nil => rfl
  | cons b bytes ih =>
    obtain ⟨hb, hbytes⟩ := List.forall_mem_cons.mp h
    have hc : (Char.ofNat b.toNat).toNat = b.toNat :=
      toNat_of_isValidChar (Or.inl (Nat.lt_trans hb (by decide)))
    rw [ofLow, List.map_cons, encode_cons, encodeChar_of_lt (by rwa [hc]), hc, UInt8.ofNat_toNat]
    exact congrArg (b :: ·) (ih hbytes)

theorem isText_of_low {bytes : Bytes} (h : ∀ b ∈ bytes, b.toNat < 128) : IsText bytes :=
  ⟨ofLow bytes, encode_ofLow h⟩

/-- What is decoded of such bytes is the text that they encode. -/
theorem IsText.encode_decodeLossy {bytes : Bytes} (h : IsText bytes) :
    encode (decodeLossy bytes) = bytes := by
  obtain ⟨t, rfl⟩ := h
  rw [decodeLossy_encode]

/-- What follows a text is a text if both together are. -/
theorem IsText.of_encode_append {t : Text} {rest : Bytes} (h : IsText (encode t ++ rest)) : IsText rest := by
  obtain ⟨u, hu⟩ := h
  have hdecoded : u = t ++ decodeLossy rest := by
    rw [← decodeLossy_encode u, hu, decodeLossy_encode_append]
  rw [hdecoded, encode_append] at hu
  exact ⟨decodeLossy rest, List.append_cancel_left hu⟩

/-- A low byte that is taken out wherever it stands leaves the text without its character. -/
theorem filter_encode {b : UInt8} (hb : b.toNat < 128) (t : Text) :
    (encode t).filter (· != b) = encode (t.filter (· != Char.ofNat b.toNat)) := by
  have hchar : (Char.ofNat b.toNat).toNat = b.toNat :=
    toNat_of_isValidChar (Or.inl (Nat.lt_trans hb (by decide)))
  induction t with
  | nil => rfl
  | cons c t ih =>
    rw [encode_cons, List.filter_append, ih]
    by_cases hc : c = Char.ofNat b.toNat
    · have hone : String.utf8EncodeChar c = [b] := by
        rw [hc, encodeChar_of_lt (by omega), hchar, UInt8.ofNat_toNat]
      rw [hone, List.filter_cons_of_neg (by simp), List.filter_nil, List.nil_append,
        List.filter_cons_of_neg (by simp [hc])]
    · have hnone : b ∉ String.utf8EncodeChar c := by
        intro hmem
        have hother := mem_of_mem_encode (t := [c]) (by rwa [encode_cons, encode_nil, List.append_nil]) hb
        exact hc (List.mem_singleton.mp hother).symm
      have hall : (String.utf8EncodeChar c).filter (· != b) = String.utf8EncodeChar c :=
        List.filter_eq_self.mpr fun d hd => bne_iff_ne.mpr fun he => hnone (he ▸ hd)
      rw [hall, List.filter_cons_of_pos (by simpa using hc), encode_cons]

theorem IsText.filter {bytes : Bytes} (h : IsText bytes) {b : UInt8} (hb : b.toNat < 128) :
    IsText (bytes.filter (· != b)) := by
  obtain ⟨t, rfl⟩ := h
  exact ⟨_, (filter_encode hb t).symm⟩

/-- **A text falls apart at a low byte** into two texts. -/
theorem IsText.of_append_low {xs ys : Bytes} {b : UInt8} (hb : b.toNat < 128)
    (h : IsText (xs ++ b :: ys)) : IsText xs ∧ IsText ys := by
  obtain ⟨t, ht⟩ := h
  induction t generalizing xs with
  | nil => exact absurd ht.symm (by simp)
  | cons c t ih =>
    have hone : IsText (String.utf8EncodeChar c) := ⟨[c], by rw [encode_cons, encode_nil, List.append_nil]⟩
    rw [encode_cons, List.append_eq_append_iff] at ht
    rcases ht with ⟨front, rfl, hrest⟩ | ⟨back, hchar, hrest⟩
    · -- the character stands before the byte
      obtain ⟨hfront, hys⟩ := ih hrest
      exact ⟨hone.append hfront, hys⟩
    cases back with
    | nil =>
      obtain ⟨-, hys⟩ := @ih [] hrest.symm
      exact ⟨by rwa [hchar, List.append_nil] at hone, hys⟩
    | cons d back =>
      -- the byte is in the character, which is then nothing else
      obtain ⟨rfl, rfl⟩ := List.cons.inj hrest
      have hlow : c.toNat < 128 := by
        by_contra hhigh
        have hge := toNat_ge_of_mem_encodeChar (Nat.le_of_not_lt hhigh)
          (hchar ▸ List.mem_append_right xs List.mem_cons_self)
        omega
      rw [encodeChar_of_lt hlow] at hchar
      obtain ⟨rfl, hback⟩ := List.append_eq_singleton_iff.mp hchar.symm |>.resolve_right (by simp)
      obtain rfl : back = [] := (List.cons.inj hback).2
      exact ⟨isText_encode [], isText_encode t⟩

end FormCapture.Utf8
