import FormCapture.Bytes.Search

/-! # Searching without letter case

A search that ignores ASCII letter case finds a needle where the needle stands once both sides are
written in small letters: `occursIgnoringCase_iff`. -/

namespace FormCapture.Bytes

theorem isPrefixIgnoringCase_iff : ∀ {needle text : Bytes},
    isPrefixIgnoringCase needle text = true ↔ needle.map lowerAscii <+: text.map lowerAscii
  | [], text => by simp [isPrefixIgnoringCase]
  | a :: needle, [] => by simp [isPrefixIgnoringCase]
  | a :: needle, b :: text => by
    simp [isPrefixIgnoringCase, List.cons_prefix_cons, @isPrefixIgnoringCase_iff _ text]

/-- **A needle occurs without regard to case** if it stands in the text when both are in small
letters. -/
theorem occursIgnoringCase_iff {needle : Bytes} (hn : needle ≠ []) : ∀ {text : Bytes},
    occursIgnoringCase needle text = true ↔ needle.map lowerAscii <:+: text.map lowerAscii
  | [] => by simp [occursIgnoringCase, hn]
  | b :: text => by
    rw [occursIgnoringCase, Bool.or_eq_true, isPrefixIgnoringCase_iff, occursIgnoringCase_iff hn,
      List.map_cons, List.infix_cons_iff]

end FormCapture.Bytes
