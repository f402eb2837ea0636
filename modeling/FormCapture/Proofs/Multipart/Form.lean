import FormCapture.Proofs.Multipart.Reading
import FormCapture.Proofs.Text.Utf8

/-! # Well-formed bodies

A form is written part by part (`Entry.write`), each after a delimiter, between a preamble and an
epilogue (`compose`). If the preamble, the headers and the payloads keep clear of the delimiter
(`Entry.WellFormed`), then every seam does too: a delimiter holds no line end, and there is a line end
at each seam. So what is read in the body is the entries as they were written (`reads_compose`), and
`transcodeBytes_compose` says what comes out. -/

namespace FormCapture.Multipart

open FormCapture.Bytes

/-! ### Delimiters on one line -/

theorem not_mem_delimiter {boundary : Text} {c : Char} {b : UInt8} (hc : Char.ofNat b.toNat = c)
    (hb : b.toNat < 128) (hd : b ∉ dashes) (h : c ∉ boundary) : b ∉ delimiter boundary := by
  intro hmem
  rcases List.mem_append.mp hmem with hmem | hmem
  · exact hd hmem
  · exact h (hc ▸ Utf8.mem_of_mem_encode hmem hb)

theorem cr_not_mem_delimiter {boundary : Text} (h : '\r' ∉ boundary) : cr ∉ delimiter boundary :=
  not_mem_delimiter (by decide) (by decide) (by decide) h

theorem lf_not_mem_delimiter {boundary : Text} (h : '\n' ∉ boundary) : lf ∉ delimiter boundary :=
  not_mem_delimiter (by decide) (by decide) (by decide) h

/-! ### Writing a form -/

/-- A part as it is written. -/
structure Entry where
  /-- The first header line. -/
  line : Bytes
  /-- The other header lines, each after the line end before it. -/
  headers : Bytes
  payload : Bytes

namespace Entry

/-- The part after its delimiter. -/
def write (D : Bytes) (e : Entry) : Bytes :=
  D ++ (crlf ++ (e.line ++ (e.headers ++ (headerEnd ++ (e.payload ++ crlf)))))

/-- The part as it is transcoded. -/
def transcoded (D : Bytes) (e : Entry) : Bytes :=
  if NamesFile e.line then
    D ++ (crlf ++ (e.line ++ (e.headers ++ (crlf ++
      (ofAscii "Content-Length: " ++ (ofAscii (toString e.payload.length) ++ (crlf ++
        (ofAscii "Content-Encoding: base64" ++ (crlf ++ (crlf ++
          (Base64.encode e.payload ++ crlf)))))))))))
  else e.write D

/-- Nothing in the part is taken for a line end, a blank line or a delimiter before its time. -/
structure WellFormed (D : Bytes) (e : Entry) : Prop where
  line : cr ∉ e.line ∧ lf ∉ e.line
  headers : e.headers = [] ∨ crlf <+: e.headers
  blank : CutAt headerEnd (e.headers ++ headerEnd) e.headers []
  payload : ¬ D <:+: e.payload
  field : ¬ NamesFile e.line → ¬ D <:+: e.headers

/-- What is read of the part. -/
def toPart (e : Entry) : Part :=
  if NamesFile e.line then ⟨e.line, some ⟨e.headers, e.payload⟩, []⟩
  else ⟨e.line, none, e.headers ++ (headerEnd ++ (e.payload ++ crlf))⟩

end Entry

/-- The parts from a delimiter on, the closing delimiter and what stands after it. -/
def composeFrom (D : Bytes) (entries : List Entry) (epilogue : Bytes) : Bytes :=
  entries.flatMap (Entry.write D) ++ (D ++ (dashes ++ epilogue))

/-- A body: preamble, parts, closing delimiter, epilogue. -/
def compose (D preamble : Bytes) (entries : List Entry) (epilogue : Bytes) : Bytes :=
  preamble ++ composeFrom D entries epilogue

/-! ### Reading it back -/

section Reading

variable {D : Bytes} (hD : D ≠ []) (hcr : cr ∉ D) (hlf : lf ∉ D)

theorem exists_composeFrom_eq (D : Bytes) (entries : List Entry) (epilogue : Bytes) :
    ∃ after, composeFrom D entries epilogue = D ++ after := by
  cases entries with
  | nil => exact ⟨_, rfl⟩
  | cons e entries => exact ⟨_, by simp [composeFrom, Entry.write]; rfl⟩

theorem composeFrom_cons (D : Bytes) (e : Entry) (entries : List Entry) (epilogue : Bytes) :
    composeFrom D (e :: entries) epilogue =
      D ++ (crlf ++ (e.line ++ (e.headers ++ (headerEnd ++ ((e.payload ++ crlf) ++
        composeFrom D entries epilogue))))) := by
  simp [composeFrom, Entry.write]

theorem Entry.WellFormed.lineCut {e : Entry} (h : e.WellFormed D) (rest : Bytes) :
    LineCut e.line (e.headers ++ (headerEnd ++ rest)) := by
  refine ⟨fun b hb => ?_, ?_⟩
  · have h₁ : b ≠ cr := fun he => h.line.1 (he ▸ hb)
    have h₂ : b ≠ lf := fun he => h.line.2 (he ▸ hb)
    simp [isLineEnd, h₁, h₂]
  · rcases h.headers with he | ⟨more, he⟩
    · exact ⟨cr, _, by rw [he]; rfl, by decide⟩
    · exact ⟨cr, _, by rw [← he]; rfl, by decide⟩

include hD hcr hlf

theorem cutAt_payload {payload : Bytes} (h : ¬ D <:+: payload) (after : Bytes) :
    CutAt D ((payload ++ crlf) ++ (D ++ after)) (payload ++ crlf) after := by
  have hp : ¬ D <:+: payload ++ [cr] := by
    rw [infix_append_cons_iff hcr]
    simpa [hD] using h
  have hcut := cutAt_of_last_not_mem hD hlf hp after
  rwa [List.append_assoc payload] at hcut

/-- A preamble that is empty or ends a line is cut off by the delimiter after it. -/
theorem cutAt_preamble {preamble : Bytes} (hp : preamble = [] ∨ crlf <:+ preamble)
    (hd : ¬ D <:+: preamble) (after : Bytes) :
    CutAt D (preamble ++ (D ++ after)) preamble after := by
  rcases hp with rfl | ⟨front, rfl⟩
  · exact cutAt_nil D after
  · exact cutAt_payload hD hcr hlf (fun h => hd (List.infix_append_of_infix_left h)) after

/-- A field's headers, blank line and payload hold no delimiter. -/
theorem not_infix_field {headers payload : Bytes} (hh : ¬ D <:+: headers) (hp : ¬ D <:+: payload) :
    ¬ D <:+: headers ++ (headerEnd ++ payload) := by
  have hcons : headerEnd ++ payload = cr :: lf :: cr :: lf :: payload := rfl
  rw [hcons, infix_append_cons_iff hcr, ← List.nil_append (lf :: _), infix_append_cons_iff hlf,
    ← List.nil_append (cr :: _), infix_append_cons_iff hcr, ← List.nil_append (lf :: _),
    infix_append_cons_iff hlf]
  simp [hD, hh, hp]

theorem Entry.WellFormed.fileCut {e : Entry} (h : e.WellFormed D) (after : Bytes) :
    FileCut D (e.headers ++ (headerEnd ++ ((e.payload ++ crlf) ++ (D ++ after)))) e.headers
      (e.payload ++ crlf) (D ++ after) :=
  ⟨after, h.blank.retail headerEnd_ne_nil _, cutAt_payload hD hcr hlf h.payload after, rfl⟩

/-- What a field is read to hold is cut off by the delimiter after it. -/
theorem Entry.WellFormed.cutAt_field {e : Entry} (h : e.WellFormed D) (hf : ¬ NamesFile e.line)
    (after : Bytes) :
    CutAt D ((e.headers ++ (headerEnd ++ (e.payload ++ crlf))) ++ (D ++ after))
      (e.headers ++ (headerEnd ++ (e.payload ++ crlf))) after := by
  have hno := not_infix_field hD hcr hlf (h.field hf) h.payload
  have hcut := cutAt_payload hD hcr hlf hno after
  simpa only [List.append_assoc] using hcut

/-- **The entries are read as they were written.** `before` is what stands before the first of
them; the induction goes through because what a field is read to hold plays that part for the next
entry. -/
theorem reads_compose (epilogue : Bytes) : ∀ {entries : List Entry} {before : Bytes},
    (∀ after, CutAt D (before ++ (D ++ after)) before after) →
      (∀ e ∈ entries, e.WellFormed D) →
        Reads D (before ++ composeFrom D entries epilogue) before (entries.map Entry.toPart) epilogue
  | [], before, hb, _ => .close (hb _)
  | e :: entries, before, hb, he => by
    have hwf := he e (by simp)
    have hrest : ∀ f ∈ entries, f.WellFormed D := fun f hf => he f (by simp [hf])
    have hpart : PartCut D (before ++ composeFrom D (e :: entries) epilogue) before e.line
        (e.headers ++ (headerEnd ++ ((e.payload ++ crlf) ++ composeFrom D entries epilogue))) := by
      rw [composeFrom_cons]
      exact ⟨⟨crlf, rfl, by decide, hb _⟩, hwf.lineCut _⟩
    rw [List.map_cons, Entry.toPart]
    by_cases hf : NamesFile e.line
    · rw [if_pos hf]
      have hnext : Reads D ([] ++ composeFrom D entries epilogue) [] (entries.map Entry.toPart)
          epilogue := reads_compose epilogue (cutAt_nil D) hrest
      obtain ⟨after, hafter⟩ := exists_composeFrom_eq D entries epilogue
      have hfile := hwf.fileCut hD hcr hlf after
      rw [← hafter] at hfile
      have hr := Reads.file hpart hf hfile hnext
      rwa [filePayload_append_crlf] at hr
    · rw [if_neg hf]
      refine .field hpart hf ?_
      have hsplit : e.headers ++ (headerEnd ++ ((e.payload ++ crlf) ++
          composeFrom D entries epilogue)) =
            (e.headers ++ (headerEnd ++ (e.payload ++ crlf))) ++ composeFrom D entries epilogue := by
        simp
      rw [hsplit]
      exact reads_compose epilogue (hwf.cutAt_field hD hcr hlf hf) hrest

end Reading

theorem rendered_map_toPart (D : Bytes) (entries : List Entry) (before : Bytes) :
    rendered D before (entries.map Entry.toPart) =
      before ++ (entries.flatMap (Entry.transcoded D) ++ (D ++ (dashes ++ crlf))) := by
  induction entries generalizing before with
  | nil => rfl
  | cons e entries ih =>
    rw [List.map_cons, rendered, ih, Entry.toPart]
    by_cases hf : NamesFile e.line
    · simp [hf, Entry.transcoded, FileSection.render, renderPayload, headerEnd, ofAscii]
    · simp [hf, Entry.transcoded, Entry.write]

/-- **A well-formed body is transcoded part by part**: the fields stay as they are, and each file gets
two header lines and its payload in base64. -/
theorem transcodeBytes_compose {boundary : Text} (hcr : '\r' ∉ boundary) (hlf : '\n' ∉ boundary)
    {preamble : Bytes} (hp : preamble = [] ∨ crlf <:+ preamble)
    (hd : ¬ delimiter boundary <:+: preamble) {entries : List Entry}
    (he : ∀ e ∈ entries, e.WellFormed (delimiter boundary)) (epilogue : Bytes) :
    transcodeBytes .linear (compose (delimiter boundary) preamble entries epilogue) boundary =
      .ok (preamble ++ (entries.flatMap (Entry.transcoded (delimiter boundary)) ++
        (delimiter boundary ++ (dashes ++ crlf)))) := by
  have hD := delimiter_ne_nil boundary
  have hcr' := cr_not_mem_delimiter hcr
  have hlf' := lf_not_mem_delimiter hlf
  have hr := reads_compose hD hcr' hlf' epilogue (cutAt_preamble hD hcr' hlf' hp hd) he
  exact transcodeBytes_eq_ok_iff.mpr
    (Or.inr ⟨_, _, _, hr, (rendered_map_toPart _ _ _).symm⟩)

/-- A field and a file of one byte. -/
def sampleForm : List Entry :=
  [⟨ofAscii "Disposition: name=\"a\"", [], ofAscii "1"⟩,
    ⟨ofAscii "Disposition: FileName=\"b\"",
      crlf ++ ofAscii "Content-Type: text/plain", [0]⟩]

theorem sampleForm_wellFormed :
    ∀ e ∈ sampleForm, e.WellFormed (delimiter ['X']) := by
  intro e he
  rcases List.mem_cons.mp he with rfl | he
  · exact ⟨by decide +kernel, .inl rfl, ⟨by decide +kernel, by decide +kernel⟩, by decide +kernel,
      by decide +kernel⟩
  · obtain rfl := List.mem_singleton.mp he
    exact ⟨by decide +kernel, .inr (by decide +kernel), ⟨by decide +kernel, by decide +kernel⟩,
      by decide +kernel, by decide +kernel⟩

theorem transcodeBytes_sampleForm :
    transcodeBytes .linear
        (compose (delimiter ['X']) (ofAscii "p\r\n") sampleForm (ofAscii "e")) ['X'] =
      .ok (ofAscii ("p\r\n--X\r\nDisposition: name=\"a\"\r\n\r\n1\r\n--X\r\n" ++
        "Disposition: FileName=\"b\"\r\nContent-Type: text/plain\r\nContent-Length: 1\r\n" ++
        "Content-Encoding: base64\r\n\r\nAA==\r\n--X--\r\n")) :=
  (transcodeBytes_compose (by decide) (by decide) (Or.inr ⟨ofAscii "p", by decide +kernel⟩)
    (by decide +kernel) sampleForm_wellFormed (ofAscii "e")).trans
      (congrArg _ (by decide +kernel))

end FormCapture.Multipart
