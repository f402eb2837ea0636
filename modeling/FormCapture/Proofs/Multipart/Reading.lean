import FormCapture.Proofs.Multipart.Round

/-! # Readings of a multipart body

A reading cuts a text at its first delimiter and goes on: either two dashes follow, and the text is
closed, or a part follows and a reading of what comes after its header line, or after its file
(`Reads`). `scanFrom_eq_ok_iff` says that a scan finds what is read and nothing else, and
`transcodeBytes_eq_ok_iff` that a body is transcoded into its reading, written out (`rendered`). -/

namespace FormCapture.Multipart

open FormCapture.Bytes

variable {body : Bytes}

/-- **A reading** of a text: what stands before its first delimiter, the parts after that, and what
stands after the closing dashes. -/
inductive Reads (delimiter : Bytes) : Bytes → Bytes → List Part → Bytes → Prop
  | close {text before tail : Bytes} :
    CutAt delimiter text before (dashes ++ tail) → Reads delimiter text before [] tail
  | field {text before line rest next tail : Bytes} {parts : List Part} :
    PartCut delimiter text before line rest → ¬ NamesFile line →
      Reads delimiter rest next parts tail →
        Reads delimiter text before (⟨line, none, next⟩ :: parts) tail
  | file {text before line rest headers stretch after next tail : Bytes} {parts : List Part} :
    PartCut delimiter text before line rest → NamesFile line →
      FileCut delimiter rest headers stretch after → Reads delimiter after next parts tail →
        Reads delimiter text before
          (⟨line, some ⟨headers, filePayload stretch⟩, next⟩ :: parts) tail

/-! ### Scans and readings -/

/-- Every reading begins with a cut at the delimiter. -/
theorem Reads.cutAt {D text before tail : Bytes} {parts : List Part}
    (h : Reads D text before parts tail) : ∃ after, CutAt D text before after := by
  cases h with
  | close h => exact ⟨_, h⟩
  | field h _ _ | file h _ _ _ =>
    obtain ⟨⟨pair, -, -, hcut⟩, -⟩ := h
    exact ⟨_, hcut⟩

/-- A file goes up to a delimiter, so nothing stands before the next one. -/
theorem FileCut.before_eq_nil {D rest headers stretch after before tail : Bytes} {parts : List Part}
    (h : FileCut D rest headers stretch after) (hread : Reads D after before parts tail) :
    before = [] := by
  obtain ⟨_, -, -, rfl⟩ := h
  obtain ⟨_, hcut⟩ := hread.cutAt
  exact hcut.eq_nil_of_prefix.1

theorem Reads.ne_nil {D text before tail : Bytes} {parts : List Part} (hD : D ≠ [])
    (h : Reads D text before parts tail) : text ≠ [] := by
  obtain ⟨after, hcut⟩ := h.cutAt
  exact hcut.ne_nil hD

section Agreement

variable {D : Bytes} (hD : D ≠ [])
include hD

/-- What is read is found. -/
theorem Reads.scanFrom_eq {text before tail : Bytes} {parts : List Part}
    (h : Reads D text before parts tail) : ∀ c : Cursor body, c.rest = text →
      ∃ stop, (scanFrom .linear D c).result = .ok (before, parts, stop) ∧
        stop + tail.length = c.offset + text.length := by
  induction h with
  | @close text before tail hcut =>
    rintro c rfl
    refine ⟨_, scanFrom_close hD hcut, ?_⟩
    rw [hcut.eq]
    simp only [List.length_append, show dashes.length = 2 from rfl]
    omega
  | @field text before line rest next tail parts hpart hf _ ih =>
    rintro c rfl
    obtain ⟨stop, he, hs⟩ := ih (c.advance (lineLength D before line)) hpart.rest_advance
    refine ⟨stop, by rw [scanFrom_field hD hpart hf, he]; rfl, ?_⟩
    rw [hs, hpart.length_eq, Cursor.offset_advance, Nat.add_assoc]
  | @file text before line rest headers stretch after next tail parts hpart hf hcut _ ih =>
    rintro c rfl
    obtain ⟨stop, he, hs⟩ := ih (c.advance (fileLength D before line headers stretch))
      (hpart.rest_advance_file hcut)
    refine ⟨stop, by rw [scanFrom_file hD hpart hf hcut, he]; rfl, ?_⟩
    rw [hs, hpart.length_eq, hcut.length_eq, Cursor.offset_advance, fileLength]
    omega

/-- A place from which on nothing can be read makes the scan fail. -/
theorem reads_or_fault (c : Cursor body) :
    (∃ before parts tail, Reads D c.rest before parts tail) ∨
      ∃ fault, (scanFrom .linear D c).result = .error fault := by
  cases round hD c.rest with
  | noDelimiter h => exact .inr ⟨_, scanFrom_noDelimiter h⟩
  | cutLine h hs => exact .inr ⟨_, scanFrom_cutLine hD h hs⟩
  | close h => exact .inl ⟨_, _, _, .close h⟩
  | openLine h hp hne hl => exact .inr ⟨_, scanFrom_openLine hD h hp hne hl⟩
  | openHeaders h hf hh => exact .inr ⟨_, scanFrom_openHeaders hD h hf hh⟩
  | openPayload h hf hh hp => exact .inr ⟨_, scanFrom_openPayload hD h hf hh hp⟩
  | @field before line rest h hf =>
    rcases reads_or_fault (c.advance (lineLength D before line)) with
      ⟨next, parts, tail, hr⟩ | ⟨fault, he⟩
    · exact .inl ⟨_, _, _, .field h hf (h.rest_advance ▸ hr)⟩
    · exact .inr ⟨fault, by rw [scanFrom_field hD h hf, he]; rfl⟩
  | @file before line rest headers stretch after h hf hc =>
    rcases reads_or_fault (c.advance (fileLength D before line headers stretch)) with
      ⟨next, parts, tail, hr⟩ | ⟨fault, he⟩
    · exact .inl ⟨_, _, _, .file h hf hc (h.rest_advance_file hc ▸ hr)⟩
    · exact .inr ⟨fault, by rw [scanFrom_file hD h hf hc, he]; rfl⟩
termination_by c.rest.length
decreasing_by
  · rw [h.rest_advance, h.length_eq]
    exact Nat.lt_add_of_pos_left (lineLength_pos _ _ _)
  · rw [h.rest_advance_file hc, h.length_eq, hc.length_eq]
    have := lineLength_pos D before line
    omega

/-- **A scan finds what is read, and nothing else.** -/
theorem scanFrom_eq_ok_iff {c : Cursor body} {before : Bytes} {parts : List Part} {stop : Nat} :
    (scanFrom .linear D c).result = .ok (before, parts, stop) ↔
      ∃ tail, Reads D c.rest before parts tail ∧ stop + tail.length = c.offset + c.rest.length := by
  constructor
  · intro h
    rcases reads_or_fault hD c with ⟨before', parts', tail, hr⟩ | ⟨fault, he⟩
    · obtain ⟨stop', he, hs⟩ := hr.scanFrom_eq hD c rfl
      rw [h] at he
      cases he
      exact ⟨tail, hr, hs⟩
    · rw [h] at he
      cases he
  · rintro ⟨tail, hr, hs⟩
    obtain ⟨stop', he, hs'⟩ := hr.scanFrom_eq hD c rfl
    obtain rfl : stop = stop' := by omega
    exact he

end Agreement

theorem delimiter_ne_nil (boundary : Text) : delimiter boundary ≠ [] := by
  have := two_le_length_delimiter boundary
  intro h
  rw [h] at this
  simp at this

/-- **The document of a body** is what is read in it. -/
theorem scan_eq_ok_iff {boundary : Text} {document : Document} :
    (scan .linear body boundary).result = .ok (some document) ↔
      ∃ tail, Reads (delimiter boundary) body document.preamble document.parts tail ∧
        document.stop + tail.length = body.length := by
  obtain ⟨preamble, parts, stop⟩ := document
  by_cases hb : body = []
  · subst hb
    constructor
    · intro h; cases h
    · rintro ⟨tail, hr, -⟩
      exact absurd rfl (hr.ne_nil (delimiter_ne_nil boundary))
  · have hiff : (scanFrom .linear (delimiter boundary) (Cursor.first body)).result =
        .ok (preamble, parts, stop) ↔ ∃ tail, Reads (delimiter boundary) body preamble parts tail ∧
          stop + tail.length = 0 + body.length := scanFrom_eq_ok_iff (delimiter_ne_nil boundary)
    rw [Nat.zero_add] at hiff
    rw [result_scan boundary hb, ← hiff]
    cases (scanFrom .linear (delimiter boundary) (Cursor.first body)).result with
    | error f => simp [Except.map]
    | ok x => simp [Except.map, Prod.ext_iff]

/-! ### Readings written out -/

/-- A reading as text: the parts each after a delimiter and a line end, the payloads in base64. -/
def rendered (D before : Bytes) : List Part → Bytes
  | [] => before ++ (D ++ (dashes ++ Bytes.crlf))
  | part :: parts =>
    before ++ (D ++ (Bytes.crlf ++ (part.line ++ (part.file.elim [] FileSection.render ++
      rendered D part.text parts))))

theorem render_eq (D before : Bytes) (parts : List Part) (stop : Nat) :
    Document.render ⟨before, parts, stop⟩ D = rendered D before parts := by
  induction parts generalizing before with
  | nil => simp [Document.render, rendered]
  | cons part parts ih =>
    rw [rendered, ← ih part.text]
    simp [Document.render, Part.render]

/-- What is read in a body is its document. -/
theorem Reads.scan_eq {boundary : Text} {before tail : Bytes} {parts : List Part}
    (h : Reads (delimiter boundary) body before parts tail) :
    ∃ stop, (scan .linear body boundary).result = .ok (some ⟨before, parts, stop⟩) := by
  obtain ⟨stop, -, hs⟩ := h.scanFrom_eq (delimiter_ne_nil boundary) (Cursor.first body) rfl
  refine ⟨stop, scan_eq_ok_iff.mpr ⟨tail, h, ?_⟩⟩
  rw [hs, Cursor.offset_first, Nat.zero_add]

theorem scan_eq_ok_none_iff {boundary : Text} :
    (scan .linear body boundary).result = .ok none ↔ body = [] := by
  constructor
  · intro h
    by_contra hb
    rw [result_scan boundary hb] at h
    cases he : (scanFrom .linear (delimiter boundary) (Cursor.first body)).result with
    | error f => rw [he] at h; cases h
    | ok x => rw [he] at h; cases h
  · rintro rfl
    rfl

/-- **What a body is transcoded into**: its reading, written out. -/
theorem transcodeBytes_eq_ok_iff {boundary : Text} {out : Bytes} :
    transcodeBytes .linear body boundary = .ok out ↔
      body = [] ∧ out = [] ∨ ∃ before parts tail,
        Reads (delimiter boundary) body before parts tail ∧
          out = rendered (delimiter boundary) before parts := by
  unfold transcodeBytes
  constructor
  · intro h
    split at h
    · cases h
    · next he =>
      cases h
      exact Or.inl ⟨scan_eq_ok_none_iff.mp he, rfl⟩
    · next document he =>
      cases h
      obtain ⟨tail, hr, -⟩ := scan_eq_ok_iff.mp he
      exact Or.inr ⟨_, _, tail, hr, render_eq _ _ _ _⟩
  · rintro (⟨hb, rfl⟩ | ⟨before, parts, tail, hr, rfl⟩)
    · rw [scan_eq_ok_none_iff.mpr hb]
    · obtain ⟨stop, he⟩ := hr.scan_eq
      rw [he]
      exact congrArg _ (render_eq _ _ _ _)

/-- A body that is accepted and not empty has a document, which is what is read in it. -/
theorem exists_document {boundary : Text} {out : Bytes} (hb : body ≠ [])
    (h : transcodeBytes .linear body boundary = .ok out) : ∃ document tail,
      (scan .linear body boundary).result = .ok (some document) ∧
        Reads (delimiter boundary) body document.preamble document.parts tail ∧
        document.stop + tail.length = body.length ∧
        out = rendered (delimiter boundary) document.preamble document.parts := by
  unfold transcodeBytes at h
  split at h
  · cases h
  · next he => exact absurd (scan_eq_ok_none_iff.mp he) hb
  · next document he =>
    cases h
    obtain ⟨tail, hr, hs⟩ := scan_eq_ok_iff.mp he
    exact ⟨document, tail, he, hr, hs, render_eq _ _ _ _⟩

end FormCapture.Multipart
