import FormCapture.Proofs.Multipart.ContentType
import FormCapture.Proofs.Multipart.Form
import FormCapture.Proofs.Multipart.Reread
import Mathlib.Data.List.Induction

/-! # Forms as they are uploaded

A form whose header lines are texts, whose fields hold texts and whose files hold any bytes (`Form`). Its
parts are well-formed entries (`Item.entry_wellFormed`), for lines that are not empty make no blank line
before its time, and a delimiter holds no line end. What the form is transcoded to is a text
(`Form.isText_transcoded`), since payloads of files are written in base64, so nothing of it is replaced:
`Form.exists_transcode_eq`. -/

namespace FormCapture.Multipart

open FormCapture.Bytes

/-! ### Boundaries -/

/-- The value of a `Content-Type` field that declares a boundary, in quotes. -/
def formType (boundary : Text) : Text :=
  "multipart/form-data; boundary=\"".toList ++ (boundary ++ ['"'])

theorem formType_eq (boundary : Text) :
    formType boundary =
      declaring "multipart/form-data".toList [] "boundary".toList ('"' :: (boundary ++ ['"'])) := by
  have hstart : "multipart/form-data; boundary=\"".toList =
      "multipart/form-data".toList ++ ("; ".toList ++ ("boundary".toList ++ ['=', '"'])) := by rfl
  calc formType boundary
      = "multipart/form-data".toList ++ ("; ".toList ++ ("boundary".toList ++ ['=', '"'])) ++
          (boundary ++ ['"']) := congrArg (· ++ (boundary ++ ['"'])) hstart
    _ = _ := by
      simp only [declaring, List.flatMap_nil, List.nil_append, List.append_assoc, List.cons_append]

/-- **A boundary in quotes is read as it is.** -/
theorem ofContentType_formType {boundary : Text} (h : isValid boundary = true) :
    ofContentType (formType boundary) = .ok (some boundary) := by
  have hmark : ';' ∉ '"' :: (boundary ++ ['"']) := by
    simp [not_mem_of_isValid h (by decide : isBoundaryChar ';' = false)]
  have htype : Text.lowerAscii "multipart/form-data".toList = "multipart/form-data".toList := by
    decide +kernel
  have hname : Text.lowerAscii "boundary".toList = "boundary".toList := by decide
  have hread := ofContentType_declaring htype hname (fun _ hp => absurd hp List.not_mem_nil) hmark
    (bare_quoted h) h (Or.inl rfl)
  rwa [List.append_nil, ← formType_eq] at hread

/-! ### Parts -/

/-- A part of a form, its header lines as texts. -/
structure Item where
  /-- The first header line, which decides whether the part is a file. -/
  line : Text
  /-- The other header lines. -/
  later : List Text
  payload : Bytes

namespace Item

def entry (p : Item) : Entry :=
  ⟨Utf8.encode p.line, p.later.flatMap fun line => crlf ++ Utf8.encode line, p.payload⟩

structure WellFormed (D : Bytes) (p : Item) : Prop where
  line : p.line.OnOneLine
  later : ∀ line ∈ p.later, line ≠ [] ∧ line.OnOneLine
  payload : ¬ D <:+: p.payload
  /-- A part that is no file holds a text, and keeps clear of the delimiter in its headers too. -/
  field : ¬ NamesFile (Utf8.encode p.line) →
    Utf8.IsText p.payload ∧ ∀ line ∈ p.later, ¬ D <:+: Utf8.encode line

/-- Lines that are not empty make no blank line, by induction from the last line on. -/
theorem not_infix_headers {later : List Text} (h : ∀ line ∈ later, line ≠ [] ∧ line.OnOneLine) :
    ¬ headerEnd <:+: (later.flatMap fun line => crlf ++ Utf8.encode line) ++ headerEnd.dropLast := by
  induction later using List.reverseRecOn with
  | nil => exact not_infix_dropLast headerEnd_ne_nil
  | append_singleton later line ih =>
    obtain ⟨hlater, hline⟩ := List.forall_mem_append.mp h
    obtain ⟨hne, hfits⟩ := hline line List.mem_cons_self
    obtain ⟨hcr, hlf⟩ := Utf8.lineEnd_not_mem_encode hfits
    rw [List.flatMap_append, List.flatMap_singleton]
    exact not_infix_addLine (ih hlater) (Utf8.encode_ne_nil hne) hcr hlf

theorem not_infix_of_lines {D : Bytes} (hD : D ≠ []) (hcr : cr ∉ D) (hlf : lf ∉ D) {later : List Text}
    (h : ∀ line ∈ later, ¬ D <:+: Utf8.encode line) :
    ¬ D <:+: later.flatMap fun line => crlf ++ Utf8.encode line := by
  induction later using List.reverseRecOn with
  | nil => exact fun hin => hD (List.infix_nil.mp hin)
  | append_singleton later line ih =>
    obtain ⟨hlater, hline⟩ := List.forall_mem_append.mp h
    have hcons : crlf ++ Utf8.encode line = cr :: ([] ++ lf :: Utf8.encode line) := rfl
    rw [List.flatMap_append, List.flatMap_singleton, hcons, infix_append_cons_iff hcr,
      infix_append_cons_iff hlf]
    rintro (hin | hin | hin)
    · exact ih hlater hin
    · exact hD (List.infix_nil.mp hin)
    · exact hline line List.mem_cons_self hin

/-- **The part is a well-formed entry.** -/
theorem entry_wellFormed {D : Bytes} (hD : D ≠ []) (hcr : cr ∉ D) (hlf : lf ∉ D) {p : Item}
    (h : p.WellFormed D) : p.entry.WellFormed D where
  line := Utf8.lineEnd_not_mem_encode h.line
  headers := by
    rw [entry]
    cases p.later with
    | nil => exact Or.inl rfl
    | cons line later => exact Or.inr ⟨_, (List.append_assoc _ _ _).symm⟩
  blank := by
    have hcut : CutAt headerEnd (p.entry.headers ++ (headerEnd ++ [])) p.entry.headers [] :=
      (cutAt_append_iff headerEnd_ne_nil).mpr (not_infix_headers h.later)
    rwa [List.append_nil] at hcut
  payload := h.payload
  field hf := not_infix_of_lines hD hcr hlf (h.field hf).2

end Item

/-! ### Forms -/

/-- A form: what stands before its first part, the parts, and what stands behind the last delimiter. -/
structure Form where
  boundary : Text
  preamble : Text
  items : List Item
  epilogue : Bytes

namespace Form

def entries (f : Form) : List Entry := f.items.map Item.entry

/-- The form as it is sent. -/
def body (f : Form) : Bytes :=
  compose (delimiter f.boundary) (Utf8.encode f.preamble) f.entries f.epilogue

/-- The form with its files as base64 text. -/
def transcoded (f : Form) : Bytes :=
  Utf8.encode f.preamble ++ (f.entries.flatMap (Entry.transcoded (delimiter f.boundary)) ++
    (delimiter f.boundary ++ (dashes ++ crlf)))

structure WellFormed (f : Form) : Prop where
  boundary : isValid f.boundary = true
  /-- The preamble is empty or ends a line. -/
  preamble : f.preamble = [] ∨ ['\r', '\n'] <:+ f.preamble
  clear : ¬ delimiter f.boundary <:+: Utf8.encode f.preamble
  items : ∀ p ∈ f.items, p.WellFormed (delimiter f.boundary)

/-! ### What comes out is a text -/

theorem isText_decimal (n : Nat) : Utf8.IsText (ofAscii (toString n)) :=
  Utf8.isText_of_low fun _ hb => Nat.lt_of_le_of_lt (toNat_of_mem_decimal hb).2 (by decide)

theorem isText_base64 (payload : Bytes) : Utf8.IsText (Base64.encode payload) :=
  Utf8.isText_of_low fun _ => Base64.toNat_lt_of_mem_encode

theorem isText_crlf : Utf8.IsText crlf := ⟨['\r', '\n'], rfl⟩

theorem isText_dashes : Utf8.IsText dashes := ⟨['-', '-'], rfl⟩

theorem isText_delimiter (boundary : Text) : Utf8.IsText (delimiter boundary) :=
  isText_dashes.append (Utf8.isText_encode boundary)

/-- **A part comes out as a text**: a file is written in base64, and a field is a text already. -/
theorem isText_entry {boundary : Text} {p : Item} (h : p.WellFormed (delimiter boundary)) :
    Utf8.IsText (p.entry.transcoded (delimiter boundary)) := by
  have hD := isText_delimiter boundary
  have hline : Utf8.IsText p.entry.line := Utf8.isText_encode p.line
  have hheaders : Utf8.IsText p.entry.headers :=
    Utf8.isText_flatMap fun line _ => isText_crlf.append (Utf8.isText_encode line)
  have hlength : Utf8.IsText (ofAscii "Content-Length: ") := ⟨"Content-Length: ".toList, rfl⟩
  have hencoding : Utf8.IsText (ofAscii "Content-Encoding: base64") :=
    ⟨"Content-Encoding: base64".toList, rfl⟩
  rw [Entry.transcoded]
  split
  · exact hD.append (isText_crlf.append (hline.append (hheaders.append (isText_crlf.append
      (hlength.append ((isText_decimal _).append (isText_crlf.append (hencoding.append
        (isText_crlf.append (isText_crlf.append ((isText_base64 _).append isText_crlf)))))))))))
  · next hf =>
    have hend : Utf8.IsText headerEnd := isText_crlf.append isText_crlf
    exact hD.append (isText_crlf.append (hline.append (hheaders.append (hend.append
      ((h.field hf).1.append isText_crlf)))))

theorem isText_transcoded {f : Form} (h : f.WellFormed) : Utf8.IsText f.transcoded := by
  have hentries : Utf8.IsText (f.entries.flatMap (Entry.transcoded (delimiter f.boundary))) := by
    rw [entries, List.flatMap_map]
    exact Utf8.isText_flatMap fun p hp => isText_entry (h.items p hp)
  exact (Utf8.isText_encode f.preamble).append
    (hentries.append ((isText_delimiter f.boundary).append (isText_dashes.append isText_crlf)))

/-- **A well-formed form is transcoded without loss**: what its bytes are read as encodes to the form with
its files in base64. -/
theorem exists_transcode_eq {f : Form} (h : f.WellFormed) :
    ∃ text, transcode .linear f.body f.boundary = .ok text ∧ Utf8.encode text = f.transcoded := by
  have hfits := onOneLine_of_isValid h.boundary
  have hD := delimiter_ne_nil f.boundary
  have hcr := cr_not_mem_delimiter hfits.1
  have hlf := lf_not_mem_delimiter hfits.2
  have hpreamble : Utf8.encode f.preamble = [] ∨ crlf <:+ Utf8.encode f.preamble := by
    rcases h.preamble with hnil | ⟨front, hfront⟩
    · exact Or.inl (by rw [hnil, Utf8.encode_nil])
    · exact Or.inr ⟨Utf8.encode front, by rw [← hfront, Utf8.encode_append]; rfl⟩
  have hentries : ∀ e ∈ f.entries, e.WellFormed (delimiter f.boundary) := by
    intro e he
    obtain ⟨p, hp, rfl⟩ := List.mem_map.mp he
    exact Item.entry_wellFormed hD hcr hlf (h.items p hp)
  have hreads := reads_compose hD hcr hlf f.epilogue
    (cutAt_preamble hD hcr hlf hpreamble h.clear) hentries
  have hbytes : transcodeBytes .linear f.body f.boundary = .ok f.transcoded :=
    transcodeBytes_eq_ok_iff.mpr (Or.inr ⟨_, _, _, hreads, (rendered_map_toPart _ _ _).symm⟩)
  refine ⟨Utf8.decodeLossy f.transcoded, ?_, (isText_transcoded h).encode_decodeLossy⟩
  rw [transcode, hbytes]
  rfl

end Form

end FormCapture.Multipart
