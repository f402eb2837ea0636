import FormCapture.Proofs.Bytes.Base64
import FormCapture.Proofs.Multipart.Reading
import Mathlib.Data.List.Forall2

/-! # Reading what was written

A body that was transcoded is a multipart body with the same boundary. Its parts are those of the
body it comes from, with two more header lines and base64 text in the place of each payload
(`Part.reread`): the two lines make no blank line before its time, and since a delimiter begins with a
dash, it begins neither in them nor in the base64 text. `Reads.reread` is the simulation, one case for
each kind of part. -/

namespace FormCapture.Multipart

open FormCapture.Bytes

/-! ### Lines that are written -/

/-- The line that says how long a payload is. -/
def lengthLine (n : Nat) : Bytes := ofAscii ("Content-Length: " ++ toString n)

/-- The line that says how a payload is written. -/
def encodingLine : Bytes := ofAscii "Content-Encoding: base64"

/-- A decimal numeral is made of digits. -/
theorem toNat_of_mem_toString {n : Nat} {c : Char} (h : c ∈ (toString n).toList) :
    48 ≤ c.toNat ∧ c.toNat ≤ 57 := by
  have hdigit : c.isDigit = true := by
    refine Nat.isDigit_of_mem_toDigits (b := 10) (n := n) (by decide) (by decide) ?_
    simpa using h
  simpa [Char.isDigit, UInt32.le_iff_toNat_le] using hdigit

theorem toNat_of_mem_decimal {n : Nat} {b : UInt8} (h : b ∈ ofAscii (toString n)) :
    48 ≤ b.toNat ∧ b.toNat ≤ 57 := by
  obtain ⟨c, hc, rfl⟩ := List.mem_map.mp h
  have hlow := toNat_of_mem_toString hc
  have hval : c.toNat.toUInt8.toNat = c.toNat := by
    rw [Nat.toUInt8_eq, UInt8.toNat_ofNat']
    omega
  rwa [hval]

theorem not_mem_decimal {n : Nat} {b : UInt8} (hb : b.toNat < 48) : b ∉ ofAscii (toString n) :=
  fun h => Nat.not_lt.mpr (toNat_of_mem_decimal h).1 hb

theorem lengthLine_eq (n : Nat) :
    lengthLine n = ofAscii "Content-Length: " ++ ofAscii (toString n) := by
  simp [lengthLine, ofAscii]

theorem not_mem_lengthLine {n : Nat} {b : UInt8} (hb : b.toNat < 48)
    (h : b ∉ ofAscii "Content-Length: ") : b ∉ lengthLine n := by
  rw [lengthLine_eq, List.mem_append, not_or]
  exact ⟨h, not_mem_decimal hb⟩

/-- A line that is not empty makes no blank line with the headers before it. -/
theorem not_infix_addLine {headers line : Bytes} (h : ¬ headerEnd <:+: headers ++ headerEnd.dropLast)
    (hne : line ≠ []) (hcr : cr ∉ line) (hlf : lf ∉ line) :
    ¬ headerEnd <:+: (headers ++ (crlf ++ line)) ++ headerEnd.dropLast := by
  obtain ⟨c, more, rfl⟩ := List.exists_cons_of_ne_nil hne
  have hc : c ∉ headerEnd := by
    have h₁ : c ≠ cr := fun he => hcr (he ▸ List.mem_cons_self)
    have h₂ : c ≠ lf := fun he => hlf (he ▸ List.mem_cons_self)
    simp [headerEnd, crlf, h₁, h₂]
  have hassoc : (headers ++ (crlf ++ c :: more)) ++ headerEnd.dropLast =
      (headers ++ crlf) ++ c :: (more ++ headerEnd.dropLast) := by simp
  rw [hassoc, infix_append_cons_iff hc, not_or]
  refine ⟨fun hin => h (hin.trans ?_), fun hin => ?_⟩
  · exact ⟨[], [cr], by simp [headerEnd, crlf]⟩
  · have hmore : cr ∉ more := fun hm => hcr (List.mem_cons_of_mem _ hm)
    exact not_infix_dropLast headerEnd_ne_nil (infix_of_infix_append hmore hin)

theorem not_mem_encode_of_lt {payload : Bytes} {b : UInt8} (hd : ∀ n < 64, b ≠ Base64.digit n)
    (hp : b ≠ Base64.pad) : b ∉ Base64.encode payload :=
  fun h => Base64.not_isLetter hd hp (Base64.mem_encode h)

/-! ### Parts that are read again -/

/-- What is read where a file was written. -/
def FileSection.reread (file : FileSection) : FileSection :=
  ⟨file.headers ++ (crlf ++ lengthLine file.payload.length) ++ (crlf ++ encodingLine),
    Base64.encode file.payload⟩

/-- What is read where a part was written. -/
def Part.reread (part : Part) : Part := { part with file := part.file.map FileSection.reread }

theorem FileSection.render_eq (file : FileSection) :
    file.render = file.reread.headers ++ (headerEnd ++ (file.reread.payload ++ crlf)) := by
  simp [FileSection.render, renderPayload, FileSection.reread, lengthLine, encodingLine]

theorem exists_rendered_eq (D before : Bytes) (parts : List Part) :
    ∃ after, rendered D before parts = before ++ (D ++ after) := by
  cases parts with
  | nil => exact ⟨_, rfl⟩
  | cons part parts => exact ⟨_, rfl⟩

theorem PartCut.retail {D text before line rest rest' : Bytes} (hD : D ≠ [])
    (h : PartCut D text before line rest) (hl : LineCut line rest') :
    PartCut D (before ++ (D ++ (crlf ++ (line ++ rest')))) before line rest' := by
  obtain ⟨⟨pair, -, -, hcut⟩, -⟩ := h
  exact ⟨⟨crlf, rfl, by decide, hcut.retail hD _⟩, hl⟩

theorem cutAt_reread_headers {file : FileSection} {text after : Bytes}
    (h : CutAt headerEnd text file.headers after) (after' : Bytes) :
    CutAt headerEnd (file.reread.headers ++ (headerEnd ++ after')) file.reread.headers after' := by
  have hno : ¬ headerEnd <:+: file.headers ++ headerEnd.dropLast :=
    (cutAt_append_iff headerEnd_ne_nil).mp (h.eq ▸ h)
  refine (cutAt_append_iff headerEnd_ne_nil).mpr (not_infix_addLine ?_ ?_ ?_ ?_)
  · refine not_infix_addLine hno ?_ (not_mem_lengthLine ?_ ?_) (not_mem_lengthLine ?_ ?_)
    · simp [lengthLine, ofAscii]
    all_goals decide +kernel
  all_goals decide +kernel

section Again

variable {boundary : Text}

theorem exists_delimiter_eq (boundary : Text) : ∃ more, delimiter boundary = 45 :: more :=
  ⟨_, rfl⟩

/-- A delimiter does not begin in base64 text. -/
theorem cutAt_reread_payload (payload after : Bytes) :
    CutAt (delimiter boundary) ((Base64.encode payload ++ crlf) ++ (delimiter boundary ++ after))
      (Base64.encode payload ++ crlf) after := by
  obtain ⟨more, hmore⟩ := exists_delimiter_eq boundary
  rw [hmore]
  refine cutAt_of_head_not_mem ?_ after
  rw [List.mem_append, not_or]
  exact ⟨not_mem_encode_of_lt (by decide) (by decide), by decide⟩

theorem fileCut_reread (boundary : Text) {file : FileSection} {text after : Bytes}
    (h : CutAt headerEnd text file.headers after) (after' : Bytes) :
    FileCut (delimiter boundary) (file.render ++ (delimiter boundary ++ after')) file.reread.headers
      (file.reread.payload ++ crlf) (delimiter boundary ++ after') := by
  refine ⟨after', ?_, cutAt_reread_payload _ _, rfl⟩
  rw [FileSection.render_eq, List.append_assoc, List.append_assoc]
  exact cutAt_reread_headers h _

theorem delimiter_not_lineEnd {line rest : Bytes} : ¬ LineCut line (delimiter boundary ++ rest) := by
  rintro ⟨-, b, more, he, hb⟩
  obtain ⟨rfl, -⟩ := List.cons.inj he
  exact absurd hb (by decide)

theorem lineCut_field {text line next tail : Bytes} {parts : List Part}
    (h : Reads (delimiter boundary) text next parts tail) (hl : LineCut line text) :
    LineCut line (rendered (delimiter boundary) next parts) := by
  obtain ⟨after, hcut⟩ := h.cutAt
  obtain ⟨after', he⟩ := exists_rendered_eq (delimiter boundary) next parts
  have hne : next ≠ [] := by
    rintro rfl
    rw [hcut.eq] at hl
    exact delimiter_not_lineEnd hl
  rw [he]
  rw [hcut.eq] at hl
  exact hl.retail hne _

theorem lineCut_file {file : FileSection} {text line after : Bytes}
    (h : CutAt headerEnd text file.headers after) (hl : LineCut line text) (after' : Bytes) :
    LineCut line (file.render ++ after') := by
  have hsplit : text = (file.headers ++ crlf) ++ (crlf ++ after) := by
    rw [h.eq]
    simp [headerEnd]
  have hrender : file.render ++ after' =
      (file.headers ++ crlf) ++ (renderPayload file.payload ++ after') := by
    rw [FileSection.render, List.append_assoc]
  rw [hsplit] at hl
  rw [hrender]
  exact hl.retail (by simp [crlf]) _

/-- **What is written is read as the same parts.** The induction is on the reading of the body: a cut
that was made there is made again, since it does not depend on what follows it. -/
theorem Reads.reread {text before tail : Bytes} {parts : List Part}
    (h : Reads (delimiter boundary) text before parts tail) :
    Reads (delimiter boundary) (rendered (delimiter boundary) before parts) before
      (parts.map Part.reread) crlf := by
  have hD := delimiter_ne_nil boundary
  induction h with
  | close hcut => exact .close (hcut.retail hD _)
  | field hpart hf hr ih => exact .field (hpart.retail hD (lineCut_field hr hpart.line)) hf ih
  | @file text before line rest headers stretch after next tail parts hpart hf hfile hr ih =>
    obtain rfl := hfile.before_eq_nil hr
    obtain ⟨last, hhead, -, rfl⟩ := hfile
    obtain ⟨after', he⟩ := exists_rendered_eq (delimiter boundary) [] parts
    have hhead' : CutAt headerEnd rest (FileSection.mk headers (filePayload stretch)).headers
        (stretch ++ (delimiter boundary ++ last)) := hhead
    have hline := lineCut_file hhead' hpart.line (rendered (delimiter boundary) [] parts)
    have hcut' := fileCut_reread boundary hhead' after'
    rw [← List.nil_append (delimiter boundary ++ after'), ← he] at hcut'
    have hread := Reads.file (hpart.retail hD hline) hf hcut' ih
    rwa [filePayload_append_crlf] at hread

end Again

/-! ### Transcoding twice -/

/-- The parts that the scan of a body meets. -/
def partsMet (body : Bytes) (boundary : Text) : List Part :=
  match (scan .linear body boundary).result with
  | .ok (some document) => document.parts
  | _ => []

/-- The second part is the first one as it was written: the same header line, the same bytes after
it, and for a file its base64 text, from which it can be recovered, after a line with its length. -/
structure Part.Kept (first second : Part) : Prop where
  line : second.line = first.line
  text : second.text = first.text
  field : first.file = none → second.file = none
  file : ∀ file, first.file = some file → ∃ file₂, second.file = some file₂ ∧
    file₂.payload = Base64.encode file.payload ∧
    Base64.decode? file₂.payload = some file.payload ∧
    file₂.headers = file.headers ++ (crlf ++
      (ofAscii "Content-Length: " ++ ofAscii (toString file.payload.length))) ++
        (crlf ++ ofAscii "Content-Encoding: base64")

theorem Part.kept_reread (part : Part) : part.Kept part.reread := by
  refine ⟨rfl, rfl, fun h => by simp [reread, h], fun file h => ?_⟩
  refine ⟨file.reread, by simp [reread, h], rfl, Base64.decode?_encode _, ?_⟩
  simp [FileSection.reread, lengthLine, encodingLine, ofAscii]

theorem Part.reread_eq_self {part : Part} (h : part.file = none) : part.reread = part := by
  obtain ⟨line, file, text⟩ := part
  obtain rfl : file = none := h
  rfl

theorem partsMet_of_reads {body before tail : Bytes} {boundary : Text} {parts : List Part}
    (h : Reads (delimiter boundary) body before parts tail) : partsMet body boundary = parts := by
  obtain ⟨stop, he⟩ := h.scan_eq
  rw [partsMet, he]

/-- **The text of a transcoded body is a body with the same parts.** It can be transcoded again; its
parts are those of the first body, one for one and in order, and every file can be recovered; and if
there is no file, then transcoding it again changes nothing. -/
theorem transcodeBytes_twice {body out : Bytes} {boundary : Text}
    (h : transcodeBytes .linear body boundary = .ok out) :
    ∃ out₂, transcodeBytes .linear out boundary = .ok out₂ ∧
      List.Forall₂ Part.Kept (partsMet body boundary) (partsMet out boundary) ∧
      ((∀ part ∈ partsMet body boundary, part.file = none) → out₂ = out) := by
  rcases transcodeBytes_eq_ok_iff.mp h with ⟨rfl, rfl⟩ | ⟨before, parts, tail, hr, rfl⟩
  · exact ⟨[], h, .nil, fun _ => rfl⟩
  · have hr₂ := hr.reread
    refine ⟨rendered (delimiter boundary) before (parts.map Part.reread),
      transcodeBytes_eq_ok_iff.mpr (Or.inr ⟨_, _, _, hr₂, rfl⟩), ?_, fun hfields => ?_⟩
    · rw [partsMet_of_reads hr, partsMet_of_reads hr₂, List.forall₂_map_right_iff, List.forall₂_same]
      exact fun part _ => part.kept_reread
    · rw [partsMet_of_reads hr] at hfields
      have hsame : parts.map Part.reread = parts.map id :=
        List.map_congr_left fun part hpart => Part.reread_eq_self (hfields part hpart)
      rw [hsame, List.map_id]

/-- A field and a file of one byte. -/
def sampleBody : Bytes :=
  ofAscii "--X\r\nname=a\r\n\r\n1\r\n--X\r\nfilename=b\r\n\r\nA\r\n--X--"

/-- What it is transcoded into. -/
def sampleOut : Bytes :=
  ofAscii ("--X\r\nname=a\r\n\r\n1\r\n--X\r\nfilename=b\r\nContent-Length: 1\r\n" ++
    "Content-Encoding: base64\r\n\r\nQQ==\r\n--X--\r\n")

theorem transcodeBytes_sampleBody : transcodeBytes .linear sampleBody ['X'] = .ok sampleOut := by
  decide +kernel

theorem transcodeBytes_twice_sampleBody :
    partsMet sampleBody ['X'] = [⟨ofAscii "name=a", none, ofAscii "\r\n\r\n1\r\n"⟩,
      ⟨ofAscii "filename=b", some ⟨[], ofAscii "A"⟩, []⟩] ∧
    ∃ out₂, transcodeBytes .linear sampleOut ['X'] = .ok out₂ ∧
      List.Forall₂ Part.Kept (partsMet sampleBody ['X']) (partsMet sampleOut ['X']) ∧
      ((∀ part ∈ partsMet sampleBody ['X'], part.file = none) → out₂ = sampleOut) :=
  ⟨by decide +kernel, transcodeBytes_twice transcodeBytes_sampleBody⟩

end FormCapture.Multipart
