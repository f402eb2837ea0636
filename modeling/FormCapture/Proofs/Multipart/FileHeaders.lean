import FormCapture.Proofs.Multipart.Form
import FormCapture.Proofs.Multipart.Grammar

/-! # Where the headers of a file end

The headers of a file part run to the first blank line behind its first header line, and that is looked for
to the end of the body. A part has a blank line of its own if there is one before the next delimiter
(`OwnsBlankLine`). If it has none, and one comes in a later part, then the headers run over the delimiter in
between (`FileCut.infix_headers_iff`), and the part takes in the one behind it.

`Passes` says how a scan comes to a part, and `Passes.scanFrom_eq` that what comes of it is what comes of the
scan from there. `transcodeBytes_fileParts` says what becomes of the file parts of a body;
`transcodeBytes_swallowedPart` is a part that is taken in. -/

namespace FormCapture.Multipart

open FormCapture.Bytes

/-! ### Parts that a scan comes to -/

/-- A scan of the first text goes on with the second, which is what remains behind some of its parts. -/
inductive Passes (D : Bytes) : Bytes → Bytes → Prop
  | refl (text : Bytes) : Passes D text text
  | field {text before line rest last : Bytes} :
    PartCut D text before line rest → ¬ NamesFile line → Passes D rest last → Passes D text last
  | file {text before line rest headers stretch after last : Bytes} :
    PartCut D text before line rest → NamesFile line → FileCut D rest headers stretch after →
      Passes D after last → Passes D text last

/-- **A scan of the text comes to a file part** with this first header line, and `rest` begins with the end of
that line. -/
structure ReachesFile (D text line rest : Bytes) : Prop where
  part : ∃ last before, Passes D text last ∧ PartCut D last before line rest
  file : NamesFile line

/-- A blank line comes before the next delimiter. -/
def OwnsBlankLine (D rest : Bytes) : Prop :=
  ∃ before after, CutAt D rest before after ∧ headerEnd <:+: before

section Scans

variable {body D text last : Bytes}

theorem Passes.ne_nil (hD : D ≠ []) (h : Passes D text last) (hlast : last ≠ []) : text ≠ [] := by
  cases h with
  | refl => exact hlast
  | field hpart _ _ | file hpart _ _ _ => exact hpart.ne_nil hD

/-- What a scan comes to later on it comes to. -/
theorem ReachesFile.earlier {line rest : Bytes} (h : ReachesFile D text line rest) {whole : Bytes}
    (hgo : ∀ last, Passes D text last → Passes D whole last) : ReachesFile D whole line rest := by
  obtain ⟨⟨last, before, hpasses, hpart⟩, hfile⟩ := h
  exact ⟨⟨last, before, hgo last hpasses, hpart⟩, hfile⟩

/-- **Each file that is read** is one that a scan comes to. -/
theorem Reads.exists_reachesFile {before tail : Bytes} {parts : List Part} (h : Reads D text before parts tail)
    {part : Part} (hmem : part ∈ parts) {file : FileSection} (hfile : part.file = some file) :
    ∃ rest stretch after, ReachesFile D text part.line rest ∧ FileCut D rest file.headers stretch after := by
  induction h with
  | close => cases hmem
  | field hpart hf _ ih =>
    rcases List.mem_cons.mp hmem with rfl | hlater
    · cases hfile
    · obtain ⟨rest, stretch, after, hreaches, hcut⟩ := ih hlater
      exact ⟨rest, stretch, after, hreaches.earlier fun _ => .field hpart hf, hcut⟩
  | @file text before line rest headers stretch after next tail parts hpart hf hcut _ ih =>
    rcases List.mem_cons.mp hmem with rfl | hlater
    · cases hfile
      exact ⟨rest, stretch, after, ⟨⟨text, before, .refl text, hpart⟩, hf⟩, hcut⟩
    · obtain ⟨rest, stretch, after, hreaches, hlast⟩ := ih hlater
      exact ⟨rest, stretch, after, hreaches.earlier fun _ => .file hpart hf hcut, hlast⟩

/-- **What comes of the scan of a text** comes of the scan of what it goes on with. -/
theorem Passes.scanFrom_eq (hD : D ≠ []) (h : Passes D text last) : ∀ c : Cursor body, c.rest = text →
    ∃ (d : Cursor body) (made : Bytes × List Part × Nat → Bytes × List Part × Nat),
      d.rest = last ∧ d.offset + last.length = c.offset + text.length ∧
        (scanFrom .linear D c).result = (scanFrom .linear D d).result.map made := by
  have hmap : ∀ {α β γ : Type} (f : α → β) (g : β → γ) (x : Except Fault α),
      (x.map f).map g = x.map (g ∘ f) := by
    intro α β γ f g x
    cases x <;> rfl
  induction h with
  | refl text =>
    intro c hc
    refine ⟨c, id, hc, rfl, ?_⟩
    cases (scanFrom .linear D c).result <;> rfl
  | @field text before line rest last hpart hf _ ih =>
    rintro c rfl
    obtain ⟨d, made, hd, hoffset, heq⟩ := ih (c.advance (lineLength D before line)) hpart.rest_advance
    refine ⟨d, _, hd, ?_, by rw [scanFrom_field hD hpart hf, heq, hmap]⟩
    rw [hoffset, hpart.length_eq, Cursor.offset_advance, Nat.add_assoc]
  | @file text before line rest headers stretch after last hpart hf hcut _ ih =>
    rintro c rfl
    obtain ⟨d, made, hd, hoffset, heq⟩ := ih (c.advance (fileLength D before line headers stretch))
      (hpart.rest_advance_file hcut)
    refine ⟨d, _, hd, ?_, by rw [scanFrom_file hD hpart hf hcut, heq, hmap]⟩
    rw [hoffset, hpart.length_eq, hcut.length_eq, Cursor.offset_advance, fileLength]
    omega

/-- There is something to derive just if a scan finds it. -/
theorem exists_transcodes_iff (hD : D ≠ []) (c : Cursor body) :
    (∃ out, Transcodes D c.rest out) ↔ ∃ found, (scanFrom .linear D c).result = .ok found := by
  constructor
  · rintro ⟨out, h⟩
    obtain ⟨before, parts, tail, hreads, -⟩ := transcodes_iff.mp h
    obtain ⟨stop, hfound, -⟩ := hreads.scanFrom_eq hD c rfl
    exact ⟨_, hfound⟩
  · rintro ⟨⟨before, parts, stop⟩, hfound⟩
    obtain ⟨tail, hreads, -⟩ := (scanFrom_eq_ok_iff hD).mp hfound
    exact ⟨_, hreads.transcodes⟩

/-- **A body is accepted just if a scan succeeds from a place that it comes to**, and is refused with the
fault of that scan otherwise. -/
theorem Passes.exists_cursor {boundary : Text} (h : Passes (delimiter boundary) body last)
    (hlast : last ≠ []) : ∃ d : Cursor body, d.rest = last ∧ d.offset + last.length = body.length ∧
      (∀ fault, (scanFrom .linear (delimiter boundary) d).result = .error fault →
        transcodeBytes .linear body boundary = .error (.malformedMultipart fault.message)) ∧
      ((∃ out, transcodeBytes .linear body boundary = .ok out) ↔
        ∃ found, (scanFrom .linear (delimiter boundary) d).result = .ok found) := by
  have hD := delimiter_ne_nil boundary
  obtain ⟨d, made, hd, hoffset, heq⟩ := h.scanFrom_eq hD (Cursor.first body) rfl
  rw [Cursor.offset_first, Nat.zero_add] at hoffset
  have hscan := result_scan boundary (h.ne_nil hD hlast)
  have herror : ∀ fault, (scanFrom .linear (delimiter boundary) d).result = .error fault →
      transcodeBytes .linear body boundary = .error (.malformedMultipart fault.message) := by
    intro fault hfault
    rw [heq, hfault] at hscan
    rw [transcodeBytes, hscan]
    rfl
  refine ⟨d, hd, hoffset, herror, ?_⟩
  cases hfound : (scanFrom .linear (delimiter boundary) d).result with
  | error fault => simp [herror fault hfound]
  | ok found =>
    rw [heq, hfound] at hscan
    refine iff_of_true ?_ ⟨found, rfl⟩
    rw [transcodeBytes, hscan]
    exact ⟨_, rfl⟩

end Scans

/-! ### Delimiters among the headers -/

section Headers

variable {D rest headers stretch after : Bytes}

/-- **The headers of a file hold a delimiter just if the part has no blank line of its own.** A delimiter
holds no line end, so it does not reach over the blank line behind the headers. -/
theorem FileCut.infix_headers_iff (hD : D ≠ []) (hcr : cr ∉ D) (hlf : lf ∉ D)
    (h : FileCut D rest headers stretch after) : D <:+: headers ↔ ¬ OwnsBlankLine D rest := by
  obtain ⟨last, hhead, hpay, rfl⟩ := h
  constructor
  · rintro hin ⟨before, behind, hcut, hblank⟩
    have hbefore : before <+: rest := ⟨_, hcut.eq.symm⟩
    have hheaders : headers <+: rest := ⟨_, hhead.eq.symm⟩
    rcases List.prefix_or_prefix_of_prefix hbefore hheaders with hshort | hlong
    · exact hhead.not_infix headerEnd_ne_nil (hblank.trans hshort.isInfix)
    · exact hcut.not_infix hD (hin.trans hlong.isInfix)
  · intro hnone
    by_contra hin
    refine hnone ⟨headers ++ (headerEnd ++ stretch), last, ?_, ⟨headers, stretch, by simp⟩⟩
    have hskip : ∀ {c b}, c ∉ D → D <:+: c :: b → D <:+: b := by
      intro c b hc hinfix
      exact ((infix_append_cons_iff (a := []) hc).mp hinfix).resolve_left
        fun hnil => hD (List.infix_nil.mp hnil)
    have hfirst : ¬ D <:+: headers ++ (headerEnd ++ stretch) ++ D.dropLast := by
      intro hinfix
      have hwhole : headers ++ (headerEnd ++ stretch) ++ D.dropLast =
          headers ++ cr :: lf :: cr :: lf :: (stretch ++ D.dropLast) := by
        simp [headerEnd, crlf]
      rw [hwhole] at hinfix
      have hpast := ((infix_append_cons_iff hcr).mp hinfix).resolve_left hin
      exact (cutAt_append_iff hD).mp hpay (hskip hlf (hskip hcr (hskip hlf hpast)))
    have hcut : CutAt D (headers ++ (headerEnd ++ stretch) ++ (D ++ last))
        (headers ++ (headerEnd ++ stretch)) last := (cutAt_append_iff hD).mpr hfirst
    rwa [List.append_assoc, List.append_assoc, ← hhead.eq] at hcut

end Headers

/-! ### Bodies with file parts -/

/-- **What decides on a body with a file part**, where `rest` is what stands behind the first header line of
the part. It is refused if there is no blank line in it, or no delimiter behind the first one. Otherwise it is
only what remains behind the payload that decides. -/
structure FileDecides (body : Bytes) (boundary : Text) (rest : Bytes) : Prop where
  openHeaders : ¬ headerEnd <:+: rest → transcodeBytes .linear body boundary =
    .error (.malformedMultipart (Fault.openFileHeaders (body.length - rest.length)).message)
  openPayload : ∀ headers payload, CutAt headerEnd rest headers payload →
    ¬ delimiter boundary <:+: payload → transcodeBytes .linear body boundary =
      .error (.malformedMultipart (Fault.openPayload (body.length - payload.length)).message)
  cut : ∀ headers stretch after, FileCut (delimiter boundary) rest headers stretch after →
    ((∃ out, transcodeBytes .linear body boundary = .ok out) ↔
      ∃ out, Transcodes (delimiter boundary) after out)

section Bodies

variable {body line rest : Bytes} {boundary : Text}

theorem ReachesFile.decides (h : ReachesFile (delimiter boundary) body line rest) :
    FileDecides body boundary rest := by
  obtain ⟨⟨last, before, hpasses, hpart⟩, hfile⟩ := h
  have hD := delimiter_ne_nil boundary
  obtain ⟨d, rfl, hoffset, herror, hok⟩ := hpasses.exists_cursor (hpart.ne_nil hD)
  have hlength := hpart.length_eq
  refine ⟨fun hopen => ?_, fun headers payload hcut hopen => ?_, fun headers stretch after hcut => ?_⟩
  · have hplace : d.offset + lineLength (delimiter boundary) before line =
        body.length - rest.length := by
      omega
    exact herror _ (hplace ▸ scanFrom_openHeaders hD hpart hfile hopen)
  · have hplace : d.offset + lineLength (delimiter boundary) before line +
        (headers ++ headerEnd).length = body.length - payload.length := by
      have hrest := congrArg List.length hcut.eq
      simp only [List.length_append] at hrest ⊢
      omega
    exact herror _ (hplace ▸ scanFrom_openPayload hD hpart hfile hcut hopen)
  · rw [hok, scanFrom_file hD hpart hfile hcut, ← hpart.rest_advance_file hcut,
      exists_transcodes_iff hD]
    cases (scanFrom .linear (delimiter boundary)
      (d.advance (fileLength (delimiter boundary) before line headers stretch))).result with
    | error fault => simp [Except.map]
    | ok found => simp [Except.map]

/-- **File parts**, if the boundary fits on a line. Each that the scan of a body comes to decides on it, and
each file of a body that is accepted is one of them. Its headers run to the first blank line: they hold the
delimiter just if that is not before the next one, and the part takes in what is in between. -/
theorem transcodeBytes_fileParts (hone : boundary.OnOneLine) :
    (∀ line rest, ReachesFile (delimiter boundary) body line rest → FileDecides body boundary rest ∧
      ∀ headers stretch after, FileCut (delimiter boundary) rest headers stretch after →
        (delimiter boundary <:+: headers ↔ ¬ OwnsBlankLine (delimiter boundary) rest)) ∧
    (∀ document part file, (scan .linear body boundary).result = .ok (some document) →
      part ∈ document.parts → part.file = some file →
      ∃ rest stretch after, ReachesFile (delimiter boundary) body part.line rest ∧
        FileCut (delimiter boundary) rest file.headers stretch after ∧
        (delimiter boundary <:+: file.headers ↔ ¬ OwnsBlankLine (delimiter boundary) rest)) := by
  have hholds : ∀ rest headers stretch after, FileCut (delimiter boundary) rest headers stretch after →
      (delimiter boundary <:+: headers ↔ ¬ OwnsBlankLine (delimiter boundary) rest) :=
    fun _ _ _ _ hcut => hcut.infix_headers_iff (delimiter_ne_nil boundary)
      (cr_not_mem_delimiter hone.1) (lf_not_mem_delimiter hone.2)
  constructor
  · intro line rest hreaches
    exact ⟨hreaches.decides, hholds rest⟩
  · intro document part file hscan hpart hfile
    obtain ⟨tail, hreads, -⟩ := scan_eq_ok_iff.mp hscan
    obtain ⟨rest, stretch, after, hreaches, hcut⟩ := hreads.exists_reachesFile hpart hfile
    exact ⟨rest, stretch, after, hreaches, hcut, hholds _ _ _ _ hcut⟩

end Bodies

/-- A form with a file part that has no blank line, and a field behind it. -/
def swallowingBody : Bytes :=
  ofAscii "--XYZ\r\nContent-Disposition: form-data; name=\"f\"; filename=\"a\"\r\n" ++
    ofAscii "--XYZ\r\nContent-Disposition: form-data; name=\"t\"\r\n\r\nvalue\r\n--XYZ--\r\n"

/-- The first header line of the file part. -/
def swallowingLine : Bytes := ofAscii "Content-Disposition: form-data; name=\"f\"; filename=\"a\""

/-- What becomes the other headers of the file. -/
def swallowedHeaders : Bytes := ofAscii "\r\n--XYZ\r\nContent-Disposition: form-data; name=\"t\""

/-- What follows the first header line. -/
def swallowedRest : Bytes := swallowedHeaders ++ ofAscii "\r\n\r\nvalue\r\n--XYZ--\r\n"

theorem reachesFile_swallowingBody :
    ReachesFile (delimiter "XYZ".toList) swallowingBody swallowingLine swallowedRest := by
  have hbody : swallowingBody = delimiter "XYZ".toList ++ (crlf ++ (swallowingLine ++ swallowedRest)) := by
    decide +kernel
  have hline : LineCut swallowingLine swallowedRest :=
    ⟨by decide +kernel, cr, swallowedRest.tail, by decide +kernel, by decide⟩
  have hpart : PartCut (delimiter "XYZ".toList) swallowingBody [] swallowingLine swallowedRest :=
    ⟨⟨crlf, rfl, by decide, hbody ▸ cutAt_nil _ _⟩, hline⟩
  exact ⟨⟨swallowingBody, [], .refl _, hpart⟩, by decide +kernel⟩

theorem fileCut_swallowedRest : FileCut (delimiter "XYZ".toList) swallowedRest swallowedHeaders
    (ofAscii "value\r\n") (ofAscii "--XYZ--\r\n") :=
  ⟨ofAscii "--\r\n", ⟨by decide +kernel, by decide +kernel⟩, ⟨by decide +kernel, by decide +kernel⟩,
    by decide +kernel⟩

theorem transcodeBytes_fileParts_swallowingBody :
    Text.OnOneLine "XYZ".toList ∧
      ReachesFile (delimiter "XYZ".toList) swallowingBody swallowingLine swallowedRest ∧
      FileCut (delimiter "XYZ".toList) swallowedRest swallowedHeaders (ofAscii "value\r\n")
        (ofAscii "--XYZ--\r\n") ∧
      FileDecides swallowingBody "XYZ".toList swallowedRest ∧
      (delimiter "XYZ".toList <:+: swallowedHeaders ↔
        ¬ OwnsBlankLine (delimiter "XYZ".toList) swallowedRest) := by
  have hone : Text.OnOneLine "XYZ".toList := by decide
  obtain ⟨hdecides, hholds⟩ := (transcodeBytes_fileParts hone).1 _ _ reachesFile_swallowingBody
  exact ⟨hone, reachesFile_swallowingBody, fileCut_swallowedRest, hdecides,
    hholds _ _ _ fileCut_swallowedRest⟩

/-- **A part that is taken in**: the file part has no blank line before the next delimiter, but the field
behind it has one. The delimiter and the header line of the field become headers of the file, and the value
of the field its payload. -/
theorem transcodeBytes_swallowedPart :
    Text.OnOneLine "XYZ".toList ∧
      ReachesFile (delimiter "XYZ".toList) swallowingBody swallowingLine swallowedRest ∧
      ¬ OwnsBlankLine (delimiter "XYZ".toList) swallowedRest ∧
      transcodeBytes .linear swallowingBody "XYZ".toList =
        .ok (ofAscii "--XYZ\r\nContent-Disposition: form-data; name=\"f\"; filename=\"a\"\r\n" ++
          ofAscii "--XYZ\r\nContent-Disposition: form-data; name=\"t\"\r\nContent-Length: 5\r\n" ++
          ofAscii "Content-Encoding: base64\r\n\r\ndmFsdWU=\r\n--XYZ--\r\n") := by
  have hone : Text.OnOneLine "XYZ".toList := by decide
  have hin : delimiter "XYZ".toList <:+: swallowedHeaders :=
    ⟨crlf, ofAscii "\r\nContent-Disposition: form-data; name=\"t\"", by decide +kernel⟩
  have hnone := (fileCut_swallowedRest.infix_headers_iff (delimiter_ne_nil _)
    (cr_not_mem_delimiter hone.1) (lf_not_mem_delimiter hone.2)).mp hin
  exact ⟨hone, reachesFile_swallowingBody, hnone, by decide +kernel⟩

end FormCapture.Multipart
