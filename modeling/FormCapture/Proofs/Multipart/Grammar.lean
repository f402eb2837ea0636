import FormCapture.Proofs.Multipart.Checked

/-! # The grammar of multipart bodies

`Transcodes` says by rules, without a scan, which texts are multipart bodies and what each is
transcoded into. `transcodes_iff` takes a derivation apart into a reading and the reading written out,
and `transcodeBytes_iff_transcodes` says that exactly the bodies with a derivation are accepted. -/

namespace FormCapture.Multipart

open FormCapture.Bytes

/-- **The rules.** A text begins with what stands before its first delimiter. If two dashes follow,
the rest is left out. Otherwise a part follows: a field is copied, and so is what comes after its
header line as far as it is not taken up by the next rule; a file is replaced by its base64 text, with the
length of the payload before it. -/
inductive Transcodes (D : Bytes) : Bytes → Bytes → Prop
  | close {text before tail : Bytes} : CutAt D text before (dashes ++ tail) →
    Transcodes D text (before ++ (D ++ (dashes ++ crlf)))
  | field {text before line rest out : Bytes} : PartCut D text before line rest →
    ¬ NamesFile line → Transcodes D rest out →
      Transcodes D text (before ++ (D ++ (crlf ++ (line ++ out))))
  | file {text before line rest headers stretch after out : Bytes} :
    PartCut D text before line rest → NamesFile line → FileCut D rest headers stretch after →
      Transcodes D after out →
        Transcodes D text (before ++ (D ++ (crlf ++ (line ++ (headers ++ (crlf ++
          (ofAscii "Content-Length: " ++ (ofAscii (toString (filePayload stretch).length) ++ (crlf ++
            (ofAscii "Content-Encoding: base64" ++ (crlf ++ (crlf ++
              (Base64.encode (filePayload stretch) ++ (crlf ++ out))))))))))))))

section Derivations

variable {D text out : Bytes}

theorem renderPayload_append (payload out : Bytes) :
    renderPayload payload ++ out =
      ofAscii "Content-Length: " ++ (ofAscii (toString payload.length) ++ (crlf ++
        (ofAscii "Content-Encoding: base64" ++ (crlf ++ (crlf ++
          (Base64.encode payload ++ (crlf ++ out))))))) := by
  simp [renderPayload, headerEnd, ofAscii]

theorem Transcodes.exists_reads (h : Transcodes D text out) :
    ∃ before parts tail, Reads D text before parts tail ∧ out = rendered D before parts := by
  induction h with
  | close h => exact ⟨_, _, _, .close h, rfl⟩
  | field h hf _ ih =>
    obtain ⟨next, parts, tail, hr, rfl⟩ := ih
    exact ⟨_, _, _, .field h hf hr, by simp [rendered]⟩
  | file h hf hc _ ih =>
    obtain ⟨next, parts, tail, hr, rfl⟩ := ih
    exact ⟨_, _, _, .file h hf hc hr, by
      simp only [rendered, FileSection.render, Option.elim_some, List.append_assoc, renderPayload_append]⟩

theorem Reads.transcodes {before tail : Bytes} {parts : List Part}
    (h : Reads D text before parts tail) : Transcodes D text (rendered D before parts) := by
  induction h with
  | close h => exact .close h
  | field h hf _ ih =>
    have ht := Transcodes.field h hf ih
    simpa [rendered] using ht
  | file h hf hc _ ih =>
    have ht := Transcodes.file h hf hc ih
    rw [← renderPayload_append] at ht
    simpa [rendered, FileSection.render] using ht

/-- A derivation is a reading, written out. -/
theorem transcodes_iff : Transcodes D text out ↔
    ∃ before parts tail, Reads D text before parts tail ∧ out = rendered D before parts := by
  constructor
  · exact Transcodes.exists_reads
  · rintro ⟨before, parts, tail, hr, rfl⟩
    exact hr.transcodes

/-- Whatever is derived ends with the closing delimiter and a line end. -/
theorem Transcodes.closing_suffix (h : Transcodes D text out) : D ++ (dashes ++ crlf) <:+ out := by
  induction h with
  | close => exact List.suffix_append _ _
  | @field text before line rest out _ _ _ ih =>
    refine ih.trans ⟨before ++ (D ++ (crlf ++ line)), ?_⟩
    simp only [List.append_assoc]
  | @file text before line rest headers stretch after out _ _ _ _ ih =>
    refine ih.trans ⟨before ++ (D ++ (crlf ++ (line ++ (headers ++ (crlf ++
      (ofAscii "Content-Length: " ++ (ofAscii (toString (filePayload stretch).length) ++ (crlf ++
        (ofAscii "Content-Encoding: base64" ++ (crlf ++ (crlf ++
          (Base64.encode (filePayload stretch) ++ crlf)))))))))))), ?_⟩
    simp only [List.append_assoc]

end Derivations

/-- **Exactly the bodies with a derivation are accepted**, and a body is transcoded into what is
derived from it. The pass with checked offsets never leaves the body, the one error is that of a
malformed body, and the text of a body that is not empty ends with the closing delimiter. -/
theorem transcodeBytes_iff_transcodes (body : Bytes) (boundary : Text) :
    ((∃ out, Checked.pass (delimiter boundary) body = .ok out ∧
        transcodeBytes .linear body boundary = .ok out) ∨
      ∃ fault : Fault, Checked.pass (delimiter boundary) body = .error (.fault fault) ∧
        transcodeBytes .linear body boundary = .error (.malformedMultipart fault.message)) ∧
    (∀ out, transcodeBytes .linear body boundary = .ok out ↔
      body = [] ∧ out = [] ∨ Transcodes (delimiter boundary) body out) ∧
    (∀ out, body ≠ [] → transcodeBytes .linear body boundary = .ok out →
      delimiter boundary ++ (dashes ++ crlf) <:+ out) := by
  have hiff : ∀ out, transcodeBytes .linear body boundary = .ok out ↔
      body = [] ∧ out = [] ∨ Transcodes (delimiter boundary) body out := by
    intro out
    rw [transcodeBytes_eq_ok_iff, transcodes_iff]
  refine ⟨Checked.pass_eq body boundary, hiff, fun out hb ht => ?_⟩
  rcases (hiff out).mp ht with ⟨he, -⟩ | hder
  · exact absurd he hb
  · exact hder.closing_suffix

-- two bytes before the delimiter are always taken for a line end, so a shorter payload is lost
example : transcodeBytes .linear (ofAscii "--X\r\nfilename=\r\n\r\nA--X--") ['X'] =
    .ok (ofAscii ("--X\r\nfilename=\r\nContent-Length: 0\r\nContent-Encoding: base64" ++
      "\r\n\r\n\r\n--X--\r\n")) := by decide +kernel

end FormCapture.Multipart
