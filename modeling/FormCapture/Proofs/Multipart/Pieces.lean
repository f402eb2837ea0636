import FormCapture.Proofs.Multipart.Reread
import FormCapture.Proofs.Text.Utf8

/-! # The pieces of a transcoded body

What a body is transcoded into is made of delimiters, of ASCII bytes that are inserted, and of regions that are
copied from the body as they are (`Document.pieces`). Any bytes may stand in a copied region, and it can break
off within a character. But it is always followed by a delimiter or by inserted bytes (`Seamed`), and so by an
ASCII byte, which ends what stands before it: the text of the whole is that of its pieces
(`Seamed.decodeLossy_eq`), and the whole is UTF-8 just if each region is (`Seamed.isText_iff`).

`transcode_pieces` says what follows for the text of a body. -/

namespace FormCapture.Multipart

open FormCapture.Bytes

/-! ### Pieces -/

inductive Piece
  /-- The two dashes and the boundary. -/
  | delimiter (boundary : Text)
  /-- Bytes that are put in. -/
  | inserted (bytes : Bytes)
  /-- A stretch of the body. -/
  | copied (region : Bytes)

namespace Piece

def bytes : Piece → Bytes
  | delimiter boundary => Multipart.delimiter boundary
  | inserted bytes => bytes
  | copied region => region

/-- The piece as text: what is copied is decoded on its own, and nothing else is changed. -/
def text : Piece → Text
  | delimiter boundary => '-' :: '-' :: boundary
  | inserted bytes => Utf8.ofLow bytes
  | copied region => Utf8.decodeLossy region

/-- A delimiter, or ASCII bytes that are put in. -/
def Written : Piece → Prop
  | delimiter _ => True
  | inserted bytes => bytes ≠ [] ∧ ∀ b ∈ bytes, b.toNat < 128
  | copied _ => False

variable {piece : Piece}

theorem Written.encode_text (h : piece.Written) : Utf8.encode piece.text = piece.bytes := by
  cases piece with
  | delimiter boundary => rfl
  | inserted bytes => exact Utf8.encode_ofLow h.2
  | copied region => exact h.elim

theorem Written.exists_low (h : piece.Written) :
    ∃ b more, piece.bytes = b :: more ∧ b.toNat < 128 := by
  cases piece with
  | delimiter boundary => exact ⟨45, _, rfl, by decide⟩
  | inserted bytes =>
    obtain ⟨b, more, rfl⟩ := List.exists_cons_of_ne_nil h.1
    exact ⟨b, more, rfl, h.2 b List.mem_cons_self⟩
  | copied region => exact h.elim

end Piece

/-- **How regions are set off**: each is followed by a piece that is written, so that no other region follows it
and it is as long as can be. -/
inductive Seamed : List Piece → Prop
  | nil : Seamed []
  | written {piece : Piece} {pieces : List Piece} : piece.Written → Seamed pieces →
    Seamed (piece :: pieces)
  | copied (region : Bytes) {piece : Piece} {pieces : List Piece} : piece.Written →
    Seamed (piece :: pieces) → Seamed (.copied region :: piece :: pieces)

/-- The regions that are copied. -/
def copiedRegions (pieces : List Piece) : List Bytes :=
  pieces.filterMap fun
    | .copied region => some region
    | _ => none

theorem Piece.Written.copiedRegions_cons {piece : Piece} (h : piece.Written) (pieces : List Piece) :
    copiedRegions (piece :: pieces) = copiedRegions pieces := by
  cases piece with
  | delimiter _ | inserted _ => rfl
  | copied region => exact h.elim

section Seams

variable {pieces : List Piece}

/-- **The text of the whole is that of its pieces.** -/
theorem Seamed.decodeLossy_eq (h : Seamed pieces) :
    Utf8.decodeLossy (pieces.flatMap Piece.bytes) = pieces.flatMap Piece.text := by
  induction h with
  | nil => exact Utf8.decodeLossy_nil
  | written hpiece _ ih =>
    rw [List.flatMap_cons, List.flatMap_cons, ← ih, ← hpiece.encode_text,
      Utf8.decodeLossy_encode_append]
  | @copied region piece pieces hpiece _ ih =>
    obtain ⟨b, more, hmore, hb⟩ := hpiece.exists_low
    have hseam : (piece :: pieces).flatMap Piece.bytes = b :: (more ++ pieces.flatMap Piece.bytes) := by
      rw [List.flatMap_cons, hmore, List.cons_append]
    rw [List.flatMap_cons, List.flatMap_cons (f := Piece.text), ← ih, Utf8.decodeLossy_append hb hseam]
    rfl

/-- **The whole is UTF-8 just if each region is.** -/
theorem Seamed.isText_iff (h : Seamed pieces) :
    Utf8.IsText (pieces.flatMap Piece.bytes) ↔ ∀ region ∈ copiedRegions pieces, Utf8.IsText region := by
  induction h with
  | nil => exact iff_of_true (Utf8.isText_encode []) fun _ hmem => absurd hmem List.not_mem_nil
  | written hpiece _ ih =>
    rw [hpiece.copiedRegions_cons, ← ih, List.flatMap_cons, ← hpiece.encode_text]
    exact ⟨Utf8.IsText.of_encode_append, (Utf8.isText_encode _).append⟩
  | @copied region piece pieces hpiece _ ih =>
    have hregions : copiedRegions (.copied region :: piece :: pieces) =
        region :: copiedRegions (piece :: pieces) := rfl
    obtain ⟨b, more, hmore, hb⟩ := hpiece.exists_low
    have hseam : (piece :: pieces).flatMap Piece.bytes = b :: (more ++ pieces.flatMap Piece.bytes) := by
      rw [List.flatMap_cons, hmore, List.cons_append]
    rw [hregions, List.forall_mem_cons, ← ih, List.flatMap_cons]
    constructor
    · intro htext
      rw [hseam] at htext ⊢
      obtain ⟨hregion, hrest⟩ := htext.of_append_low hb
      have hlow : Utf8.IsText [b] := Utf8.isText_of_low (List.forall_mem_singleton.mpr hb)
      exact ⟨hregion, hlow.append hrest⟩
    · rintro ⟨hregion, hrest⟩
      exact hregion.append hrest

end Seams

/-! ### What is inserted -/

theorem low_of_all {bytes : Bytes} (h : (bytes.all fun b => b.toNat < 128) = true) :
    ∀ b ∈ bytes, b.toNat < 128 := fun b hb => of_decide_eq_true (List.all_eq_true.mp h b hb)

theorem low_crlf : ∀ b ∈ crlf, b.toNat < 128 := low_of_all (by decide)

theorem low_of_mem_decimal {n : Nat} : ∀ b ∈ ofAscii (toString n), b.toNat < 128 := fun _ hb =>
  Nat.lt_of_le_of_lt (toNat_of_mem_decimal hb).2 (by decide)

/-- The header lines and the base64 text for a payload are ASCII. -/
theorem low_of_mem_renderPayload {payload : Bytes} : ∀ b ∈ renderPayload payload, b.toNat < 128 := by
  have hname : ∀ b ∈ ofAscii "Content-Length: ", b.toNat < 128 := low_of_all (by decide)
  have hencoding : ∀ b ∈ ofAscii "Content-Encoding: base64", b.toNat < 128 := low_of_all (by decide)
  have hend : ∀ b ∈ headerEnd, b.toNat < 128 := List.forall_mem_append.mpr ⟨low_crlf, low_crlf⟩
  have hbase64 : ∀ b ∈ Base64.encode payload, b.toNat < 128 := fun _ => Base64.toNat_lt_of_mem_encode
  rw [renderPayload, ← lengthLine, lengthLine_eq]
  simp only [List.forall_mem_append]
  exact ⟨⟨⟨⟨⟨⟨hname, low_of_mem_decimal⟩, low_crlf⟩, hencoding⟩, hend⟩, hbase64⟩, low_crlf⟩

/-- The two header lines and the base64 text for a payload. -/
def payloadText (payload : Bytes) : Text :=
  ("Content-Length: " ++ toString payload.length ++ "\r\nContent-Encoding: base64\r\n\r\n").toList ++
    (Utf8.ofLow (Base64.encode payload) ++ ['\r', '\n'])

theorem ofLow_ofAscii {t : String} (h : ∀ c ∈ t.toList, c.toNat < 128) :
    Utf8.ofLow (ofAscii t) = t.toList := by
  have hchar : ∀ c ∈ t.toList, Char.ofNat c.toNat.toUInt8.toNat = c := by
    intro c hc
    have hlow := h c hc
    rw [Nat.toUInt8_eq, UInt8.toNat_ofNat', Nat.mod_eq_of_lt (by omega), Char.ofNat_toNat]
  rw [Utf8.ofLow, ofAscii, List.map_map]
  exact (List.map_congr_left hchar).trans (List.map_id _)

theorem ofLow_renderPayload (payload : Bytes) :
    Utf8.ofLow (renderPayload payload) = payloadText payload := by
  have happ : ∀ xs ys, Utf8.ofLow (xs ++ ys) = Utf8.ofLow xs ++ Utf8.ofLow ys :=
    fun xs ys => List.map_append
  have hname : Utf8.ofLow (ofAscii "Content-Length: ") = "Content-Length: ".toList := by decide
  have hdigits : Utf8.ofLow (ofAscii (toString payload.length)) = (toString payload.length).toList :=
    ofLow_ofAscii fun _ hc => Nat.lt_of_le_of_lt (toNat_of_mem_toString hc).2 (by decide)
  have hencoding : Utf8.ofLow (ofAscii "Content-Encoding: base64") = "Content-Encoding: base64".toList := by
    decide
  have hend : Utf8.ofLow headerEnd = ['\r', '\n', '\r', '\n'] := by decide
  have hcrlf : Utf8.ofLow crlf = ['\r', '\n'] := by decide
  rw [renderPayload, payloadText, ← lengthLine, lengthLine_eq]
  simp only [happ, hname, hdigits, hencoding, hend, hcrlf, String.toList_append, List.append_assoc]
  rfl

/-! ### Documents in pieces -/

/-- The stretch of a part that is copied: its header lines, and the rest of it if it is no file. -/
def Part.region (part : Part) : Bytes :=
  part.line ++ part.file.elim part.text FileSection.headers

/-- The part after its delimiter. -/
def Part.pieces (boundary : Text) (part : Part) : List Piece :=
  .delimiter boundary :: .inserted crlf :: .copied part.region ::
    part.file.elim [] fun file => [.inserted (crlf ++ renderPayload file.payload)]

/-- The parts from a delimiter on, and the closing delimiter. -/
def piecesFrom (boundary : Text) (parts : List Part) : List Piece :=
  parts.flatMap (Part.pieces boundary) ++ [.delimiter boundary, .inserted (dashes ++ crlf)]

def Document.pieces (boundary : Text) (document : Document) : List Piece :=
  .copied document.preamble :: piecesFrom boundary document.parts

/-- The pieces of what a body is transcoded into; there are none if the body is empty. -/
def piecesOf (body : Bytes) (boundary : Text) : List Piece :=
  match (scan .linear body boundary).result with
  | .ok (some document) => document.pieces boundary
  | _ => []

section Documents

variable {body D text before tail : Bytes} {parts : List Part} {boundary : Text}

theorem written_crlf : (Piece.inserted crlf).Written := ⟨by decide, low_crlf⟩

theorem written_payload (payload : Bytes) : (Piece.inserted (crlf ++ renderPayload payload)).Written :=
  ⟨by simp [crlf], List.forall_mem_append.mpr ⟨low_crlf, low_of_mem_renderPayload⟩⟩

theorem exists_piecesFrom_eq (boundary : Text) (parts : List Part) :
    ∃ more, piecesFrom boundary parts = .delimiter boundary :: more := by
  cases parts with
  | nil => exact ⟨_, rfl⟩
  | cons part parts => exact ⟨_, rfl⟩

theorem piecesFrom_cons (boundary : Text) (part : Part) (parts : List Part) :
    piecesFrom boundary (part :: parts) = part.pieces boundary ++ piecesFrom boundary parts := by
  simp [piecesFrom]

theorem seamed_piecesFrom (boundary : Text) (parts : List Part) : Seamed (piecesFrom boundary parts) := by
  induction parts with
  | nil => exact .written trivial (.written ⟨by decide, low_of_all (by decide)⟩ .nil)
  | cons part parts ih =>
    rw [piecesFrom_cons, Part.pieces]
    refine .written trivial (.written written_crlf ?_)
    cases part.file with
    | none =>
      obtain ⟨more, hmore⟩ := exists_piecesFrom_eq boundary parts
      change Seamed (.copied part.region :: piecesFrom boundary parts)
      rw [hmore] at ih ⊢
      exact .copied part.region trivial ih
    | some file =>
      exact .copied part.region (written_payload _) (.written (written_payload _) ih)

theorem seamed_pieces (boundary : Text) (document : Document) : Seamed (document.pieces boundary) := by
  have hparts := seamed_piecesFrom boundary document.parts
  obtain ⟨more, hmore⟩ := exists_piecesFrom_eq boundary document.parts
  rw [Document.pieces]
  rw [hmore] at hparts ⊢
  exact .copied _ trivial hparts

theorem copiedRegions_piecesFrom (boundary : Text) (parts : List Part) :
    copiedRegions (piecesFrom boundary parts) = parts.map Part.region := by
  induction parts with
  | nil => rfl
  | cons part parts ih =>
    rw [piecesFrom_cons, copiedRegions, List.filterMap_append, List.map_cons]
    refine congrArg₂ (· ++ ·) (?_ : _ = [part.region]) ih
    rw [Part.pieces]
    cases part.file <;> rfl

/-- After a file comes a delimiter, so nothing more of the part is copied. -/
theorem Reads.text_eq_nil (h : Reads D text before parts tail) :
    ∀ part ∈ parts, part.file.isSome → part.text = [] := by
  induction h with
  | close => exact fun _ hmem => absurd hmem List.not_mem_nil
  | field _ _ _ ih => exact List.forall_mem_cons.mpr ⟨fun hfile => absurd hfile (by simp), ih⟩
  | file _ _ hfile hread ih =>
    exact List.forall_mem_cons.mpr ⟨fun _ => hfile.before_eq_nil hread, ih⟩

/-- **The pieces make up what is written.** -/
theorem flatMap_bytes_piecesFrom (h : ∀ part ∈ parts, part.file.isSome → part.text = []) :
    ∀ before, before ++ (piecesFrom boundary parts).flatMap Piece.bytes =
      rendered (delimiter boundary) before parts := by
  induction parts with
  | nil => exact fun before => by simp [piecesFrom, rendered, Piece.bytes]
  | cons part parts ih =>
    intro before
    obtain ⟨hpart, hparts⟩ := List.forall_mem_cons.mp h
    rw [piecesFrom_cons, List.flatMap_append, rendered, ← ih hparts part.text, Part.pieces, Part.region]
    cases hfile : part.file with
    | none => simp [Piece.bytes]
    | some file => simp [Piece.bytes, hpart (by rw [hfile]; rfl), FileSection.render]

/-- **What is copied stands in the body.** -/
theorem Reads.regions_infix (h : Reads D text before parts tail) :
    before <+: text ∧ ∀ part ∈ parts, part.region <:+: text := by
  induction h with
  | close hcut => exact ⟨⟨_, hcut.eq.symm⟩, fun _ hmem => absurd hmem List.not_mem_nil⟩
  | @field text before line rest next tail parts hpart _ _ ih =>
    obtain ⟨⟨pair, -, -, hcut⟩, -⟩ := hpart
    obtain ⟨⟨last, hnext⟩, hlater⟩ := ih
    refine ⟨⟨_, hcut.eq.symm⟩, List.forall_mem_cons.mpr ⟨?_, fun part hmem => ?_⟩⟩
    · exact ⟨before ++ (D ++ pair), last, by simp [Part.region, hcut.eq, ← hnext]⟩
    · exact (hlater part hmem).trans ⟨before ++ (D ++ (pair ++ line)), [], by simp [hcut.eq]⟩
  | @file text before line rest headers stretch after next tail parts hpart _ hfile _ ih =>
    obtain ⟨⟨pair, -, -, hcut⟩, -⟩ := hpart
    obtain ⟨_, hhead, -, -⟩ := hfile
    refine ⟨⟨_, hcut.eq.symm⟩, List.forall_mem_cons.mpr ⟨?_, fun part hmem => ?_⟩⟩
    · exact ⟨before ++ (D ++ pair), headerEnd ++ (stretch ++ after), by
        simp [Part.region, hcut.eq, hhead.eq]⟩
    · exact (ih.2 part hmem).trans
        ⟨before ++ (D ++ (pair ++ (line ++ (headers ++ (headerEnd ++ stretch))))), [], by
          simp [hcut.eq, hhead.eq]⟩

/-! ### The text of a body -/

/-- **What a body is transcoded into falls apart** into these pieces: one after the other they make it up, and
each region that is copied stands in the body and is set off from the others. -/
structure SplitsInto (body out : Bytes) (pieces : List Piece) : Prop where
  bytes : pieces.flatMap Piece.bytes = out
  seamed : Seamed pieces
  verbatim : ∀ region ∈ copiedRegions pieces, region <:+: body

theorem splitsInto_piecesOf {out : Bytes} (h : transcodeBytes .linear body boundary = .ok out) :
    SplitsInto body out (piecesOf body boundary) := by
  by_cases hb : body = []
  · subst hb
    cases h
    exact ⟨rfl, .nil, fun _ hmem => absurd hmem List.not_mem_nil⟩
  obtain ⟨document, tail, hscan, hreads, -, rfl⟩ := exists_document hb h
  have hpieces : piecesOf body boundary = document.pieces boundary := by rw [piecesOf, hscan]
  have hregions : copiedRegions (document.pieces boundary) =
      document.preamble :: document.parts.map Part.region :=
    congrArg (document.preamble :: ·) (copiedRegions_piecesFrom boundary document.parts)
  obtain ⟨hpreamble, hparts⟩ := hreads.regions_infix
  refine ⟨?_, hpieces ▸ seamed_pieces boundary document, ?_⟩
  · rw [hpieces, Document.pieces, List.flatMap_cons]
    exact flatMap_bytes_piecesFrom hreads.text_eq_nil document.preamble
  · rw [hpieces, hregions]
    exact List.forall_mem_cons.mpr ⟨hpreamble.isInfix, List.forall_mem_map.mpr hparts⟩

/-- The lines and the base64 text for each file are among the pieces. -/
theorem inserted_mem_piecesOf {part : Part} (hpart : part ∈ partsMet body boundary) {file : FileSection}
    (hfile : part.file = some file) :
    .inserted (crlf ++ renderPayload file.payload) ∈ piecesOf body boundary := by
  unfold partsMet at hpart
  split at hpart
  · next document hscan =>
    have hmem : .inserted (crlf ++ renderPayload file.payload) ∈ part.pieces boundary := by
      simp [Part.pieces, hfile]
    rw [piecesOf, hscan]
    exact List.mem_cons_of_mem _ (List.mem_append_left _ (List.mem_flatMap.mpr ⟨part, hpart, hmem⟩))
  · exact absurd hpart List.not_mem_nil

/-- **The text of a body is lossy in its regions only.** It is that of the pieces, each on its own. It has the
lines and the base64 text for every file, whatever stands around them, and it is written as the exact bytes
just if all regions are UTF-8. -/
theorem transcode_pieces {out : Bytes} (h : transcodeBytes .linear body boundary = .ok out) :
    SplitsInto body out (piecesOf body boundary) ∧
    ∃ text, transcode .linear body boundary = .ok text ∧
      text = (piecesOf body boundary).flatMap Piece.text ∧
      (∀ part ∈ partsMet body boundary, ∀ file, part.file = some file →
        payloadText file.payload <:+: text) ∧
      (Utf8.encode text = out ↔
        ∀ region ∈ copiedRegions (piecesOf body boundary), Utf8.IsText region) := by
  have hsplit := splitsInto_piecesOf h
  have htext : Utf8.decodeLossy out = (piecesOf body boundary).flatMap Piece.text := by
    rw [← hsplit.bytes, hsplit.seamed.decodeLossy_eq]
  refine ⟨hsplit, Utf8.decodeLossy out, by rw [transcode, h]; rfl, htext,
    fun part hpart file hfile => ?_, ?_⟩
  · have hmem := inserted_mem_piecesOf hpart hfile
    have hinfix : Utf8.ofLow (crlf ++ renderPayload file.payload) <:+:
        (piecesOf body boundary).flatMap Piece.text :=
      List.infix_of_mem_flatten (List.mem_map_of_mem hmem)
    have hsuffix : payloadText file.payload <:+ Utf8.ofLow (crlf ++ renderPayload file.payload) :=
      ⟨Utf8.ofLow crlf, by rw [← ofLow_renderPayload, Utf8.ofLow, Utf8.ofLow, ← List.map_append]; rfl⟩
    rw [htext]
    exact hsuffix.isInfix.trans hinfix
  · rw [← hsplit.seamed.isText_iff, hsplit.bytes]
    exact ⟨fun hsame => ⟨_, hsame⟩, fun hout => hout.encode_decodeLossy⟩

end Documents

/-- A field whose first character is cut by the two bytes that are passed over, and whose last one is cut by the
delimiter, and a file of bytes that are no text. -/
def cutBody : Bytes :=
  ofAscii "--b" ++ [0xE2, 0x82, 0xAC] ++ ofAscii "name=a\r\n\r\n" ++ [0xF0, 0x9F] ++
    ofAscii "--b\r\nfilename=f\r\n\r\n" ++ [0xFF, 0x00] ++ ofAscii "\r\n--b--"

/-- What it is transcoded into. -/
def cutOut : Bytes :=
  ofAscii "--b\r\n" ++ [0xAC] ++ ofAscii "name=a\r\n\r\n" ++ [0xF0, 0x9F] ++
    ofAscii ("--b\r\nfilename=f\r\nContent-Length: 2\r\nContent-Encoding: base64\r\n\r\n/wA=\r\n" ++
      "--b--\r\n")

theorem transcode_pieces_cutBody :
    transcodeBytes .linear cutBody ['b'] = .ok cutOut ∧
    copiedRegions (piecesOf cutBody ['b']) =
      [[], [0xAC] ++ ofAscii "name=a\r\n\r\n" ++ [0xF0, 0x9F], ofAscii "filename=f"] ∧
    SplitsInto cutBody cutOut (piecesOf cutBody ['b']) ∧
    ∃ text, transcode .linear cutBody ['b'] = .ok text ∧
      text = (piecesOf cutBody ['b']).flatMap Piece.text ∧
      (∀ part ∈ partsMet cutBody ['b'], ∀ file, part.file = some file →
        payloadText file.payload <:+: text) ∧
      (Utf8.encode text = cutOut ↔
        ∀ region ∈ copiedRegions (piecesOf cutBody ['b']), Utf8.IsText region) := by
  have hok : transcodeBytes .linear cutBody ['b'] = .ok cutOut := by decide +kernel
  exact ⟨hok, by decide +kernel, transcode_pieces hok⟩

end FormCapture.Multipart
