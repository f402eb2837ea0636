import FormCapture.Multipart.Document
import FormCapture.Proofs.Bytes.Cut
import FormCapture.Proofs.Bytes.Search
import Mathlib.Tactic.Common

/-! # One round of a scan

A scan goes in rounds, each from a place before a delimiter to the place from which on the next one
is looked for (`scanFrom`). A round cuts off what stands before the delimiter, two bytes and a header
line (`PartCut`), and for a file part the rest of its headers and its bytes (`FileCut`).

`round` says that one of eight things is met, two of which go on and five of which are faults; the
equations `scanFrom_noDelimiter` to `scanFrom_file` say what the scan makes of each. They rest on what is
met behind a delimiter (`partMeets`), of which the equations `scanParts_cutLine` to `scanParts_part` speak,
for any finder. -/

namespace FormCapture.Multipart

open FormCapture.Bytes

variable {body : Bytes}

/-! ### Results of stages -/

theorem result_pure {α : Type} (a : α) : (pure a : Scan α).result = .ok a := rfl

theorem result_map {α β : Type} (f : α → β) (x : Scan α) : (f <$> x).result = x.result.map f := rfl

theorem result_bind {α β : Type} (x : Scan α) (f : α → Scan β) :
    (x >>= f).result = x.result.bind fun a => (f a).result := by
  change (x.andThen f).result = _
  unfold Scan.andThen
  cases x.result <;> rfl

theorem seek_of_cutAt {c : Cursor body} {needle before after : Bytes} (hn : needle ≠ [])
    (h : CutAt needle c.rest before after) (fault : Fault) :
    ∃ hk, (seek .linear c needle fault).result = .ok ⟨c.offset + before.length, hk⟩ := by
  have hf : Finder.linear.find c needle c.size = some (c.offset + before.length) :=
    Cursor.find_of_cutAt hn h
  have hb := Cursor.find_eq c needle c.size ▸ Cursor.find_of_cutAt hn h
  obtain ⟨-, hle, hsz, -⟩ := find_eq_some.mp hb
  refine ⟨⟨hle, c.size_eq ▸ hsz⟩, ?_⟩
  simp only [seek, hf, dif_pos (And.intro hle hsz)]

theorem seek_of_not_infix {c : Cursor body} {needle : Bytes} (h : ¬ needle <:+: c.rest)
    (fault : Fault) : (seek .linear c needle fault).result = .error fault := by
  have hf : Finder.linear.find c needle c.size = none := Cursor.find_of_not_infix h
  simp only [seek, hf]

/-! ### What a text is cut into -/

/-- The line has the mark of a file part, in any letter case. -/
def NamesFile (line : Bytes) : Prop := fileMark <:+: line.map lowerAscii

theorem occursIgnoringCase_fileMark_iff {line : Bytes} :
    occursIgnoringCase fileMark line = true ↔ NamesFile line := by
  have hlow : fileMark.map lowerAscii = fileMark := by decide
  rw [occursIgnoringCase_iff (by decide), hlow, NamesFile]

instance (line : Bytes) : Decidable (NamesFile line) :=
  decidable_of_iff _ occursIgnoringCase_fileMark_iff

/-- The text is `before`, the delimiter at its first occurrence, two bytes that are not dashes, a
header line, and `rest`, which begins with the end of that line. -/
structure PartCut (delimiter text before line rest : Bytes) : Prop where
  cut : ∃ pair : Bytes, pair.length = 2 ∧ pair ≠ dashes ∧
    CutAt delimiter text before (pair ++ (line ++ rest))
  line : LineCut line rest

/-- The text is `headers`, a blank line at its first occurrence, `payload`, and `rest`, which begins
with the first delimiter after that blank line. -/
structure FileCut (delimiter text headers payload rest : Bytes) : Prop where
  cut : ∃ afterwards, CutAt headerEnd text headers (payload ++ rest) ∧
    CutAt delimiter (payload ++ rest) payload afterwards ∧ rest = delimiter ++ afterwards

/-- The bytes of a file: what stands before a delimiter, less the line end that belongs to it. -/
def filePayload (stretch : Bytes) : Bytes := stretch.take (stretch.length - 2)

theorem filePayload_append_crlf (payload : Bytes) : filePayload (payload ++ crlf) = payload := by
  simp [filePayload, crlf]

/-- **What one round of a scan meets.** -/
inductive Round (delimiter text : Bytes) : Prop
  | noDelimiter : ¬ delimiter <:+: text → Round delimiter text
  | cutLine {before rest : Bytes} : CutAt delimiter text before rest → rest.length < 2 →
    Round delimiter text
  | close {before tail : Bytes} : CutAt delimiter text before (dashes ++ tail) →
    Round delimiter text
  | openLine {before pair rest : Bytes} : CutAt delimiter text before (pair ++ rest) →
    pair.length = 2 → pair ≠ dashes → (∀ b ∈ rest, isLineEnd b = false) → Round delimiter text
  | field {before line rest : Bytes} : PartCut delimiter text before line rest →
    ¬ NamesFile line → Round delimiter text
  | openHeaders {before line rest : Bytes} : PartCut delimiter text before line rest →
    NamesFile line → ¬ headerEnd <:+: rest → Round delimiter text
  | openPayload {before line rest headers afterwards : Bytes} :
    PartCut delimiter text before line rest → NamesFile line →
      CutAt headerEnd rest headers afterwards → ¬ delimiter <:+: afterwards → Round delimiter text
  | file {before line rest headers stretch after : Bytes} :
    PartCut delimiter text before line rest → NamesFile line →
      FileCut delimiter rest headers stretch after → Round delimiter text

theorem headerEnd_ne_nil : headerEnd ≠ [] := by decide

/-- What the scan of a file meets behind the first header line. -/
inductive FileMeets (delimiter rest : Bytes) : Prop
  | openHeaders : ¬ headerEnd <:+: rest → FileMeets delimiter rest
  | openPayload {headers afterwards : Bytes} : CutAt headerEnd rest headers afterwards →
    ¬ delimiter <:+: afterwards → FileMeets delimiter rest
  | cut {headers stretch after : Bytes} : FileCut delimiter rest headers stretch after →
    FileMeets delimiter rest

theorem fileMeets {delimiter : Bytes} (hD : delimiter ≠ []) (rest : Bytes) :
    FileMeets delimiter rest := by
  by_cases hh : headerEnd <:+: rest
  swap; · exact .openHeaders hh
  obtain ⟨headers, afterwards, hhead⟩ := exists_cutAt headerEnd_ne_nil hh
  by_cases hp : delimiter <:+: afterwards
  swap; · exact .openPayload hhead hp
  obtain ⟨stretch, last, hpay⟩ := exists_cutAt hD hp
  exact .cut ⟨last, hpay.eq ▸ hhead, hpay.eq ▸ hpay, rfl⟩

/-- What the scan of a part meets behind a delimiter. -/
inductive PartMeets (text : Bytes) : Prop
  | cutLine : text.length < 2 → PartMeets text
  | close {tail : Bytes} : text = dashes ++ tail → PartMeets text
  | openLine {pair rest : Bytes} : pair.length = 2 → pair ≠ dashes → text = pair ++ rest →
    (∀ b ∈ rest, isLineEnd b = false) → PartMeets text
  | line {pair line rest : Bytes} : pair.length = 2 → pair ≠ dashes → text = pair ++ (line ++ rest) →
    LineCut line rest → PartMeets text

theorem partMeets (text : Bytes) : PartMeets text := by
  by_cases hs : text.length < 2
  · exact .cutLine hs
  have hpair : (text.take 2).length = 2 := by rw [List.length_take]; omega
  have htext := (List.take_append_drop 2 text).symm
  by_cases hd : text.take 2 = dashes
  · exact .close (hd ▸ htext)
  rcases lineCut_or (text.drop 2) with hopen | ⟨line, rest, he, hline⟩
  · exact .openLine hpair hd htext hopen
  · exact .line hpair hd (he ▸ htext) hline

theorem round {delimiter : Bytes} (hD : delimiter ≠ []) (text : Bytes) : Round delimiter text := by
  by_cases h : delimiter <:+: text
  swap; · exact .noDelimiter h
  obtain ⟨before, after, hcut⟩ := exists_cutAt hD h
  cases partMeets after with
  | cutLine hs => exact .cutLine hcut hs
  | close he => exact .close (he ▸ hcut)
  | openLine hp hne he hopen => exact .openLine (he ▸ hcut) hp hne hopen
  | @line pair line rest hp hne he hline =>
    have hpart : PartCut delimiter text before line rest := ⟨⟨pair, hp, hne, he ▸ hcut⟩, hline⟩
    by_cases hf : NamesFile line
    swap; · exact .field hpart hf
    cases fileMeets hD rest with
    | openHeaders hh => exact .openHeaders hpart hf hh
    | openPayload hhead hp => exact .openPayload hpart hf hhead hp
    | cut hcut => exact .file hpart hf hcut

/-! ### One round of a scan -/

/-- What a scan finds from a place on: the bytes up to the next delimiter, the parts after it, and
the offset just past the closing dashes. -/
def scanFrom (finder : Finder) (delimiter : Bytes) (c : Cursor body) :
    Scan (Bytes × List Part × Nat) := do
  let next ← seek finder c delimiter (.noDelimiter c.offset)
  let found ← scanParts finder delimiter ((c.moveTo next.1 next.2.1).advance delimiter.length)
  pure (c.upTo next.1, found)

theorem result_scan (boundary : Text) (hb : body ≠ []) :
    (scan .linear body boundary).result =
      (scanFrom .linear (delimiter boundary) (Cursor.first body)).result.map
        fun x => some ⟨x.1, x.2.1, x.2.2⟩ := by
  have he : body.isEmpty = false := by simpa using hb
  simp only [scan, he, Bool.false_eq_true, if_false, scanFrom, result_bind]
  change Except.bind (seek .linear (Cursor.first body) (delimiter boundary)
    (.noDelimiter (Cursor.first body).offset)).result _ = _
  cases (seek .linear (Cursor.first body) (delimiter boundary) _).result with
  | error f => rfl
  | ok k =>
    simp only [Except.bind, result_pure]
    cases (scanParts .linear (delimiter boundary) _).result <;> rfl

section Parts

variable {finder : Finder} {D : Bytes} {c : Cursor body}

theorem size_lt_iff : c.size < c.offset + 2 ↔ c.rest.length < 2 := by
  rw [c.rest_eq, List.length_drop, c.size_eq]
  omega

theorem scanParts_cutLine (h : c.rest.length < 2) : scanParts finder D c = .fail .cutDelimiterLine := by
  rw [scanParts, dif_pos (size_lt_iff.mpr h)]

theorem scanParts_close {tail : Bytes} (h : c.rest = dashes ++ tail) :
    scanParts finder D c = pure ([], c.offset + 2) := by
  rw [scanParts, dif_neg, if_pos]
  · rw [Cursor.upTo_add, h, show 2 = dashes.length from rfl, List.take_left]
  · rw [size_lt_iff, h]
    simp [dashes, Bytes.ofAscii]

section Pair

variable {pair rest : Bytes} (hp : pair.length = 2) (hne : pair ≠ dashes)
include hp hne

theorem scanParts_openLine (h : c.rest = pair ++ rest) (hl : ∀ b ∈ rest, isLineEnd b = false) :
    scanParts finder D c = .fail (.openHeaderLine (c.offset + 2)) := by
  have hend : (c.advance 2).findLineEnd = none :=
    Cursor.findLineEnd_of_none (by rw [← hp, Cursor.rest_advance_of_eq h]; exact hl)
  rw [scanParts, dif_neg, if_neg]
  · simp only
    split
    · rfl
    · next e he => rw [hend] at he; cases he
  · rw [Cursor.upTo_add, h, ← hp, List.take_left]
    exact hne
  · rw [size_lt_iff, h, List.length_append, hp]
    omega

theorem scanParts_part {line : Bytes} (h : c.rest = pair ++ (line ++ rest)) (hline : LineCut line rest) :
    scanParts finder D c = scanFile? finder D line (c.advance (2 + line.length)) >>= fun x =>
      seek finder x.2.val D (.noDelimiter x.2.val.offset) >>= fun next =>
        (fun y => (⟨line, x.1, x.2.val.upTo next.1⟩ :: y.1, y.2)) <$>
          scanParts finder D ((x.2.val.moveTo next.1 next.2.1).advance D.length) := by
  have hr : (c.advance 2).rest = line ++ rest := by rw [← hp, Cursor.rest_advance_of_eq h]
  have hend := Cursor.findLineEnd_of_lineCut hr hline
  rw [scanParts, dif_neg, if_neg]
  · simp only
    split
    · next hn => rw [hend] at hn; cases hn
    · next e he =>
      obtain rfl : _ = e := Option.some.inj (hend.symm.trans he)
      have hc : (c.advance 2).moveTo _ (Cursor.le_of_findLineEnd he).1 = c.advance (2 + line.length) :=
        Cursor.eq_of_offset_eq (by simp [Nat.add_assoc])
      rw [Cursor.upTo_add, hr, List.take_left, hc]
  · rw [Cursor.upTo_add, h, ← hp, List.take_left]
    exact hne
  · rw [size_lt_iff, h, List.length_append, hp]
    omega

end Pair

end Parts

section Round

variable {D : Bytes} {c : Cursor body} {before line rest : Bytes}

theorem scanFrom_noDelimiter (h : ¬ D <:+: c.rest) :
    (scanFrom .linear D c).result = .error (.noDelimiter c.offset) := by
  simp only [scanFrom, result_bind, seek_of_not_infix h, Except.bind]

theorem scanFrom_of_cutAt {after : Bytes} (hD : D ≠ []) (h : CutAt D c.rest before after) :
    (scanFrom .linear D c).result =
      (scanParts .linear D (c.advance (before ++ D).length)).result.map fun x => (before, x) := by
  obtain ⟨hk, he⟩ := seek_of_cutAt hD h (.noDelimiter c.offset)
  have hc : (c.moveTo (c.offset + before.length) hk.1).advance D.length =
      c.advance (before ++ D).length := Cursor.eq_of_offset_eq (by simp [Nat.add_assoc])
  have hv : c.upTo (c.offset + before.length) = before := by
    rw [Cursor.upTo_add, h.eq, List.take_left]
  simp only [scanFrom, result_bind, he, Except.bind, hc, hv, result_pure]
  cases (scanParts .linear D _).result <;> rfl

/-- Past the delimiter stands what follows it. -/
theorem rest_of_cutAt {after : Bytes} (h : CutAt D c.rest before after) :
    (c.advance (before ++ D).length).rest = after :=
  Cursor.rest_advance_of_eq (by rw [h.eq, List.append_assoc])

theorem scanFrom_cutLine (hD : D ≠ []) (h : CutAt D c.rest before rest) (hs : rest.length < 2) :
    (scanFrom .linear D c).result = .error .cutDelimiterLine := by
  rw [scanFrom_of_cutAt hD h, scanParts_cutLine (by rw [rest_of_cutAt h]; exact hs)]
  rfl

theorem scanFrom_close {tail : Bytes} (hD : D ≠ []) (h : CutAt D c.rest before (dashes ++ tail)) :
    (scanFrom .linear D c).result = .ok (before, [], c.offset + (before ++ D).length + 2) := by
  rw [scanFrom_of_cutAt hD h, scanParts_close (rest_of_cutAt h)]
  rfl

theorem scanFrom_openLine {pair : Bytes} (hD : D ≠ []) (h : CutAt D c.rest before (pair ++ rest))
    (hp : pair.length = 2) (hne : pair ≠ dashes) (hl : ∀ b ∈ rest, isLineEnd b = false) :
    (scanFrom .linear D c).result =
      .error (.openHeaderLine (c.offset + (before ++ D).length + 2)) := by
  rw [scanFrom_of_cutAt hD h, scanParts_openLine hp hne (rest_of_cutAt h) hl]
  rfl

/-- How far the first header line of a part ends from where the text before it begins. -/
def lineLength (D before line : Bytes) : Nat := (before ++ D).length + 2 + line.length

theorem lineLength_pos (D before line : Bytes) : 0 < lineLength D before line := by
  unfold lineLength; omega

theorem PartCut.length_eq {text : Bytes} (h : PartCut D text before line rest) :
    text.length = lineLength D before line + rest.length := by
  obtain ⟨⟨pair, hp, -, hcut⟩, -⟩ := h
  rw [hcut.eq, lineLength]
  simp only [List.length_append, hp]
  omega

theorem PartCut.ne_nil {text : Bytes} (hD : D ≠ []) (h : PartCut D text before line rest) :
    text ≠ [] := by
  obtain ⟨⟨pair, -, -, hcut⟩, -⟩ := h
  exact hcut.ne_nil hD

theorem PartCut.rest_advance (h : PartCut D c.rest before line rest) :
    (c.advance (lineLength D before line)).rest = rest := by
  obtain ⟨⟨pair, hp, -, hcut⟩, -⟩ := h
  have hlen : lineLength D before line = (before ++ D ++ pair ++ line).length := by
    simp [lineLength, hp, Nat.add_assoc]
  rw [hlen]
  exact Cursor.rest_advance_of_eq (by simp [hcut.eq])

/-- The end of the first header line, seen from the delimiter before it. -/
theorem advance_lineLength (D before line : Bytes) :
    (c.advance (before ++ D).length).advance (2 + line.length) = c.advance (lineLength D before line) :=
  Cursor.eq_of_offset_eq (by simp [lineLength, Nat.add_assoc])

theorem scanFrom_part (hD : D ≠ []) (h : PartCut D c.rest before line rest) :
    (scanFrom .linear D c).result =
      (scanFile? .linear D line (c.advance (lineLength D before line))).result.bind fun x =>
        (scanFrom .linear D x.2.val).result.map fun y =>
          (before, ⟨line, x.1, y.1⟩ :: y.2.1, y.2.2) := by
  obtain ⟨⟨pair, hp, hne, hcut⟩, hline⟩ := h
  rw [scanFrom_of_cutAt hD hcut, scanParts_part hp hne (rest_of_cutAt hcut) hline, advance_lineLength]
  simp only [result_bind]
  cases (scanFile? .linear D line (c.advance (lineLength D before line))).result with
  | error f => rfl
  | ok x =>
    obtain ⟨file, d, hd⟩ := x
    simp only [scanFrom, Except.bind, result_bind, result_map, result_pure]
    cases (seek .linear d D (.noDelimiter d.offset)).result with
    | error f => rfl
    | ok k =>
      simp only
      cases (scanParts .linear D _).result <;> rfl

theorem scanFrom_field (hD : D ≠ []) (h : PartCut D c.rest before line rest)
    (hf : ¬ NamesFile line) : (scanFrom .linear D c).result =
      (scanFrom .linear D (c.advance (lineLength D before line))).result.map fun y =>
        (before, ⟨line, none, y.1⟩ :: y.2.1, y.2.2) := by
  have hno : occursIgnoringCase fileMark line = false := by
    rw [← Bool.not_eq_true, occursIgnoringCase_fileMark_iff]
    exact hf
  simp only [scanFrom_part hD h, scanFile?, hno, Bool.false_eq_true, if_false, result_pure,
    Except.bind]

theorem result_scanFile? (hf : NamesFile line) : (scanFile? .linear D line c).result =
    (scanFile .linear D c).result.map fun x => (some x.1, x.2) := by
  simp only [scanFile?, occursIgnoringCase_fileMark_iff.mpr hf, if_true, result_bind, result_pure]
  cases (scanFile .linear D c).result <;> rfl

theorem scanFile_openHeaders (h : ¬ headerEnd <:+: c.rest) :
    (scanFile .linear D c).result = .error (.openFileHeaders c.offset) := by
  simp only [scanFile, result_bind, seek_of_not_infix h, Except.bind]

theorem scanFile_openPayload {headers afterwards : Bytes} (h : CutAt headerEnd c.rest headers afterwards)
    (hp : ¬ D <:+: afterwards) : (scanFile .linear D c).result =
      .error (.openPayload (c.offset + (headers ++ headerEnd).length)) := by
  obtain ⟨hk, he⟩ := seek_of_cutAt headerEnd_ne_nil h (.openFileHeaders c.offset)
  have hr : ((c.moveTo (c.offset + headers.length) hk.1).advance headerEnd.length).rest =
      afterwards := by
    rw [← rest_of_cutAt h]
    exact congrArg _ (Cursor.eq_of_offset_eq (by simp [Nat.add_assoc]))
  simp only [scanFile, result_bind, he, Except.bind, seek_of_not_infix (hr.symm ▸ hp)]
  simp [Nat.add_assoc]

theorem scanFile_of_fileCut {headers stretch after : Bytes} (hD : D ≠ [])
    (h : FileCut D c.rest headers stretch after) : ∃ hle, (scanFile .linear D c).result =
      .ok (⟨headers, filePayload stretch⟩,
        ⟨c.advance (headers ++ headerEnd ++ stretch).length, hle⟩) := by
  obtain ⟨last, hhead, hpay, rfl⟩ := h
  refine ⟨Nat.le_add_right _ _, ?_⟩
  obtain ⟨hk, he⟩ := seek_of_cutAt headerEnd_ne_nil hhead (.openFileHeaders c.offset)
  have hr : ((c.moveTo (c.offset + headers.length) hk.1).advance headerEnd.length).rest =
      stretch ++ (D ++ last) := by
    rw [← rest_of_cutAt hhead]
    exact congrArg _ (Cursor.eq_of_offset_eq (by simp [Nat.add_assoc]))
  obtain ⟨hk₂, he₂⟩ := seek_of_cutAt hD (hr.symm ▸ hpay)
    (.openPayload ((c.moveTo (c.offset + headers.length) hk.1).advance headerEnd.length).offset)
  simp only [scanFile, result_bind, he, Except.bind, he₂, result_pure]
  congr 3
  · rw [Cursor.upTo_add, hhead.eq, List.take_left]
  · rw [Cursor.upTo, hr, filePayload, Nat.sub_right_comm, Nat.add_sub_cancel_left]
    exact List.take_append_of_le_length (Nat.sub_le _ _)
  · exact Cursor.eq_of_offset_eq (by simp [Nat.add_assoc])

theorem scanFrom_openHeaders (hD : D ≠ []) (h : PartCut D c.rest before line rest)
    (hf : NamesFile line) (hh : ¬ headerEnd <:+: rest) : (scanFrom .linear D c).result =
      .error (.openFileHeaders (c.offset + lineLength D before line)) := by
  rw [scanFrom_part hD h, result_scanFile? hf, scanFile_openHeaders (h.rest_advance.symm ▸ hh)]
  rfl

theorem scanFrom_openPayload {headers afterwards : Bytes} (hD : D ≠ [])
    (h : PartCut D c.rest before line rest) (hf : NamesFile line)
    (hh : CutAt headerEnd rest headers afterwards) (hp : ¬ D <:+: afterwards) :
    (scanFrom .linear D c).result =
      .error (.openPayload
        (c.offset + lineLength D before line + (headers ++ headerEnd).length)) := by
  rw [scanFrom_part hD h, result_scanFile? hf, scanFile_openPayload (h.rest_advance.symm ▸ hh) hp]
  rfl

/-- How far the delimiter after a file is from where the text before the part begins. -/
def fileLength (D before line headers stretch : Bytes) : Nat :=
  lineLength D before line + (headers ++ headerEnd ++ stretch).length

theorem FileCut.length_eq {text headers stretch after : Bytes}
    (h : FileCut D text headers stretch after) :
    text.length = (headers ++ headerEnd ++ stretch).length + after.length := by
  obtain ⟨last, hhead, -, -⟩ := h
  rw [hhead.eq]
  simp [Nat.add_assoc]

theorem FileCut.ne_nil {text headers stretch after : Bytes} (hD : D ≠ [])
    (h : FileCut D text headers stretch after) : after ≠ [] := by
  obtain ⟨last, -, -, rfl⟩ := h
  simp [hD]

/-- The end of a file, seen from the end of the first header line. -/
theorem advance_fileLength (D before line headers stretch : Bytes) :
    (c.advance (lineLength D before line)).advance (headers ++ headerEnd ++ stretch).length =
      c.advance (fileLength D before line headers stretch) :=
  Cursor.eq_of_offset_eq (by simp [fileLength, Nat.add_assoc])

theorem PartCut.rest_advance_file {headers stretch after : Bytes}
    (h : PartCut D c.rest before line rest) (hc : FileCut D rest headers stretch after) :
    (c.advance (fileLength D before line headers stretch)).rest = after := by
  obtain ⟨last, hhead, -, -⟩ := hc
  rw [← advance_fileLength]
  exact Cursor.rest_advance_of_eq (by rw [h.rest_advance, hhead.eq]; simp)

theorem scanFrom_file {headers stretch after : Bytes} (hD : D ≠ [])
    (h : PartCut D c.rest before line rest) (hf : NamesFile line)
    (hc : FileCut D rest headers stretch after) : (scanFrom .linear D c).result =
      (scanFrom .linear D (c.advance (fileLength D before line headers stretch))).result.map
        fun y => (before, ⟨line, some ⟨headers, filePayload stretch⟩, y.1⟩ :: y.2.1, y.2.2) := by
  obtain ⟨hle, he⟩ := scanFile_of_fileCut hD (h.rest_advance.symm ▸ hc)
  rw [scanFrom_part hD h, result_scanFile? hf, he]
  simp only [Except.map, Except.bind, advance_fileLength]

end Round

end FormCapture.Multipart
