import FormCapture.Proofs.Multipart.Reading

/-! # Transcoding with checked offsets

The pass over a body that keeps an offset and what it has written so far, and that checks each stretch
it takes out of the body against the bounds of the body (`step`, `passFrom`). `pass_eq` says that it
computes what the scan and the rendering of the document compute; so none of its checks ever fails. -/

namespace FormCapture.Multipart.Checked

open FormCapture.Bytes

/-! ### The pass -/

/-- How a pass ends early. -/
inductive Halt
  /-- A stretch was taken that the body does not have. -/
  | outOfRange
  | fault (fault : Fault)
  deriving DecidableEq

/-- The bytes from `start` up to `stop`, which have to be in order and within the body. -/
def stretch (body : Bytes) (start stop : Nat) : Except Halt Bytes :=
  if start ≤ stop ∧ stop ≤ body.length then .ok (body.slice start stop) else .error .outOfRange

/-- How many bytes there are from an offset on, which has to be within the body. -/
def left (body : Bytes) (offset : Nat) : Except Halt Nat :=
  if offset ≤ body.length then .ok (body.length - offset) else .error .outOfRange

/-- What is found, or the fault of not finding it. -/
def orFault (found : Option Nat) (fault : Fault) : Except Halt Nat :=
  match found with
  | none => .error (.fault fault)
  | some offset => .ok offset

/-- The place that a pass has come to, and what it has written. -/
structure State where
  offset : Nat
  out : Bytes

/-- The file of a part, from the end of its first header line on. -/
def fileStep (D body : Bytes) (s : State) : Except Halt State := do
  let h ← orFault (find body headerEnd s.offset body.length) (.openFileHeaders s.offset)
  let headers ← stretch body s.offset h
  let first := h + headerEnd.length
  let next ← orFault (find body D first body.length) (.openPayload first)
  let payload ← stretch body first (max (next - 2) first)
  pure ⟨next, s.out ++ headers ++ crlf ++ renderPayload payload⟩

/-- A part, from the two bytes after its delimiter on. -/
def partStep (D body : Bytes) (s : State) : Except Halt State := do
  let start := s.offset + 2
  let e ← orFault (findLineEnd body start body.length) (.openHeaderLine start)
  let line ← stretch body start e
  let t : State := ⟨e, s.out ++ crlf ++ line⟩
  if containsIgnoringCase body fileMark start e then fileStep D body t else pure t

/-- One round: all is written, or there is a place to go on from. -/
def step (D body : Bytes) (s : State) : Except Halt (Bytes ⊕ State) := do
  let k ← orFault (find body D s.offset body.length) (.noDelimiter s.offset)
  let before ← stretch body s.offset k
  let offset := k + D.length
  let size ← left body offset
  if size < 2 then .error (.fault .cutDelimiterLine)
  else
    let pair ← stretch body offset (offset + 2)
    if pair = dashes then pure (.inl (s.out ++ before ++ D ++ dashes ++ crlf))
    else .inr <$> partStep D body ⟨offset, s.out ++ before ++ D⟩

/-! ### The pass ends -/

variable {D body : Bytes}

theorem bind_eq_ok {α β : Type} {x : Except Halt α} {f : α → Except Halt β} {b : β} :
    (x >>= f) = .ok b ↔ ∃ a, x = .ok a ∧ f a = .ok b := by
  cases x with
  | error e => simp [bind, Except.bind]
  | ok a => simp [bind, Except.bind]

theorem orFault_eq_ok {found : Option Nat} {fault : Fault} {k : Nat} :
    orFault found fault = .ok k ↔ found = some k := by
  cases found <;> simp [orFault]

theorem le_of_find {needle : Bytes} {start k : Nat} {fault : Fault}
    (h : orFault (find body needle start body.length) fault = .ok k) : start ≤ k :=
  (find_eq_some.mp (orFault_eq_ok.mp h)).2.1

theorem offset_le_of_fileStep {s t : State} (h : fileStep D body s = .ok t) :
    s.offset ≤ t.offset := by
  obtain ⟨k, hk, h⟩ := bind_eq_ok.mp h
  obtain ⟨headers, -, h⟩ := bind_eq_ok.mp h
  obtain ⟨next, hn, h⟩ := bind_eq_ok.mp h
  obtain ⟨payload, -, h⟩ := bind_eq_ok.mp h
  cases h
  have h₁ := le_of_find hk
  have h₂ := le_of_find hn
  exact Nat.le_trans (Nat.le_trans h₁ (Nat.le_add_right _ _)) h₂

theorem offset_lt_of_partStep {s t : State} (h : partStep D body s = .ok t) :
    s.offset < t.offset := by
  obtain ⟨e, he, h⟩ := bind_eq_ok.mp h
  obtain ⟨line, -, h⟩ := bind_eq_ok.mp h
  have hle := (le_of_findLineEnd (orFault_eq_ok.mp he)).1
  have ht : e ≤ t.offset := by
    split at h
    · exact offset_le_of_fileStep h
    · cases h
      exact Nat.le_refl _
  omega

theorem offset_lt_of_step {s t : State} (h : step D body s = .ok (.inr t)) :
    s.offset < t.offset := by
  obtain ⟨k, hk, h⟩ := bind_eq_ok.mp h
  obtain ⟨before, -, h⟩ := bind_eq_ok.mp h
  obtain ⟨size, -, h⟩ := bind_eq_ok.mp h
  have hle := le_of_find hk
  split at h
  · cases h
  obtain ⟨pair, -, h⟩ := bind_eq_ok.mp h
  split at h
  · cases h
  cases hp : partStep D body ⟨k + D.length, s.out ++ before ++ D⟩ with
  | error e => rw [hp] at h; cases h
  | ok u =>
    rw [hp] at h
    cases h
    have := offset_lt_of_partStep hp
    simp only at this
    omega

/-- The rounds from a state on: the text written when the body is at its end. -/
def passFrom (D body : Bytes) (s : State) : Except Halt Bytes :=
  if s.offset < body.length then
    match _h : step D body s with
    | .error halt => .error halt
    | .ok (.inl out) => .ok out
    | .ok (.inr t) => passFrom D body t
  else .ok s.out
termination_by body.length - s.offset
decreasing_by
  have := offset_lt_of_step _h
  omega

/-- The pass over a whole body. -/
def pass (D body : Bytes) : Except Halt Bytes := passFrom D body ⟨0, []⟩

/-! ### What a round makes of what it meets -/

section Round

variable {c : Cursor body} {before line rest out : Bytes}

theorem find_of_cutAt {needle after : Bytes} (hn : needle ≠ [])
    (h : CutAt needle c.rest before after) :
    find body needle c.offset body.length = some (c.offset + before.length) := by
  rw [← c.size_eq, ← Cursor.find_eq]
  exact Cursor.find_of_cutAt hn h

theorem find_of_not_infix {needle : Bytes} (h : ¬ needle <:+: c.rest) :
    find body needle c.offset body.length = none := by
  rw [← c.size_eq, ← Cursor.find_eq]
  exact Cursor.find_of_not_infix h

/-- A stretch that begins where a place is can be taken as far as the bytes reach. -/
theorem stretch_of_rest (hc : c.offset ≤ body.length) (h : c.rest = before ++ rest) :
    stretch body c.offset (c.offset + before.length) = .ok before := by
  have hlen := congrArg List.length h
  rw [c.rest_eq, List.length_drop, List.length_append] at hlen
  rw [stretch, if_pos ⟨Nat.le_add_right _ _, by omega⟩, ← Cursor.upTo_eq_slice, Cursor.upTo_add, h,
    List.take_left]

theorem offset_advance_le (hc : c.offset ≤ body.length) (h : c.rest = before ++ rest) :
    (c.advance before.length).offset ≤ body.length := by
  have hlen := congrArg List.length h
  rw [c.rest_eq, List.length_drop, List.length_append] at hlen
  rw [Cursor.offset_advance]
  omega

theorem left_eq (hc : c.offset ≤ body.length) : left body c.offset = .ok c.rest.length := by
  rw [left, if_pos hc, c.rest_eq, List.length_drop]

theorem step_noDelimiter (h : ¬ D <:+: c.rest) :
    step D body ⟨c.offset, out⟩ = .error (.fault (.noDelimiter c.offset)) := by
  simp only [step, find_of_not_infix h, orFault, bind, Except.bind]

theorem step_of_cutAt {after : Bytes} (hD : D ≠ []) (hc : c.offset ≤ body.length)
    (h : CutAt D c.rest before after) : step D body ⟨c.offset, out⟩ =
      if after.length < 2 then .error (.fault .cutDelimiterLine)
      else (stretch body (c.advance (before ++ D).length).offset
        ((c.advance (before ++ D).length).offset + 2)).bind fun pair =>
          if pair = dashes then .ok (.inl (out ++ before ++ D ++ dashes ++ crlf))
          else (partStep D body ⟨(c.advance (before ++ D).length).offset,
            out ++ before ++ D⟩).map .inr := by
  have hrest : c.rest = (before ++ D) ++ after := by rw [h.eq, List.append_assoc]
  have hoff : c.offset + before.length + D.length = (c.advance (before ++ D).length).offset := by
    simp [Nat.add_assoc]
  have hleft := left_eq (offset_advance_le hc hrest)
  rw [rest_of_cutAt h] at hleft
  simp only [step, find_of_cutAt hD h, orFault, stretch_of_rest hc h.eq, hoff, hleft, bind,
    Except.bind]
  rfl

theorem step_cutLine (hD : D ≠ []) (hc : c.offset ≤ body.length) (h : CutAt D c.rest before rest)
    (hs : rest.length < 2) :
    step D body ⟨c.offset, out⟩ = .error (.fault .cutDelimiterLine) := by
  rw [step_of_cutAt hD hc h, if_pos hs]

theorem step_of_pair {pair : Bytes} (hD : D ≠ []) (hc : c.offset ≤ body.length)
    (h : CutAt D c.rest before (pair ++ rest)) (hp : pair.length = 2) :
    step D body ⟨c.offset, out⟩ =
      if pair = dashes then .ok (.inl (out ++ before ++ D ++ dashes ++ crlf))
      else (partStep D body ⟨c.offset + (before ++ D).length, out ++ before ++ D⟩).map .inr := by
  have hrest : c.rest = (before ++ D) ++ (pair ++ rest) := by rw [h.eq, List.append_assoc]
  have hpair := stretch_of_rest (offset_advance_le hc hrest) (rest_of_cutAt h)
  rw [hp] at hpair
  have hsize : ¬ (pair ++ rest).length < 2 := by
    rw [List.length_append, hp]
    omega
  rw [step_of_cutAt hD hc h, if_neg hsize, hpair]
  rfl

theorem partStep_openLine {pair : Bytes} (h : c.rest = pair ++ rest) (hp : pair.length = 2)
    (hl : ∀ b ∈ rest, isLineEnd b = false) : partStep D body ⟨c.offset, out⟩ =
      .error (.fault (.openHeaderLine (c.offset + 2))) := by
  have hend : findLineEnd body (c.offset + 2) body.length = none := by
    rw [← Cursor.offset_advance, ← Cursor.findLineEnd_eq]
    exact Cursor.findLineEnd_of_none (by rw [← hp, Cursor.rest_advance_of_eq h]; exact hl)
  simp only [partStep, hend, orFault, bind, Except.bind]

variable (out) in
theorem partStep_of_lineCut {pair : Bytes} (hc : c.offset ≤ body.length)
    (h : c.rest = pair ++ (line ++ rest)) (hp : pair.length = 2) (hl : LineCut line rest) :
    partStep D body ⟨c.offset, out⟩ =
      if NamesFile line then
        fileStep D body ⟨c.offset + 2 + line.length, out ++ crlf ++ line⟩
      else .ok ⟨c.offset + 2 + line.length, out ++ crlf ++ line⟩ := by
  have hrest : (c.advance 2).rest = line ++ rest := by rw [← hp, Cursor.rest_advance_of_eq h]
  have hle : (c.advance 2).offset ≤ body.length := hp ▸ offset_advance_le hc h
  have hend : findLineEnd body (c.offset + 2) body.length = some (c.offset + 2 + line.length) := by
    rw [← Cursor.offset_advance, ← Cursor.findLineEnd_eq]
    exact Cursor.findLineEnd_of_lineCut hrest hl
  have hline := stretch_of_rest hle hrest
  have hmark : containsIgnoringCase body fileMark (c.offset + 2) (c.offset + 2 + line.length) =
      occursIgnoringCase fileMark line := by
    have hs := (c.advance 2).upTo_eq_slice ((c.advance 2).offset + line.length)
    rw [Cursor.upTo_add, hrest, List.take_left] at hs
    rw [Cursor.offset_advance] at hs
    rw [containsIgnoringCase, ← hs]
    rfl
  rw [Cursor.offset_advance] at hline
  simp only [partStep, hend, orFault, hline, hmark, occursIgnoringCase_fileMark_iff, bind,
    Except.bind, pure, Except.pure]

theorem fileStep_openHeaders (h : ¬ headerEnd <:+: c.rest) :
    fileStep D body ⟨c.offset, out⟩ = .error (.fault (.openFileHeaders c.offset)) := by
  simp only [fileStep, find_of_not_infix h, orFault, bind, Except.bind]

theorem fileStep_openPayload {headers afterwards : Bytes} (hc : c.offset ≤ body.length)
    (h : CutAt headerEnd c.rest headers afterwards) (hp : ¬ D <:+: afterwards) :
    fileStep D body ⟨c.offset, out⟩ =
      .error (.fault (.openPayload (c.offset + (headers ++ headerEnd).length))) := by
  have hoff : c.offset + headers.length + headerEnd.length =
      (c.advance (headers ++ headerEnd).length).offset := by simp [Nat.add_assoc]
  have hno := find_of_not_infix (c := c.advance (headers ++ headerEnd).length)
    (rest_of_cutAt h ▸ hp)
  simp only [fileStep, find_of_cutAt headerEnd_ne_nil h, orFault, stretch_of_rest hc h.eq, hoff,
    hno, bind, Except.bind]
  rfl

theorem fileStep_of_fileCut {headers bytes after : Bytes} (hD : D ≠ [])
    (hc : c.offset ≤ body.length) (h : FileCut D c.rest headers bytes after) :
    fileStep D body ⟨c.offset, out⟩ =
      .ok ⟨c.offset + (headers ++ headerEnd ++ bytes).length,
        out ++ headers ++ crlf ++ renderPayload (filePayload bytes)⟩ := by
  obtain ⟨last, hhead, hpay, rfl⟩ := h
  have hoff : c.offset + headers.length + headerEnd.length =
      (c.advance (headers ++ headerEnd).length).offset := by simp [Nat.add_assoc]
  have hrest := rest_of_cutAt hhead
  have hle := offset_advance_le hc (by rw [hhead.eq, List.append_assoc] :
    c.rest = (headers ++ headerEnd) ++ (bytes ++ (D ++ last)))
  have hnext := find_of_cutAt hD (hrest ▸ hpay)
  have hsplit : (c.advance (headers ++ headerEnd).length).rest =
      filePayload bytes ++ (bytes.drop (bytes.length - 2) ++ (D ++ last)) := by
    rw [hrest, filePayload, ← List.append_assoc (bytes.take _), List.take_append_drop]
  have hmax : max ((c.advance (headers ++ headerEnd).length).offset + bytes.length - 2)
      (c.advance (headers ++ headerEnd).length).offset =
        (c.advance (headers ++ headerEnd).length).offset + (filePayload bytes).length := by
    rw [filePayload, List.length_take]
    omega
  simp only [fileStep, find_of_cutAt headerEnd_ne_nil hhead, orFault, stretch_of_rest hc hhead.eq,
    hoff, hnext, hmax, stretch_of_rest hle hsplit, bind, Except.bind, pure, Except.pure]
  simp [Nat.add_assoc]

end Round

/-! ### What the pass computes -/

/-- What a pass makes of the result of a scan, after what it has written. -/
def outcome (D out : Bytes) : Except Fault (Bytes × List Part × Nat) → Except Halt Bytes
  | .error fault => .error (.fault fault)
  | .ok x => .ok (out ++ rendered D x.1 x.2.1)

theorem passFrom_of_lt {s : State} (hs : s.offset < body.length) :
    passFrom D body s =
      match step D body s with
      | .error halt => .error halt
      | .ok (.inl out) => .ok out
      | .ok (.inr t) => passFrom D body t := by
  rw [passFrom, if_pos hs]
  rcases step D body s with halt | out | t <;> rfl

theorem offset_lt_of_partCut {c : Cursor body} {before line rest : Bytes}
    (h : PartCut D c.rest before line rest) :
    (c.advance (lineLength D before line)).offset < body.length :=
  Cursor.offset_lt_of_rest_ne_nil (h.rest_advance.symm ▸ h.line.rest_ne_nil)

/-- A round that meets a part: the next one starts at the end of its header line, or of its file. -/
theorem step_of_partCut {c : Cursor body} {before line rest out : Bytes} (hD : D ≠ [])
    (h : PartCut D c.rest before line rest) : step D body ⟨c.offset, out⟩ =
      (if NamesFile line then
        fileStep D body ⟨(c.advance (lineLength D before line)).offset,
          out ++ before ++ D ++ crlf ++ line⟩
      else .ok ⟨(c.advance (lineLength D before line)).offset,
        out ++ before ++ D ++ crlf ++ line⟩).map .inr := by
  obtain ⟨⟨pair, hp, hne, hcut⟩, hline⟩ := h
  have hc := Nat.le_of_lt (Cursor.offset_lt_of_rest_ne_nil (hcut.ne_nil hD))
  have hrest := rest_of_cutAt hcut
  have hle := offset_advance_le hc (by rw [hcut.eq, List.append_assoc] :
    c.rest = (before ++ D) ++ (pair ++ (line ++ rest)))
  have hoff : c.offset + (before ++ D).length + 2 + line.length =
      (c.advance (lineLength D before line)).offset := by
    simp [lineLength, Nat.add_assoc]
  have hpart := partStep_of_lineCut (D := D) (out ++ before ++ D) hle hrest hp hline
  rw [Cursor.offset_advance, hoff] at hpart
  rw [step_of_pair hD hc hcut hp, if_neg hne, hpart]

/-- **The pass computes the reading, written out, or its fault.** -/
theorem passFrom_eq (hD : D ≠ []) (c : Cursor body) (hc : c.offset < body.length) (out : Bytes) :
    passFrom D body ⟨c.offset, out⟩ = outcome D out (scanFrom .linear D c).result := by
  cases round hD c.rest with
  | noDelimiter h =>
    rw [passFrom_of_lt hc, step_noDelimiter h, scanFrom_noDelimiter h]
    rfl
  | cutLine h hs =>
    rw [passFrom_of_lt hc, step_cutLine hD (Nat.le_of_lt hc) h hs, scanFrom_cutLine hD h hs]
    rfl
  | @close before tail h =>
    have hstep : step D body ⟨c.offset, out⟩ = .ok (.inl (out ++ before ++ D ++ dashes ++ crlf)) := by
      rw [step_of_pair hD (Nat.le_of_lt hc) h rfl, if_pos rfl]
    rw [passFrom_of_lt hc, hstep, scanFrom_close hD h]
    simp [outcome, rendered]
  | @openLine before pair rest h hp hne hl =>
    have hoff : c.offset + (before ++ D).length = (c.advance (before ++ D).length).offset := rfl
    have hstep : step D body ⟨c.offset, out⟩ = _ := step_of_pair hD (Nat.le_of_lt hc) h hp
    rw [if_neg hne, hoff, partStep_openLine (rest_of_cutAt h) hp hl] at hstep
    rw [passFrom_of_lt hc, hstep, scanFrom_openLine hD h hp hne hl]
    rfl
  | @openHeaders before line rest h hf hh =>
    have hstep : step D body ⟨c.offset, out⟩ = _ := step_of_partCut hD h
    rw [if_pos hf, fileStep_openHeaders (h.rest_advance.symm ▸ hh)] at hstep
    rw [passFrom_of_lt hc, hstep, scanFrom_openHeaders hD h hf hh]
    rfl
  | @openPayload before line rest headers afterwards h hf hh hp =>
    have hle := Nat.le_of_lt (offset_lt_of_partCut h)
    have hstep : step D body ⟨c.offset, out⟩ = _ := step_of_partCut hD h
    rw [if_pos hf, fileStep_openPayload hle (h.rest_advance.symm ▸ hh) hp] at hstep
    rw [passFrom_of_lt hc, hstep, scanFrom_openPayload hD h hf hh hp]
    rfl
  | @field before line rest h hf =>
    have hstep : step D body ⟨c.offset, out⟩ = _ := step_of_partCut hD h
    have hnext := passFrom_eq hD (c.advance (lineLength D before line)) (offset_lt_of_partCut h)
      (out ++ before ++ D ++ crlf ++ line)
    rw [if_neg hf] at hstep
    rw [passFrom_of_lt hc, hstep, scanFrom_field hD h hf]
    refine hnext.trans ?_
    cases (scanFrom .linear D (c.advance (lineLength D before line))).result with
    | error f => rfl
    | ok x => simp [outcome, Except.map, rendered]
  | @file before line rest headers stretch after h hf hcut =>
    have hle := Nat.le_of_lt (offset_lt_of_partCut h)
    have hstep : step D body ⟨c.offset, out⟩ = _ := step_of_partCut hD h
    have hlt : (c.advance (fileLength D before line headers stretch)).offset < body.length :=
      Cursor.offset_lt_of_rest_ne_nil ((h.rest_advance_file hcut).symm ▸ hcut.ne_nil hD)
    have hoff : (c.advance (lineLength D before line)).offset +
        (headers ++ headerEnd ++ stretch).length =
          (c.advance (fileLength D before line headers stretch)).offset := by
      simp [fileLength, Nat.add_assoc]
    rw [if_pos hf, fileStep_of_fileCut hD hle (h.rest_advance.symm ▸ hcut), hoff] at hstep
    rw [passFrom_of_lt hc, hstep, scanFrom_file hD h hf hcut]
    refine (passFrom_eq hD (c.advance (fileLength D before line headers stretch)) hlt _).trans ?_
    cases (scanFrom .linear D (c.advance (fileLength D before line headers stretch))).result with
    | error f => rfl
    | ok x => simp [outcome, Except.map, rendered, FileSection.render]
termination_by c.rest.length
decreasing_by
  · rw [h.rest_advance, h.length_eq]
    exact Nat.lt_add_of_pos_left (lineLength_pos _ _ _)
  · rw [h.rest_advance_file hcut, h.length_eq, hcut.length_eq]
    have := lineLength_pos D before line
    omega

/-- **No stretch is out of range**: the pass over a body ends with the text of the body, or with the
fault that the body is refused for. -/
theorem pass_eq (body : Bytes) (boundary : Text) :
    (∃ out, pass (delimiter boundary) body = .ok out ∧
      transcodeBytes .linear body boundary = .ok out) ∨
    ∃ fault : Fault, pass (delimiter boundary) body = .error (.fault fault) ∧
      transcodeBytes .linear body boundary = .error (.malformedMultipart fault.message) := by
  by_cases hb : body = []
  · subst hb
    exact Or.inl ⟨[], by rw [pass, passFrom, if_neg (by simp)], rfl⟩
  have hpass := passFrom_eq (delimiter_ne_nil boundary) (Cursor.first body)
    (List.length_pos_iff.mpr hb) []
  have hscan := result_scan boundary hb
  cases he : (scanFrom .linear (delimiter boundary) (Cursor.first body)).result with
  | error fault =>
    rw [he] at hpass hscan
    exact Or.inr ⟨fault, hpass, by rw [transcodeBytes, hscan]; rfl⟩
  | ok x =>
    rw [he] at hpass hscan
    refine Or.inl ⟨_, hpass, ?_⟩
    rw [transcodeBytes, hscan]
    exact congrArg _ (render_eq _ _ _ _)

end FormCapture.Multipart.Checked
