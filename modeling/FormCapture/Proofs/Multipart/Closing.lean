import FormCapture.Proofs.Multipart.Reading

/-! # Where a body is closed

A reading stops at the closing dashes, and each cut that it makes before depends only on what stands before
the end of what is looked for. So the bytes behind the dashes can be anything (`Reads.exists_retail`), and of
a text there is one reading only (`Reads.unique`). Together they say that no beginning of a body that breaks off
before the dashes is a body itself: what is read in it would be read in the whole body too, which would then
have been closed there.

`transcodeBytes_closed` says both of the bodies that are accepted. -/

namespace FormCapture.Multipart

open FormCapture.Bytes

section Readings

variable {D text before line rest tail : Bytes} {parts : List Part}

/-- A part stays cut off when something else follows its header line, with the same two bytes before it. -/
theorem PartCut.exists_retail (hD : D ≠ []) (h : PartCut D text before line rest) :
    ∃ pair, text = before ++ (D ++ (pair ++ (line ++ rest))) ∧ ∀ rest', LineCut line rest' →
      PartCut D (before ++ (D ++ (pair ++ (line ++ rest')))) before line rest' := by
  obtain ⟨⟨pair, hp, hne, hcut⟩, -⟩ := h
  exact ⟨pair, hcut.eq, fun _ hline => ⟨⟨pair, hp, hne, hcut.retail hD _⟩, hline⟩⟩

/-- A file stays cut off when something else follows the delimiter behind it. -/
theorem FileCut.retail {headers stretch last : Bytes} (hD : D ≠ [])
    (h : FileCut D rest headers stretch (D ++ last)) (last' : Bytes) :
    FileCut D (headers ++ (headerEnd ++ (stretch ++ (D ++ last')))) headers stretch (D ++ last') := by
  obtain ⟨_, hhead, hpay, -⟩ := h
  exact ⟨last', hhead.retail headerEnd_ne_nil _, hpay.retail hD _, rfl⟩

theorem FileCut.eq {headers stretch after : Bytes} (h : FileCut D rest headers stretch after) :
    rest = headers ++ (headerEnd ++ (stretch ++ after)) := by
  obtain ⟨_, hhead, -, -⟩ := h
  exact hhead.eq

/-- **What stands behind the closing dashes does not matter.** The text is made of what stands before its first
delimiter, that delimiter, more bytes up to the closing dashes, and the tail, which can be replaced. The
induction is on the reading; a header line is followed by what the next cut begins with, so it stays a line. -/
theorem Reads.exists_retail (hD : D ≠ []) (h : Reads D text before parts tail) :
    ∃ more, text = before ++ (D ++ (more ++ tail)) ∧ D ++ dashes <:+ D ++ more ∧
      ∀ tail', Reads D (before ++ (D ++ (more ++ tail'))) before parts tail' := by
  induction h with
  | close hcut => exact ⟨dashes, hcut.eq, List.suffix_rfl, fun _ => .close (hcut.retail hD _)⟩
  | @field text before line rest next tail parts hpart hf _ ih =>
    obtain ⟨more, rfl, hclosed, hagain⟩ := ih
    obtain ⟨pair, htext, hretail⟩ := hpart.exists_retail hD
    have hfront : ∀ tail', next ++ (D ++ (more ++ tail')) = (next ++ (D ++ more)) ++ tail' := by simp
    refine ⟨pair ++ (line ++ (next ++ (D ++ more))), by simp [htext], ?_, fun tail' => ?_⟩
    · exact hclosed.trans ⟨D ++ (pair ++ (line ++ next)), by simp⟩
    · have hline : LineCut line (next ++ (D ++ (more ++ tail'))) := by
        rw [hfront]
        exact (hfront tail ▸ hpart.line).retail (by simp [hD]) tail'
      simpa using Reads.field (hretail _ hline) hf (hagain tail')
  | @file text before line rest headers stretch after next tail parts hpart hf hfile hread ih =>
    obtain rfl := hfile.before_eq_nil hread
    obtain ⟨more, rfl, hclosed, hagain⟩ := ih
    obtain ⟨pair, htext, hretail⟩ := hpart.exists_retail hD
    have hfront : ∀ tail', headers ++ (headerEnd ++ (stretch ++ (D ++ (more ++ tail')))) =
        (headers ++ headerEnd) ++ (stretch ++ (D ++ (more ++ tail'))) := by simp
    refine ⟨pair ++ (line ++ (headers ++ (headerEnd ++ (stretch ++ (D ++ more))))), ?_, ?_,
      fun tail' => ?_⟩
    · simp [htext, hfile.eq]
    · exact hclosed.trans ⟨D ++ (pair ++ (line ++ (headers ++ (headerEnd ++ stretch)))), by simp⟩
    · have hline : LineCut line (headers ++ (headerEnd ++ (stretch ++ (D ++ (more ++ tail'))))) := by
        have hold := hpart.line
        rw [hfile.eq, List.nil_append, hfront] at hold
        rw [hfront]
        exact hold.retail (by simp [headerEnd_ne_nil]) _
      simpa using Reads.file (hretail _ hline) hf (hfile.retail hD (more ++ tail')) (hagain tail')

/-- **Of a text there is one reading.** -/
theorem Reads.unique {before' tail' : Bytes} {parts' : List Part} (hD : D ≠ [])
    (h : Reads D text before parts tail) (h' : Reads D text before' parts' tail') :
    before = before' ∧ parts = parts' ∧ tail.length = tail'.length := by
  obtain ⟨stop, he, hs⟩ := h.scanFrom_eq hD (Cursor.first text) rfl
  obtain ⟨stop', he', hs'⟩ := h'.scanFrom_eq hD (Cursor.first text) rfl
  rw [he] at he'
  cases he'
  exact ⟨rfl, rfl, by omega⟩

/-- What is read in a text is read in any longer one, with the addition behind the closing dashes. -/
theorem Reads.append (hD : D ≠ []) (h : Reads D text before parts tail) (added : Bytes) :
    Reads D (text ++ added) before parts (tail ++ added) := by
  obtain ⟨more, rfl, -, hagain⟩ := h.exists_retail hD
  simpa using hagain (tail ++ added)

/-- **A text that breaks off before its closing dashes cannot be read.** -/
theorem Reads.not_reads_take (hD : D ≠ []) (h : Reads D text before parts tail) {k : Nat}
    (hk : k + tail.length < text.length) {before' tail' : Bytes} {parts' : List Part} :
    ¬ Reads D (text.take k) before' parts' tail' := by
  intro hshort
  -- the whole text would be closed within its first `k` bytes
  have hwhole := hshort.append hD (text.drop k)
  rw [List.take_append_drop] at hwhole
  have hlength := (h.unique hD hwhole).2.2
  rw [List.length_append, List.length_drop] at hlength
  omega

end Readings

/-! ### Bodies that break off -/

variable {body out : Bytes} {boundary : Text}

/-- A body that is not accepted is refused as malformed. -/
theorem transcodeBytes_ok_or_malformed (finder : Finder) (body : Bytes) (boundary : Text) :
    (∃ out, transcodeBytes finder body boundary = .ok out) ∨
      ∃ fault : Fault, transcodeBytes finder body boundary =
        .error (.malformedMultipart fault.message) := by
  unfold transcodeBytes
  split
  · exact Or.inr ⟨_, rfl⟩
  · exact Or.inl ⟨_, rfl⟩
  · exact Or.inl ⟨_, rfl⟩

/-- **The body is closed at this offset**: the closing dashes stand right before it, whatever follows them the
text is the same, and of the body up to any earlier place, unless that is empty, there is no text at all. -/
structure ClosedAt (body : Bytes) (boundary : Text) (out : Bytes) (stop : Nat) : Prop where
  within : stop ≤ body.length
  dashes : delimiter boundary ++ dashes <:+ body.take stop
  epilogue : ∀ x, transcodeBytes .linear (body.take stop ++ x) boundary = .ok out
  broken : ∀ k, 0 < k → k < stop → ∃ fault : Fault,
    transcodeBytes .linear (body.take k) boundary = .error (.malformedMultipart fault.message)

/-- **A body that is accepted is closed where its scan stops**, just past the closing dashes. -/
theorem transcodeBytes_closed (hb : body ≠ []) (h : transcodeBytes .linear body boundary = .ok out) :
    ∃ document, (scan .linear body boundary).result = .ok (some document) ∧
      ClosedAt body boundary out document.stop := by
  have hD := delimiter_ne_nil boundary
  obtain ⟨document, tail, hscan, hreads, hstop, rfl⟩ := exists_document hb h
  refine ⟨document, hscan, ?_⟩
  obtain ⟨more, hbody, hclosed, hagain⟩ := hreads.exists_retail hD
  have htake : body.take document.stop = document.preamble ++ (delimiter boundary ++ more) := by
    have hsplit : body = (document.preamble ++ (delimiter boundary ++ more)) ++ tail := by
      rw [List.append_assoc, List.append_assoc]
      exact hbody
    have hlength := congrArg List.length hsplit
    rw [List.length_append] at hlength
    rw [hsplit, List.take_left' (by omega)]
  refine ⟨by omega, ?_, fun x => ?_, fun k hk hlt => ?_⟩
  · rw [htake]
    exact hclosed.trans (List.suffix_append _ _)
  · refine transcodeBytes_eq_ok_iff.mpr (Or.inr ⟨_, _, x, ?_, rfl⟩)
    rw [htake, List.append_assoc, List.append_assoc]
    exact hagain x
  · refine (transcodeBytes_ok_or_malformed .linear (body.take k) boundary).resolve_left ?_
    rintro ⟨short, hshort⟩
    rcases transcodeBytes_eq_ok_iff.mp hshort with ⟨hnil, -⟩ | ⟨_, _, _, hread, -⟩
    · exact (List.take_eq_nil_iff.mp hnil).elim (Nat.ne_of_gt hk) hb
    · exact hreads.not_reads_take hD (by omega) hread

/-- A form with a field and a file, and an epilogue that looks like the beginning of another part. -/
def trailedBody : Bytes :=
  ofAscii "--X\r\nname=a\r\n\r\n1\r\n--X\r\nfilename=b\r\n\r\nA\r\n--X--\r\n--X\r\nname=c"

/-- What it is transcoded into. -/
def trailedOut : Bytes :=
  ofAscii ("--X\r\nname=a\r\n\r\n1\r\n--X\r\nfilename=b\r\nContent-Length: 1\r\n" ++
    "Content-Encoding: base64\r\n\r\nQQ==\r\n--X--\r\n")

theorem transcodeBytes_closed_trailedBody :
    trailedBody ≠ [] ∧ transcodeBytes .linear trailedBody ['X'] = .ok trailedOut ∧
      ∃ document, (scan .linear trailedBody ['X']).result = .ok (some document) ∧
        ClosedAt trailedBody ['X'] trailedOut document.stop := by
  have hne : trailedBody ≠ [] := by decide +kernel
  have hok : transcodeBytes .linear trailedBody ['X'] = .ok trailedOut := by decide +kernel
  exact ⟨hne, hok, transcodeBytes_closed hne hok⟩

end FormCapture.Multipart
