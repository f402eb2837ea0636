import FormCapture.Proofs.Multipart.Searches

/-! # The seam between a scan and its finder

A scan comes to one header line after the other (`MeetsLines`). It makes one search for each line, two more for
that of a file part, and one for the delimiter that it misses or that closes the body, so there are no more than
`searchBudget` allows: `MeetsLines.length_searches_le`, by induction on the lines.

`transcode_of_agrees` puts this together with what the searches are: a finder that agrees with the linear one on
searches of this kind is asked for nothing else, and what a body is transcoded into is the same with both. -/

namespace FormCapture.Multipart

open FormCapture.Bytes

variable {body D : Bytes} {finder : Finder} {α β : Type}

/-! ### How many searches there are -/

/-- **The first header lines that a scan comes to**, one for each part whose header line ends. After the line of
a file part it goes on only if its headers and its payload end. -/
inductive MeetsLines (D : Bytes) : Bytes → List Bytes → Prop
  | stop {text : Bytes} : (∀ before line rest, ¬ PartCut D text before line rest) → MeetsLines D text []
  | field {text before line rest : Bytes} {lines : List Bytes} : PartCut D text before line rest →
    ¬ NamesFile line → MeetsLines D rest lines → MeetsLines D text (line :: lines)
  | openFile {text before line rest : Bytes} : PartCut D text before line rest → NamesFile line →
    (∀ headers stretch after, ¬ FileCut D rest headers stretch after) → MeetsLines D text [line]
  | file {text before line rest headers stretch after : Bytes} {lines : List Bytes} :
    PartCut D text before line rest → NamesFile line → FileCut D rest headers stretch after →
      MeetsLines D after lines → MeetsLines D text (line :: lines)

/-- Three searches for each line of a file part, one for each other line, and one more. -/
def searchBudget (lines : List Bytes) : Nat :=
  3 * lines.countP (fun line => NamesFile line) + lines.countP (fun line => ¬ NamesFile line) + 1

theorem searchBudget_cons_of_file {line : Bytes} (h : NamesFile line) (lines : List Bytes) :
    searchBudget (line :: lines) = 3 + searchBudget lines := by
  simp only [searchBudget, List.countP_cons, h, decide_true, if_true, not_true, decide_false,
    Bool.false_eq_true, if_false]
  omega

theorem searchBudget_cons_of_field {line : Bytes} (h : ¬ NamesFile line) (lines : List Bytes) :
    searchBudget (line :: lines) = 1 + searchBudget lines := by
  simp only [searchBudget, List.countP_cons, h, decide_true, if_true, not_false_eq_true, decide_false,
    Bool.false_eq_true, if_false]
  omega

theorem exists_meetsLines {D : Bytes} (hD : D ≠ []) (text : Bytes) : ∃ lines, MeetsLines D text lines := by
  by_cases hpart : ∃ before line rest, PartCut D text before line rest
  swap
  · exact ⟨[], .stop fun before line rest h => hpart ⟨before, line, rest, h⟩⟩
  obtain ⟨before, line, rest, hpart⟩ := hpart
  by_cases hf : NamesFile line
  swap
  · obtain ⟨lines, hlines⟩ := exists_meetsLines hD rest
    exact ⟨_, .field hpart hf hlines⟩
  by_cases hcut : ∃ headers stretch after, FileCut D rest headers stretch after
  swap
  · exact ⟨_, .openFile hpart hf fun headers stretch after h => hcut ⟨headers, stretch, after, h⟩⟩
  obtain ⟨headers, stretch, after, hcut⟩ := hcut
  obtain ⟨lines, hlines⟩ := exists_meetsLines hD after
  exact ⟨_, .file hpart hf hcut hlines⟩
termination_by text.length
decreasing_by
  all_goals
    have hpos := lineLength_pos D before line
    have hlen := hpart.length_eq
  · have hfile := hcut.length_eq
    omega
  · omega

/-- The lines that are met in a text that is read are those of its parts. -/
theorem Reads.meetsLines {D text before tail : Bytes} {parts : List Part}
    (h : Reads D text before parts tail) : MeetsLines D text (parts.map (·.line)) := by
  induction h with
  | @close text before tail hcut =>
    refine .stop fun before' line rest h => ?_
    obtain ⟨⟨pair, hp, hne, hcut'⟩, -⟩ := h
    obtain ⟨-, he⟩ := hcut'.unique hcut
    exact hne (List.append_inj he hp).1
  | field hpart hf _ ih => exact .field hpart hf ih
  | file hpart hf hcut _ ih => exact .file hpart hf hcut ih

section Counting

variable {c : Cursor body} {before line rest : Bytes}

theorem length_searches_bind_le {x : Scan α} {f : α → Scan β} {m n : Nat} (hx : x.searches.length ≤ m)
    (hf : ∀ a, x.result = .ok a → (f a).searches.length ≤ n) : (x >>= f).searches.length ≤ m + n := by
  cases hresult : x.result with
  | error fault =>
    rw [searches_bind_of_error hresult]
    exact Nat.le_add_right_of_le hx
  | ok a =>
    rw [searches_bind_of_ok hresult, List.length_append]
    exact Nat.add_le_add hx (hf a hresult)

/-- What the next stage makes of its searches does not matter for the searches. -/
theorem searches_bind_congr {γ : Type} (x : Scan α) {f : α → Scan β} {g : α → Scan γ}
    (h : ∀ a, (f a).searches = (g a).searches) : (x >>= f).searches = (x >>= g).searches := by
  cases hresult : x.result with
  | error fault => rw [searches_bind_of_error hresult, searches_bind_of_error hresult]
  | ok a => rw [searches_bind_of_ok hresult, searches_bind_of_ok hresult, h]

theorem searches_bind_pure (x : Scan α) (f : α → β) :
    (x >>= fun a => pure (f a)).searches = x.searches := by
  cases hresult : x.result with
  | error fault => rw [searches_bind_of_error hresult]
  | ok a => rw [searches_bind_of_ok hresult]; exact List.append_nil _

theorem length_searches_seek (needle : Bytes) (fault : Fault) :
    (seek finder c needle fault).searches.length = 1 := by
  rw [searches_seek]
  rfl

theorem length_searches_scanFile : (scanFile finder D c).searches.length ≤ 2 := by
  refine length_searches_bind_le (m := 1) (n := 1) (length_searches_seek _ _).le fun h _ => ?_
  exact length_searches_bind_le (m := 1) (n := 0) (length_searches_seek _ _).le fun _ _ => Nat.le_refl _

theorem length_searches_scanFile? (line : Bytes) : (scanFile? finder D line c).searches.length ≤ 2 := by
  unfold scanFile?
  split
  · rw [searches_bind_pure]
    exact length_searches_scanFile
  · exact Nat.zero_le _

theorem length_searches_scanFrom_noDelimiter (h : ¬ D <:+: c.rest) :
    (scanFrom .linear D c).searches.length = 1 := by
  have hmissed := seek_of_not_infix h (.noDelimiter c.offset)
  rw [scanFrom, searches_bind_of_error hmissed, length_searches_seek]

theorem length_searches_scanFrom_of_cutAt {after : Bytes} (hD : D ≠ []) (h : CutAt D c.rest before after) :
    (scanFrom .linear D c).searches.length =
      1 + (scanParts .linear D (c.advance (before ++ D).length)).searches.length := by
  obtain ⟨hk, he⟩ := seek_of_cutAt hD h (.noDelimiter c.offset)
  have hc : (c.moveTo (c.offset + before.length) hk.1).advance D.length =
      c.advance (before ++ D).length := Cursor.eq_of_offset_eq (by simp [Nat.add_assoc])
  rw [scanFrom, searches_bind_of_ok he, List.length_append, length_searches_seek, searches_bind_pure, hc]

theorem length_searches_scanFrom_part (hD : D ≠ []) (h : PartCut D c.rest before line rest) :
    (scanFrom .linear D c).searches.length =
      1 + (scanFile? .linear D line (c.advance (lineLength D before line)) >>= fun x =>
        scanFrom .linear D x.2.val).searches.length := by
  obtain ⟨⟨pair, hp, hne, hcut⟩, hline⟩ := h
  rw [length_searches_scanFrom_of_cutAt hD hcut, scanParts_part hp hne (rest_of_cutAt hcut) hline,
    advance_lineLength]
  congr 2
  refine searches_bind_congr _ fun x => searches_bind_congr _ fun next => ?_
  rw [searches_bind_pure]
  rfl

/-- A file part costs two more searches, before the scan goes on behind the file. -/
theorem length_searches_scanFrom_file (hD : D ≠ []) (h : PartCut D c.rest before line rest)
    (hf : NamesFile line) {n : Nat}
    (hnext : ∀ x, (scanFile .linear D (c.advance (lineLength D before line))).result = .ok x →
      (scanFrom .linear D x.2.val).searches.length ≤ n) :
    (scanFrom .linear D c).searches.length ≤ 3 + n := by
  have hline : (scanFile? .linear D line (c.advance (lineLength D before line)) >>= fun x =>
      scanFrom .linear D x.2.val).searches.length ≤ 2 + n := by
    refine length_searches_bind_le (length_searches_scanFile? line) fun x hx => ?_
    rw [result_scanFile? hf] at hx
    cases hfile : (scanFile .linear D (c.advance (lineLength D before line))).result with
    | error fault => rw [hfile] at hx; cases hx
    | ok y => rw [hfile] at hx; cases hx; exact hnext y hfile
  rw [length_searches_scanFrom_part hD h]
  omega

/-- Where no file is cut off, its headers do not end, or its payload does not. -/
theorem exists_fault_of_not_fileCut (hD : D ≠ [])
    (h : ∀ headers stretch after, ¬ FileCut D c.rest headers stretch after) :
    ∃ fault, (scanFile .linear D c).result = .error fault := by
  cases fileMeets hD c.rest with
  | openHeaders hh => exact ⟨_, scanFile_openHeaders hh⟩
  | openPayload hh hp => exact ⟨_, scanFile_openPayload hh hp⟩
  | cut hcut => exact absurd hcut (h _ _ _)

/-- **The searches of a scan are within the budget** of the lines that it comes to. -/
theorem MeetsLines.length_searches_le {text : Bytes} {lines : List Bytes} (hD : D ≠ [])
    (h : MeetsLines D text lines) : ∀ c : Cursor body, c.rest = text →
      (scanFrom .linear D c).searches.length ≤ searchBudget lines := by
  induction h with
  | @stop text hstop =>
    rintro c rfl
    suffices hone : (scanFrom .linear D c).searches.length = 1 from hone.le
    cases round hD c.rest with
    | noDelimiter hno => exact length_searches_scanFrom_noDelimiter hno
    | cutLine hcut hs =>
      rw [length_searches_scanFrom_of_cutAt hD hcut, scanParts_cutLine (by rwa [rest_of_cutAt hcut])]
      rfl
    | close hcut =>
      rw [length_searches_scanFrom_of_cutAt hD hcut, scanParts_close (rest_of_cutAt hcut)]
      rfl
    | openLine hcut hp hne hl =>
      rw [length_searches_scanFrom_of_cutAt hD hcut, scanParts_openLine hp hne (rest_of_cutAt hcut) hl]
      rfl
    | field hpart _ | openHeaders hpart _ _ | openPayload hpart _ _ _ | file hpart _ _ =>
      exact absurd hpart (hstop _ _ _)
  | @field text before line rest lines hpart hf _ ih =>
    rintro c rfl
    have hnext := ih (c.advance (lineLength D before line)) hpart.rest_advance
    rw [length_searches_scanFrom_part hD hpart, searchBudget_cons_of_field hf,
      scanFile?, if_neg (mt occursIgnoringCase_fileMark_iff.mp hf)]
    exact Nat.add_le_add_left hnext 1
  | @openFile text before line rest hpart hf hopen =>
    rintro c rfl
    have hfault := exists_fault_of_not_fileCut hD (hpart.rest_advance.symm ▸ hopen)
    rw [searchBudget_cons_of_file hf]
    refine length_searches_scanFrom_file hD hpart hf fun x hx => ?_
    obtain ⟨fault, hfault⟩ := hfault
    rw [hfault] at hx
    cases hx
  | @file text before line rest headers stretch after lines hpart hf hcut _ ih =>
    rintro c rfl
    obtain ⟨hle, hfile⟩ := scanFile_of_fileCut hD (hpart.rest_advance.symm ▸ hcut)
    have hnext := ih (c.advance (fileLength D before line headers stretch)) (hpart.rest_advance_file hcut)
    rw [← advance_fileLength] at hnext
    rw [searchBudget_cons_of_file hf]
    refine length_searches_scanFrom_file hD hpart hf fun x hx => ?_
    rw [hfile] at hx
    cases hx
    exact hnext

end Counting

/-! ### Scans -/

section Traces

variable {boundary : Text}

theorem searches_scan (hb : body ≠ []) : (scan .linear body boundary).searches =
    (scanFrom .linear (delimiter boundary) (Cursor.first body)).searches := by
  rw [scan, if_neg (by simpa using hb)]
  exact searches_bind_congr _ fun _ => searches_bind_congr _ fun _ => rfl

/-- **What a scan asks its finder.** All that it comes to depends on the answers to its searches; each of them
is lawful, and begins where the one before it found something, or further on. There are no more of them than
the lines that it comes to allow for, which are those of the parts if it comes to a document. -/
structure Asks (body : Bytes) (boundary : Text) (run : Scan (Option Document)) : Prop where
  all : ∀ other, Replies other body run.searches → scan other body boundary = run
  lawful : ∀ search ∈ run.searches, search.Lawful (delimiter boundary) body
  forward : run.searches.IsChain Search.Before
  meets : ∃ lines, MeetsLines (delimiter boundary) body lines
  parts : ∀ document, run.result = .ok (some document) →
    MeetsLines (delimiter boundary) body (document.parts.map (·.line))
  few : ∀ lines, MeetsLines (delimiter boundary) body lines → run.searches.length ≤ searchBudget lines

theorem asks_scan_linear (body : Bytes) (boundary : Text) :
    Asks body boundary (scan .linear body boundary) := by
  have hD := delimiter_ne_nil boundary
  have hforward : Forward .linear (delimiter boundary) body 0 (scan .linear body boundary) _ :=
    forward_scan body boundary
  refine ⟨fun other h => scan_eq_of_replies h, hforward.lawful, hforward.chain,
    exists_meetsLines hD body, ?_, ?_⟩
  · intro document hscan
    obtain ⟨tail, hreads, -⟩ := scan_eq_ok_iff.mp hscan
    exact hreads.meetsLines
  · intro lines hlines
    by_cases hb : body = []
    · subst hb
      exact Nat.zero_le _
    · rw [searches_scan hb]
      exact hlines.length_searches_le hD (Cursor.first body) rfl

end Traces

/-- **A finder can be put in place of the linear one** if it agrees with that one on needles that are not empty,
from a place up to the end. -/
theorem transcode_of_agrees (h : finder.Agrees) (body : Bytes) (boundary : Text) :
    transcodeBytes finder body boundary = transcodeBytes .linear body boundary ∧
      transcode finder body boundary = transcode .linear body boundary ∧
      Replies finder body (scan finder body boundary).searches ∧
      Asks body boundary (scan finder body boundary) := by
  have hsame := scan_eq_of_agrees h body boundary
  have hbytes : transcodeBytes finder body boundary = transcodeBytes .linear body boundary := by
    simp only [transcodeBytes, hsame]
  refine ⟨hbytes, by rw [transcode, transcode, hbytes], ?_, ?_⟩
  · have hforward : Forward finder (delimiter boundary) body 0 (scan finder body boundary) _ :=
      forward_scan body boundary
    exact hforward.replies
  · rw [hsame]
    exact asks_scan_linear body boundary

/-- A finder that finds an empty needle at once, and finds nothing unless it may look up to the end. -/
def wayward : Finder where
  find place needle stop :=
    if needle = [] then some place.offset
    else if stop = place.size then place.find needle stop
    else none

/-- A form with a field and a file whose payload is not closed. -/
def openBody : Bytes :=
  ofAscii "--X\r\nname=a\r\n\r\n1\r\n--X\r\nfilename=b\r\n\r\nA\r\n-"

theorem transcode_of_agrees_wayward :
    wayward.Agrees ∧
      wayward.find (Cursor.first openBody) [] 0 ≠ Finder.linear.find (Cursor.first openBody) [] 0 ∧
      ((transcodeBytes wayward openBody ['X'] = transcodeBytes .linear openBody ['X'] ∧
        transcode wayward openBody ['X'] = transcode .linear openBody ['X'] ∧
        Replies wayward openBody (scan wayward openBody ['X']).searches ∧
        Asks openBody ['X'] (scan wayward openBody ['X'])) ∧
      (scan wayward openBody ['X']).searches.map (fun search => (search.start, search.result)) =
        [(0, some 0), (11, some 18), (33, some 33), (37, none)]) := by
  have hagrees : wayward.Agrees := by
    intro haystack place needle hne _
    simp only [wayward, hne, if_false, place.size_eq, if_true]
    rfl
  exact ⟨hagrees, by decide +kernel, transcode_of_agrees hagrees openBody ['X'], by decide +kernel⟩

end FormCapture.Multipart
