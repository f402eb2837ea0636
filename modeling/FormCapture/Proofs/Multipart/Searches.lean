import FormCapture.Proofs.Multipart.Reading
import Mathlib.Data.List.Chain

/-! # The searches of a scan

A scan notes what it asks its finder for. A stage of it goes forward (`Forward`) if each search is for a
delimiter or a blank line, up to the end of the body, and begins where the search before it found something,
or further on; `Forward.bind` puts stages together, and `forward_scan` says it of a whole scan, with any finder.

What a scan comes to depends on the answers to its searches and on nothing else of the finder:
`scan_eq_of_replies`. So a finder that agrees with the linear one on such searches can be put in its place
(`scan_eq_of_agrees`). -/

namespace FormCapture.Bytes

/-- The finder answers as the linear one wherever a needle that is not empty is looked for from a place in a
byte string to its end. -/
def Finder.Agrees (finder : Finder) : Prop :=
  ∀ {haystack : Bytes} (place : Cursor haystack) (needle : Bytes), needle ≠ [] →
    place.offset ≤ haystack.length →
      finder.find place needle haystack.length = Finder.linear.find place needle haystack.length

end FormCapture.Bytes

namespace FormCapture.Multipart

open FormCapture.Bytes

variable {body D : Bytes} {finder : Finder} {α β : Type}

/-! ### Stages that go forward -/

/-- A search of a scan: for a delimiter or a blank line, from a place in the body to its end. -/
structure Search.Lawful (D body : Bytes) (search : Search) : Prop where
  needle : search.needle = D ∨ search.needle = headerEnd
  start : search.start ≤ body.length
  stop : search.stop = body.length

/-- The first search finds something, not before where it begins, and the second begins there or further on. -/
def Search.Before (first second : Search) : Prop :=
  ∃ k, first.result = some k ∧ first.start ≤ k ∧ k ≤ second.start

/-- In the body, the finder answers these searches as they were answered. -/
def Replies (finder : Finder) (body : Bytes) (searches : List Search) : Prop :=
  ∀ search ∈ searches, ∀ place : Cursor body, place.offset = search.start →
    finder.find place search.needle search.stop = search.result

/-- **A stage goes forward** from the place `start`: each of its searches begins where the one before it found
something, or further on; and if it succeeds, it has come to a place that is not before the last find. -/
structure Forward (finder : Finder) (D body : Bytes) (start : Nat) (stage : Scan α)
    (place : α → Nat) : Prop where
  lawful : ∀ search ∈ stage.searches, search.Lawful D body
  replies : Replies finder body stage.searches
  chain : stage.searches.IsChain Search.Before
  head : ∀ search ∈ stage.searches.head?, start ≤ search.start
  last : ∀ a, stage.result = .ok a → ∀ search ∈ stage.searches.getLast?,
    ∃ k, search.result = some k ∧ search.start ≤ k ∧ k ≤ place a
  within : ∀ a, stage.result = .ok a → start ≤ place a ∧ place a ≤ body.length

section Stages

variable {start start' : Nat} {place : α → Nat}

theorem searches_bind_of_ok {stage : Scan α} {a : α} (h : stage.result = .ok a) (f : α → Scan β) :
    (stage >>= f).searches = stage.searches ++ (f a).searches := by
  change (stage.andThen f).searches = _
  simp only [Scan.andThen, h]

theorem searches_bind_of_error {stage : Scan α} {fault : Fault} (h : stage.result = .error fault)
    (f : α → Scan β) : (stage >>= f).searches = stage.searches := by
  change (stage.andThen f).searches = _
  simp only [Scan.andThen, h]

theorem Forward.earlier {stage : Scan α} (h : Forward finder D body start stage place)
    (hs : start' ≤ start) : Forward finder D body start' stage place where
  lawful := h.lawful
  replies := h.replies
  chain := h.chain
  head search hmem := Nat.le_trans hs (h.head search hmem)
  last := h.last
  within a ha := ⟨Nat.le_trans hs (h.within a ha).1, (h.within a ha).2⟩

theorem forward_fail (fault : Fault) : Forward finder D body start (.fail fault : Scan α) place where
  lawful _ hmem := absurd hmem List.not_mem_nil
  replies _ hmem := absurd hmem List.not_mem_nil
  chain := .nil
  head _ hmem := nomatch hmem
  last _ ha := nomatch ha
  within _ ha := nomatch ha

theorem forward_pure {a : α} (hs : start ≤ place a) (hb : place a ≤ body.length) :
    Forward finder D body start (pure a : Scan α) place where
  lawful _ hmem := absurd hmem List.not_mem_nil
  replies _ hmem := absurd hmem List.not_mem_nil
  chain := .nil
  head _ hmem := nomatch hmem
  last _ _ _ hmem := nomatch hmem
  within _ ha := by cases ha; exact ⟨hs, hb⟩

theorem Forward.map {stage : Scan α} (h : Forward finder D body start stage place) {f : α → β}
    {place' : β → Nat} (hf : ∀ a, place' (f a) = place a) :
    Forward finder D body start (f <$> stage) place' := by
  have hresult : ∀ b, (f <$> stage).result = .ok b →
      ∃ a, stage.result = .ok a ∧ place' b = place a := by
    intro b hb
    rw [result_map] at hb
    cases ha : stage.result with
    | error fault => rw [ha] at hb; cases hb
    | ok a => rw [ha] at hb; cases hb; exact ⟨a, rfl, hf a⟩
  refine ⟨h.lawful, h.replies, h.chain, h.head, fun b hb => ?_, fun b hb => ?_⟩
  · obtain ⟨a, ha, hplace⟩ := hresult b hb
    rw [hplace]
    exact h.last a ha
  · obtain ⟨a, ha, hplace⟩ := hresult b hb
    rw [hplace]
    exact h.within a ha

/-- **One stage after the other** goes forward if both do and the second begins where the first has come to. -/
theorem Forward.bind {stage : Scan α} {f : α → Scan β} {place' : β → Nat}
    (h : Forward finder D body start stage place)
    (hf : ∀ a, stage.result = .ok a → Forward finder D body (place a) (f a) place') :
    Forward finder D body start (stage >>= f) place' := by
  cases hresult : stage.result with
  | error fault =>
    have hsearches := searches_bind_of_error hresult f
    have hfails : ∀ b, (stage >>= f).result ≠ .ok b := by
      intro b hb
      rw [result_bind, hresult] at hb
      cases hb
    exact {
      lawful := hsearches ▸ h.lawful
      replies := hsearches ▸ h.replies
      chain := hsearches ▸ h.chain
      head := hsearches ▸ h.head
      last := fun b hb => absurd hb (hfails b)
      within := fun b hb => absurd hb (hfails b) }
  | ok a =>
    have hnext := hf a hresult
    obtain ⟨hstart, -⟩ := h.within a hresult
    have hsearches := searches_bind_of_ok hresult f
    have hsame : (stage >>= f).result = (f a).result := by rw [result_bind, hresult]; rfl
    refine ⟨?lawful, ?replies, ?chain, ?head, ?last, ?within⟩
    case lawful =>
      rw [hsearches]
      exact List.forall_mem_append.mpr ⟨h.lawful, hnext.lawful⟩
    case replies =>
      rw [hsearches]
      exact List.forall_mem_append.mpr ⟨h.replies, hnext.replies⟩
    case chain =>
      rw [hsearches]
      refine h.chain.append hnext.chain fun first hfirst second hsecond => ?_
      obtain ⟨k, hk, hfrom, hto⟩ := h.last a hresult first hfirst
      exact ⟨k, hk, hfrom, Nat.le_trans hto (hnext.head second hsecond)⟩
    case head =>
      rw [hsearches]
      intro search hmem
      rw [List.head?_append] at hmem
      rcases hhead : stage.searches.head? with _ | first
      · rw [hhead] at hmem
        exact Nat.le_trans hstart (hnext.head search hmem)
      · rw [hhead] at hmem
        exact h.head search (hhead ▸ hmem)
    case last =>
      rw [hsearches, hsame]
      intro b hb search hmem
      rw [List.getLast?_append] at hmem
      rcases hlast : (f a).searches.getLast? with _ | later
      · rw [hlast] at hmem
        obtain ⟨k, hk, hfrom, hto⟩ := h.last a hresult search hmem
        exact ⟨k, hk, hfrom, Nat.le_trans hto (hnext.within b hb).1⟩
      · rw [hlast] at hmem
        exact hnext.last b hb search (hlast ▸ hmem)
    case within =>
      rw [hsame]
      intro b hb
      obtain ⟨hle, hin⟩ := hnext.within b hb
      exact ⟨Nat.le_trans hstart hle, hin⟩

end Stages

/-! ### The stages of a scan -/

section Scans

variable {c : Cursor body}

theorem searches_seek (needle : Bytes) (fault : Fault) : (seek finder c needle fault).searches =
    [⟨needle, c.offset, c.size, finder.find c needle c.size⟩] := by
  simp only [seek]
  split
  · rfl
  · split <;> rfl

theorem forward_seek (hc : c.offset ≤ body.length) {needle : Bytes} (hn : needle = D ∨ needle = headerEnd)
    (fault : Fault) : Forward finder D body c.offset (seek finder c needle fault) Subtype.val := by
  have hlawful : Search.Lawful D body ⟨needle, c.offset, c.size, finder.find c needle c.size⟩ :=
    ⟨hn, hc, c.size_eq⟩
  have hreplies : Replies finder body [⟨needle, c.offset, c.size, finder.find c needle c.size⟩] := by
    intro search hmem place hplace
    obtain rfl := List.mem_singleton.mp hmem
    obtain rfl := Cursor.eq_of_offset_eq hplace
    rfl
  have hresult : ∀ k, (seek finder c needle fault).result = .ok k →
      finder.find c needle c.size = some k.val := by
    intro k hk
    simp only [seek] at hk
    split at hk
    · cases hk
    · next hfind =>
      split at hk
      · cases hk; exact hfind
      · cases hk
  refine ⟨?lawful, ?replies, ?chain, ?head, ?last, fun k _ => ?within⟩
  case lawful =>
    rw [searches_seek]
    exact List.forall_mem_singleton.mpr hlawful
  case replies =>
    rw [searches_seek]
    exact hreplies
  case chain =>
    rw [searches_seek]
    exact .singleton _
  case head =>
    rw [searches_seek]
    intro search hmem
    cases hmem
    exact Nat.le_refl _
  case last =>
    rw [searches_seek]
    intro k hk search hmem
    cases hmem
    exact ⟨k.val, hresult k hk, k.property.1, Nat.le_refl _⟩
  case within =>
    obtain ⟨hle, hin⟩ := k.property
    exact ⟨hle, Nat.le_trans (Nat.le_add_right _ _) hin⟩

theorem forward_scanFile (hc : c.offset ≤ body.length) :
    Forward finder D body c.offset (scanFile finder D c) fun x => x.2.val.offset := by
  unfold scanFile
  refine (forward_seek hc (Or.inr rfl) _).bind fun h _ => ?_
  refine Forward.earlier ((forward_seek ?_ (Or.inl rfl) _).bind fun next _ => ?_) (Nat.le_add_right _ _)
  · exact h.property.2
  · exact forward_pure (Nat.le_refl _) (Nat.le_trans (Nat.le_add_right _ _) next.property.2)

theorem forward_scanFile? (hc : c.offset ≤ body.length) (line : Bytes) :
    Forward finder D body c.offset (scanFile? finder D line c) fun x => x.2.val.offset := by
  unfold scanFile?
  split
  · refine (forward_scanFile hc).bind fun x hx => ?_
    exact forward_pure (Nat.le_refl _) ((forward_scanFile hc).within x hx).2
  · exact forward_pure (Nat.le_refl _) hc

/-- The recursion is that of the scan: the next round begins behind a delimiter, a line and what follows it. -/
theorem forward_scanParts (c : Cursor body) :
    Forward finder D body c.offset (scanParts finder D c) Prod.snd := by
  cases partMeets c.rest with
  | cutLine hs =>
    rw [scanParts_cutLine hs]
    exact forward_fail _
  | @close tail he =>
    rw [scanParts_close he]
    have hlen := Cursor.offset_add_length_rest (c := c) (by rw [he]; simp [dashes, Bytes.ofAscii])
    rw [he, List.length_append, show dashes.length = 2 from rfl] at hlen
    exact forward_pure (Nat.le_add_right _ _) (by omega)
  | openLine hp hne he hl =>
    rw [scanParts_openLine hp hne he hl]
    exact forward_fail _
  | @line pair line rest hp hne he hline =>
    rw [scanParts_part hp hne he hline]
    have hafter : (c.advance (2 + line.length)).offset ≤ body.length := by
      have hlen := Cursor.offset_add_length_rest (c := c) (by rw [he]; simp [hline.rest_ne_nil])
      rw [he, List.length_append, List.length_append, hp] at hlen
      rw [Cursor.offset_advance]
      omega
    have hfile : Forward finder D body _ (scanFile? finder D line (c.advance (2 + line.length))) _ :=
      forward_scanFile? hafter line
    refine Forward.earlier (hfile.bind fun x hx => ?_) (Nat.le_add_right _ _)
    refine (forward_seek (hfile.within x hx).2 (Or.inl rfl) _).bind fun next _ => ?_
    exact ((forward_scanParts _).earlier (Nat.le_add_right _ _)).map fun _ => rfl
termination_by body.length - c.offset
decreasing_by
  have hpast : c.offset + (2 + line.length) ≤ next.val := Nat.le_trans x.2.property next.property.1
  simp only [Cursor.offset_moveTo, Cursor.offset_advance] at hafter ⊢
  omega

/-- **The searches of a scan go forward**, whatever finder makes them. -/
theorem forward_scan (body : Bytes) (boundary : Text) : Forward finder (delimiter boundary) body 0
    (scan finder body boundary) fun _ => body.length := by
  unfold scan
  split
  · exact forward_pure (Nat.zero_le _) (Nat.le_refl _)
  · refine (forward_seek (c := Cursor.first body) (Nat.zero_le _) (Or.inl rfl) _).bind fun next _ => ?_
    refine ((forward_scanParts _).earlier (Nat.le_add_right _ _)).bind fun found hfound => ?_
    exact forward_pure ((forward_scanParts _).within found hfound).2 (Nat.le_refl _)

end Scans

/-! ### Finders that answer alike -/

section Finders

variable {other : Finder} {c : Cursor body}

theorem bind_eq_of_replies {x y : Scan α} {f g : α → Scan β} (hx : Replies other body x.searches → y = x)
    (hf : ∀ a, x.result = .ok a → Replies other body (f a).searches → g a = f a)
    (h : Replies other body (x >>= f).searches) : (y >>= g) = x >>= f := by
  cases hresult : x.result with
  | error fault =>
    rw [searches_bind_of_error hresult] at h
    rw [hx h]
    change x.andThen g = x.andThen f
    simp only [Scan.andThen, hresult]
  | ok a =>
    rw [searches_bind_of_ok hresult, Replies, List.forall_mem_append] at h
    rw [hx h.1]
    change x.andThen g = x.andThen f
    simp only [Scan.andThen, hresult, hf a hresult h.2]

theorem seek_eq_of_replies {needle : Bytes} {fault : Fault}
    (h : Replies other body (seek finder c needle fault).searches) :
    seek other c needle fault = seek finder c needle fault := by
  rw [searches_seek] at h
  have hfind : other.find c needle c.size = finder.find c needle c.size :=
    h _ (List.mem_singleton.mpr rfl) c rfl
  simp only [seek, hfind]

theorem scanFile_eq_of_replies (h : Replies other body (scanFile finder D c).searches) :
    scanFile other D c = scanFile finder D c := by
  refine bind_eq_of_replies seek_eq_of_replies (fun k _ => ?_) h
  exact bind_eq_of_replies seek_eq_of_replies fun _ _ _ => rfl

theorem scanFile?_eq_of_replies {line : Bytes} (h : Replies other body (scanFile? finder D line c).searches) :
    scanFile? other D line c = scanFile? finder D line c := by
  unfold scanFile? at h ⊢
  split
  · next hmark =>
    rw [if_pos hmark] at h
    exact bind_eq_of_replies scanFile_eq_of_replies (fun _ _ _ => rfl) h
  · rfl

theorem scanParts_eq_of_replies (c : Cursor body) (h : Replies other body (scanParts finder D c).searches) :
    scanParts other D c = scanParts finder D c := by
  cases partMeets c.rest with
  | cutLine hs => rw [scanParts_cutLine hs, scanParts_cutLine hs]
  | close he => rw [scanParts_close he, scanParts_close he]
  | openLine hp hne he hl => rw [scanParts_openLine hp hne he hl, scanParts_openLine hp hne he hl]
  | @line pair line rest hp hne he hline =>
    have hpos : c.offset < body.length :=
      Cursor.offset_lt_of_rest_ne_nil (by rw [he]; simp [hline.rest_ne_nil])
    rw [scanParts_part hp hne he hline] at h ⊢
    rw [scanParts_part hp hne he hline]
    refine bind_eq_of_replies scanFile?_eq_of_replies (fun x _ => ?_) h
    refine bind_eq_of_replies seek_eq_of_replies fun next _ hnext => ?_
    exact congrArg _ (scanParts_eq_of_replies _ hnext)
termination_by body.length - c.offset
decreasing_by
  have hpast : c.offset + (2 + line.length) ≤ next.val := Nat.le_trans x.2.property next.property.1
  simp only [Cursor.offset_moveTo, Cursor.offset_advance]
  omega

/-- **A scan is made of its searches**: it comes to the same with every finder that answers them alike. -/
theorem scan_eq_of_replies {boundary : Text} (h : Replies other body (scan finder body boundary).searches) :
    scan other body boundary = scan finder body boundary := by
  unfold scan at h ⊢
  split
  · rfl
  next hb =>
  rw [if_neg hb] at h
  refine bind_eq_of_replies seek_eq_of_replies (fun next _ => ?_) h
  exact bind_eq_of_replies (scanParts_eq_of_replies _) fun _ _ _ => rfl

/-- A finder that agrees with the linear one answers lawful searches as that one did. -/
theorem replies_of_agrees (h : finder.Agrees) (hD : D ≠ []) {searches : List Search}
    (hlawful : ∀ search ∈ searches, search.Lawful D body) (hlinear : Replies .linear body searches) :
    Replies finder body searches := by
  intro search hmem place hplace
  obtain ⟨hneedle, hstart, hstop⟩ := hlawful search hmem
  have hne : search.needle ≠ [] := by
    rcases hneedle with he | he <;> rw [he]
    · exact hD
    · exact headerEnd_ne_nil
  rw [← hlinear search hmem place hplace, hstop]
  exact h place _ hne (hplace ▸ hstart)

theorem scan_eq_of_agrees (h : finder.Agrees) (body : Bytes) (boundary : Text) :
    scan finder body boundary = scan .linear body boundary :=
  have hlinear : Forward .linear (delimiter boundary) body 0 (scan .linear body boundary) _ :=
    forward_scan body boundary
  scan_eq_of_replies (replies_of_agrees h (delimiter_ne_nil boundary) hlinear.lawful hlinear.replies)

end Finders

end FormCapture.Multipart
