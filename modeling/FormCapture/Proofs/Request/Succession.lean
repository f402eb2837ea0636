import FormCapture.Proofs.Request.Reading
import FormCapture.Proofs.Stream.Regrouping
import Mathlib.Data.List.Basic

/-! # One request after the other

A stream flows if it can read its source and every read brings bytes. Such a stream gives whatever bytes
remain in it, however its source groups them (`Flowing.exists_gives`).

Bytes that are a request of their own (`IsRequest`) are read as that request at the front of a flowing
stream, and nothing is taken of what follows (`IsRequest.readRequest`). So requests that stand one after
the other are read apart: `run_requests`. -/

namespace FormCapture

namespace Source

/-- Every read brings bytes as long as there are any. -/
def Flows (s : Source) : Prop := ∀ a ∈ s.arrivals, a.bytes ≠ []

theorem Flows.read {s : Source} (h : s.Flows) : s.read.2.Flows := by
  unfold Flows Source.read
  cases hs : s.arrivals with
  | nil =>
    exact fun a ha => absurd ha List.not_mem_nil
  | cons a later =>
    have hlater : ∀ a ∈ later, a.bytes ≠ [] := fun b hb => h b (hs ▸ List.mem_cons_of_mem a hb)
    cases a with
    | stall cause => exact hlater
    | data bytes =>
      simp only
      split
      · exact hlater
      · next hrest =>
        intro b hb
        rcases List.mem_cons.mp hb with rfl | hb
        · exact fun he => hrest (List.isEmpty_iff.mpr he)
        · exact hlater b hb

/-- A source that flows has nothing but its bytes to give. -/
theorem Flows.outcomes_eq {s : Source} (h : s.Flows) : s.outcomes = s.held.map some := by
  unfold outcomes held
  rw [List.map_flatMap]
  exact List.flatMap_congr fun a ha => outcomesOf_of_ne_nil (h a ha)

end Source

namespace Stream

open Header

/-- The stream can read its source, and every read brings bytes. -/
structure Flowing (s : Stream) : Prop where
  ready : s.Ready
  flows : s.source.Flows

/-! ### Flowing streams -/

section Flowing

variable {s : Stream}

theorem arrivals_applyWait (s : Stream) : s.applyWait.source.arrivals = s.source.arrivals := by
  unfold applyWait
  split <;> rfl

theorem flows_fill (h : s.source.Flows) : s.fill.source.Flows := by
  have hwait : s.applyWait.source.Flows := fun a ha => h a (s.arrivals_applyWait ▸ ha)
  unfold fill
  split
  · unfold refill
    split
    · exact h
    · split
      · rw [source_load]
        exact hwait.read
      · exact hwait
  · exact h

theorem flows_readByte (h : s.source.Flows) : s.readByte.2.source.Flows := by
  cases hb : s.fill.buffer with
  | nil =>
    rw [readByte_of_nil hb]
    exact flows_fill h
  | cons b rest =>
    rw [readByte_of_cons hb]
    exact flows_fill h

/-- The next byte of a flowing stream is the first that remains. -/
theorem Flowing.exists_readByte (h : s.Flowing) {b : UInt8} {rest : Bytes}
    (hrem : s.remaining = b :: rest) :
    ∃ t, s.readByte = (some b, t) ∧ t.Flowing ∧ t.remaining = rest := by
  obtain ⟨hfirst, hready, -⟩ := h.ready.readByte
  have hb : s.readByte.1 = some b := by
    have houtcomes : s.buffer.map some ++ s.source.outcomes = s.remaining.map some := by
      rw [h.flows.outcomes_eq, ← List.map_append]
      rfl
    rw [hfirst, upcoming, houtcomes, hrem]
    rfl
  have hrest := remaining_readByte s
  rw [hb, hrem] at hrest
  exact ⟨s.readByte.2, Prod.ext hb rfl, ⟨hready, flows_readByte h.flows⟩, List.cons.inj hrest |>.2⟩

/-- **A flowing stream gives what remains in it**, any front of it. -/
theorem Flowing.exists_gives (h : s.Flowing) {bytes rest : Bytes}
    (hrem : s.remaining = bytes ++ rest) :
    ∃ t, Gives s bytes t ∧ t.Flowing ∧ t.remaining = rest := by
  induction bytes generalizing s with
  | nil => exact ⟨s, .nil s, h, hrem⟩
  | cons b bytes ih =>
    obtain ⟨t, hb, ht, htrem⟩ := h.exists_readByte hrem
    obtain ⟨u, hu, hflowing, hurem⟩ := ih ht htrem
    exact ⟨u, .cons hb hu, hflowing, hurem⟩

theorem flowing_openOn {source : Source} {wait : Nat} (h : (source.setWait wait).1 = true)
    (hflows : source.Flows) : (openOn source wait).Flowing :=
  ⟨ready_openOn h, hflows⟩

end Flowing

/-! ### Requests -/

/-- The bytes are this request and nothing more: a stream in which they remain, and no others, reads it
and has nothing left. -/
def IsRequest (limits : Limits) (bytes : Bytes) (request : Request) : Prop :=
  ∃ s t : Stream, s.remaining = bytes ∧ s.readRequest limits = (.ok request, t) ∧ t.remaining = []

/-- It is enough that a new stream on the bytes alone reads them so. -/
theorem isRequest_of_openOn {limits : Limits} {bytes : Bytes} {request : Request}
    (h : ((openOn (.ofBytes bytes)).readRequest limits).1 = .ok request ∧
      ((openOn (.ofBytes bytes)).readRequest limits).2.remaining = []) :
    IsRequest limits bytes request :=
  ⟨openOn (.ofBytes bytes), _, List.append_nil bytes, Prod.ext h.1 rfl, h.2⟩

/-- **A header block and the body that it declares are read at the front of a flowing stream.** -/
theorem Flowing.exists_readRequest {s : Stream} (hs : s.Flowing) {limits : Limits} {request : Request}
    {framing : Framing} {raw body rest : Bytes} (hraw : IsBlock raw)
    (hfits : Fits (some limits.maxHeaderSize) raw)
    (hcheck : check limits (textOf raw) = .ok (request.head, framing))
    (hlen : body.length = framing.length) (hmade : framing.bodyOf body = .ok request.body)
    (hrem : s.remaining = raw ++ body ++ rest) :
    ∃ t, s.readRequest limits = (.ok request, t) ∧ t.Flowing ∧ t.remaining = rest := by
  rw [List.append_assoc] at hrem
  obtain ⟨t, ht, htflow, htrem⟩ := hs.exists_gives hrem
  obtain ⟨u, hu, huflow, hurem⟩ := htflow.exists_gives htrem
  have hhead : HeadBlock s (some limits.maxHeaderSize) raw t := ⟨ht, hraw, hfits⟩
  exact ⟨u, readRequest_eq_ok_iff.mpr ⟨raw, t, framing, body, hhead, hcheck, hu, hlen, hmade⟩,
    huflow, hurem⟩

/-- **One request**: it is read at the front of a flowing stream, and nothing of what follows. -/
theorem IsRequest.readRequest {limits : Limits} {bytes rest : Bytes} {request : Request}
    (h : IsRequest limits bytes request) {s : Stream} (hs : s.Flowing)
    (hrem : s.remaining = bytes ++ rest) :
    ∃ t, s.readRequest limits = (.ok request, t) ∧ t.Flowing ∧ t.remaining = rest := by
  obtain ⟨alone, done, halone, hread, hdone⟩ := h
  obtain ⟨raw, mid, framing, body, hblock, hcheck, hbody, hlen, hmade⟩ :=
    readRequest_eq_ok_iff.mp hread
  -- the block and the body are all that the request alone consists of
  have hbytes : bytes = raw ++ body := by
    rw [← halone, ← hblock.gives.remaining, ← hbody.remaining, hdone, List.append_nil]
  exact hs.exists_readRequest hblock.isBlock hblock.fits hcheck hlen hmade (hbytes ▸ hrem)

/-- **Requests that stand one after the other**, by induction on their number. -/
theorem run_of_isRequest {limits : Limits} {parts : List (Bytes × Request)} {tail : Bytes}
    (h : ∀ part ∈ parts, IsRequest limits part.1 part.2) {s : Stream} (hs : s.Flowing)
    (hrem : s.remaining = parts.flatMap Prod.fst ++ tail) :
    (s.run (parts.map fun _ => .readRequest limits)).1 =
        parts.map (fun part => .request (.ok part.2)) ∧
      (s.run (parts.map fun _ => .readRequest limits)).2.remaining = tail := by
  induction parts generalizing s with
  | nil => exact ⟨rfl, hrem⟩
  | cons part later ih =>
    rw [List.flatMap_cons, List.append_assoc] at hrem
    obtain ⟨t, hread, ht, htrem⟩ := (h part List.mem_cons_self).readRequest hs hrem
    obtain ⟨hanswers, hleft⟩ := ih (fun p hp => h p (List.mem_cons_of_mem part hp)) ht htrem
    have hperform : s.perform (.readRequest limits) = (.request (.ok part.2), t) := by
      rw [perform, hread]
    rw [List.map_cons, run, hperform]
    exact ⟨congrArg (_ :: ·) hanswers, hleft⟩

/-- **Requests are read apart**, however the source groups their bytes into reads: each call gives the
next request as it would be read alone, and what follows the last one is left, all of it. -/
theorem run_requests {source : Source} {wait : Nat} (hwait : (source.setWait wait).1 = true)
    (hflows : source.Flows) {limits : Limits} {parts : List (Bytes × Request)} {tail : Bytes}
    (hheld : source.held = parts.flatMap Prod.fst ++ tail)
    (h : ∀ part ∈ parts, IsRequest limits part.1 part.2) :
    ((openOn source wait).run (parts.map fun _ => .readRequest limits)).1 =
        parts.map (fun part => .request (.ok part.2)) ∧
      ((openOn source wait).run (parts.map fun _ => .readRequest limits)).2.remaining = tail :=
  run_of_isRequest h (flowing_openOn hwait hflows) hheld

/-- Three requests, each with what it is read as: one without a body, a form whose body goes on after its
last boundary line, and one with a body of no bytes. -/
def sampleParts : List (Bytes × Request) :=
  [(Bytes.ofAscii "GET / HTTP/1.1\r\n\r\n",
      { head := { method := "GET".toList, target := "/".toList, version := "HTTP/1.1".toList,
                  fields := ⟨[]⟩, raw := "GET / HTTP/1.1\n\n".toList },
        body := .none }),
    (Bytes.ofAscii "POST /f HTTP/1.1\r\nContent-Type: multipart/form-data; boundary=B\r\n" ++
        Bytes.ofAscii "Content-Length: 25\r\n\r\n--B\r\nA: b\r\n\r\n1\r\n--B--over",
      { head := { method := "POST".toList, target := "/f".toList, version := "HTTP/1.1".toList,
                  fields := ⟨[("content-type".toList, "multipart/form-data; boundary=B".toList),
                    ("content-length".toList, "25".toList)]⟩,
                  raw := "POST /f HTTP/1.1\nContent-Type: multipart/form-data; boundary=B\n".toList ++
                    "Content-Length: 25\n\n".toList },
        body := .multipart "B".toList "--B\r\nA: b\r\n\r\n1\r\n--B--\r\n".toList }),
    (Bytes.ofAscii "PUT /z HTTP/1.1\r\nContent-Length: 0\r\n\r\n",
      { head := { method := "PUT".toList, target := "/z".toList, version := "HTTP/1.1".toList,
                  fields := ⟨[("content-length".toList, "0".toList)]⟩,
                  raw := "PUT /z HTTP/1.1\nContent-Length: 0\n\n".toList },
        body := .text [] })]

/-- The requests and the front of a fourth, in two reads, the first of which ends in the second request. -/
def sampleSuccession : Source :=
  { arrivals := [.data ((sampleParts.flatMap Prod.fst).take 60),
      .data ((sampleParts.flatMap Prod.fst).drop 60 ++ Bytes.ofAscii "GET /next")] }

theorem run_requests_sampleSuccession :
    (sampleSuccession.setWait 10).1 = true ∧ sampleSuccession.Flows ∧
      sampleSuccession.held = sampleParts.flatMap Prod.fst ++ Bytes.ofAscii "GET /next" ∧
      (∀ part ∈ sampleParts, IsRequest {} part.1 part.2) ∧
      ((openOn sampleSuccession 10).run (sampleParts.map fun _ => .readRequest {})).1 =
        sampleParts.map (fun part => .request (.ok part.2)) ∧
      ((openOn sampleSuccession 10).run (sampleParts.map fun _ => .readRequest {})).2.remaining =
        Bytes.ofAscii "GET /next" := by
  have hwait : (sampleSuccession.setWait 10).1 = true := by decide
  have hflows : sampleSuccession.Flows := by
    unfold Source.Flows
    decide +kernel
  have hheld : sampleSuccession.held = sampleParts.flatMap Prod.fst ++ Bytes.ofAscii "GET /next" := by
    decide +kernel
  have halone : ∀ part ∈ sampleParts,
      ((openOn (.ofBytes part.1)).readRequest {}).1 = .ok part.2 ∧
        ((openOn (.ofBytes part.1)).readRequest {}).2.remaining = [] := by
    decide +kernel
  have hrequests : ∀ part ∈ sampleParts, IsRequest {} part.1 part.2 := fun part hpart =>
    isRequest_of_openOn (halone part hpart)
  exact ⟨hwait, hflows, hheld, hrequests, run_requests hwait hflows hheld hrequests⟩

end Stream

end FormCapture
