import FormCapture.Proofs.Request.Settlement
import FormCapture.Proofs.Request.Written
import FormCapture.Server.Connection

/-! # Answers

Every connection whose peer still reads is answered, with one response. Its bytes can be taken apart
(`Response.IsFramed`): the first blank line is the end of the head, the head begins with the status and
depends on it and on the length alone, and the length that it declares is that of the text behind it. For
this the head is written as lines of a header block (`Response.head_eq`), which hold no blank line.

The errors with which a request can be refused have a status each that blames the request (`Error.Blames`,
`blames_of_readRequest`), so no connection is answered with a fault of the server. `serveFrom_answers` says
this of a whole connection, with what it counts. -/

namespace FormCapture

open Bytes (CutAt cutAt_append_iff)
open Multipart (headerEnd headerEnd_ne_nil)

/-! ### Header blocks before a body -/

/-- **The first blank line ends a block**, whatever bytes follow. -/
theorem Header.IsBlock.cutAt {front : Bytes} (h : Header.IsBlock (front ++ headerEnd)) (body : Bytes) :
    CutAt headerEnd (front ++ (headerEnd ++ body)) front body := by
  refine (cutAt_append_iff headerEnd_ne_nil).mpr ?_
  rintro ⟨before, after, he⟩
  have hwhole : before ++ headerEnd ++ (after ++ [Bytes.lf]) = front ++ headerEnd := by
    rw [← List.append_assoc, he, List.append_assoc]
    rfl
  have hshorter : before ++ headerEnd ≠ front ++ headerEnd := by
    intro hsame
    have hlength := congrArg List.length hwhole
    rw [hsame] at hlength
    simp at hlength
  refine h.isOpen_before (before ++ headerEnd) ⟨_, hwhole⟩ hshorter ?_
  rw [Header.EndsBlank, Header.kept_append]
  exact List.suffix_append _ _

namespace Response

/-! ### The head of a response -/

/-- The lines of a head. -/
def lines (status : Status) (length : Nat) : List Text :=
  [("HTTP/1.1 " ++ toString status.code ++ " " ++ status.reason).toList,
    ("Server: " ++ serverName).toList,
    "Connection: close".toList,
    "Content-Type: text/plain; charset=utf-8".toList,
    Header.lengthLine length]

theorem head_eq (status : Status) (length : Nat) :
    head status length = Header.written Header.wireEnd (lines status length) := by
  have hend : "\r\n".toList = Header.wireEnd := by decide
  have hblank : "\r\n\r\n".toList = Header.wireEnd ++ Header.wireEnd := by decide
  have hclose : "Connection: close\r\n".toList = "Connection: close".toList ++ Header.wireEnd := by decide
  have htype : "Content-Type: text/plain; charset=utf-8\r\n".toList =
      "Content-Type: text/plain; charset=utf-8".toList ++ Header.wireEnd := by decide
  unfold head lines Header.written Header.lengthLine
  simp only [String.toList_append, List.flatMap_cons, List.flatMap_nil, List.append_assoc, List.nil_append]
  rw [hend, hblank, hclose, htype]
  simp only [List.append_assoc]

/-- **What a response is on the wire**: a head that ends with the first blank line, begins with the status
line and depends on the status and the length alone, and the text, of as many bytes as the head declares. -/
structure IsFramed (r : Response) (front : Bytes) : Prop where
  cut : CutAt headerEnd (Utf8.encode r.render) front (Utf8.encode r.body)
  statusLine :
    Utf8.encode ("HTTP/1.1 " ++ toString r.status.code ++ " " ++ r.status.reason ++ "\r\n").toList <+:
      Utf8.encode r.render
  head_eq : front ++ headerEnd = Utf8.encode (head r.status (Utf8.encode r.body).length)
  declares : Header.value? (Header.textOf (front ++ headerEnd)) "content-length" =
    some (toString (Utf8.encode r.body).length).toList

section Framed

variable {status : Status}

theorem onOneLine_statusLine (h : Text.OnOneLine status.reason.toList) :
    Text.OnOneLine ("HTTP/1.1 " ++ toString status.code ++ " " ++ status.reason).toList := by
  have hcode : Text.OnOneLine (toString status.code).toList :=
    ⟨(Numeral.denotes_decimal _).not_mem (by decide) (by decide),
      (Numeral.denotes_decimal _).not_mem (by decide) (by decide)⟩
  have hversion : Text.OnOneLine "HTTP/1.1 ".toList := by decide
  have hspace : Text.OnOneLine " ".toList := by decide
  simp only [String.toList_append]
  exact ((hversion.append hcode).append hspace).append h

/-- The lines behind the first can be read as fields. -/
theorem fits_lines (status : Status) (length : Nat) :
    ∀ line ∈ (lines status length).tail, Text.OnOneLine line ∧ ¬ Header.IsWhite line := by
  have hfixed : ∀ line ∈ (lines status length).tail.take 3, Text.OnOneLine line ∧ ¬ Header.IsWhite line := by
    change ∀ line ∈ [("Server: " ++ serverName).toList, "Connection: close".toList,
      "Content-Type: text/plain; charset=utf-8".toList], Text.OnOneLine line ∧ ¬ Header.IsWhite line
    decide +kernel
  intro line hline
  have hcut : (lines status length).tail = (lines status length).tail.take 3 ++ [Header.lengthLine length] :=
    rfl
  rw [hcut] at hline
  rcases List.mem_append.mp hline with hline | hline
  · exact hfixed line hline
  · rw [List.mem_singleton.mp hline]
    exact Header.fits_lengthLine length

theorem isBlock_head (h : Text.OnOneLine status.reason.toList) (length : Nat) :
    Header.IsBlock (Utf8.encode (head status length)) := by
  rw [head_eq]
  refine Header.isBlock_written (List.cons_ne_nil _ _) (List.forall_mem_cons.mpr ⟨⟨?_, ?_⟩, ?_⟩)
  · simp
  · exact onOneLine_statusLine h
  · intro line hline
    obtain ⟨hone, hwhite⟩ := fits_lines status length line hline
    refine ⟨?_, hone⟩
    rintro rfl
    exact hwhite fun c hc => absurd hc List.not_mem_nil

/-- The head declares the length that it is written for. -/
theorem value?_head (h : Text.OnOneLine status.reason.toList) (length : Nat) :
    Header.value? (Header.textOf (Utf8.encode (head status length))) "content-length" =
      some (toString length).toList := by
  have hfits := fits_lines status length
  have hone : ∀ line ∈ lines status length, Text.OnOneLine line :=
    List.forall_mem_cons.mpr ⟨onOneLine_statusLine h, fun line hline => (hfits line hline).1⟩
  have hcounted : Header.countedLines (Header.written Header.lineFeed (lines status length)) =
      (lines status length).tail :=
    Header.countedLines_written (onOneLine_statusLine h) hfits
  have hgiven : Header.given "content-length" (lines status length).tail = [(toString length).toList] := by
    have hfixed : Header.given "content-length" ((lines status length).tail.take 3) = [] := by
      change Header.given "content-length" [("Server: " ++ serverName).toList, "Connection: close".toList,
        "Content-Type: text/plain; charset=utf-8".toList] = []
      decide +kernel
    have hcut : (lines status length).tail =
        (lines status length).tail.take 3 ++ [Header.lengthLine length] := rfl
    rw [hcut, Header.given_append, hfixed, Header.given_lengthLine]
    rfl
  rw [head_eq, Header.textOf_written hone, Header.value?_eq, hcounted, hgiven]
  simp [Fields.join]

/-- The status line comes first. -/
theorem statusLine_prefix (r : Response) :
    Utf8.encode ("HTTP/1.1 " ++ toString r.status.code ++ " " ++ r.status.reason ++ "\r\n").toList <+:
      Utf8.encode r.render := by
  unfold render head
  simp only [String.toList_append, Utf8.encode_append, List.append_assoc, List.prefix_append_right_inj]
  exact List.prefix_append _ _

theorem isFramed {r : Response} (h : Text.OnOneLine r.status.reason.toList) : ∃ front, r.IsFramed front := by
  have hblock := isBlock_head h (Utf8.encode r.body).length
  have hvalue := value?_head h (Utf8.encode r.body).length
  obtain ⟨front, hfront⟩ : ∃ front, front ++ headerEnd =
      Utf8.encode (head r.status (Utf8.encode r.body).length) := by
    refine ⟨Utf8.encode ((lines r.status (Utf8.encode r.body).length).dropLast.flatMap
      (· ++ Header.wireEnd) ++ Header.lengthLine (Utf8.encode r.body).length), ?_⟩
    rw [head_eq, Header.written]
    simp [lines, headerEnd, Header.wireEnd]
    rfl
  rw [← hfront] at hblock hvalue
  refine ⟨front, ?_, r.statusLine_prefix, hfront, hvalue⟩
  have hwire : Utf8.encode r.render = front ++ (headerEnd ++ Utf8.encode r.body) := by
    rw [render, length, Utf8.encode_append, ← hfront, List.append_assoc]
  rw [hwire]
  exact hblock.cutAt _

end Framed

end Response

/-! ### Statuses -/

theorem Error.onOneLine_reason (e : Error) : Text.OnOneLine e.status.reason.toList := by
  cases e <;> simp only [status] <;> decide

/-- The errors with which a request is refused, each with the status and the text of its answer. -/
inductive Error.Blames : Error → Status → String → Prop
  | connectionClosed :
      Blames .connectionClosed ⟨408, "Request Timeout"⟩ "Connection closed before the request was complete"
  | shortRead (expected received : Nat) :
      Blames (.shortRead expected received) ⟨408, "Request Timeout"⟩
        ("Short read: expected " ++ toString expected ++ " bytes, received " ++ toString received)
  | payloadTooLarge (limit : Nat) :
      Blames (.payloadTooLarge limit) ⟨413, "Payload Too Large"⟩
        ("Request payload too large. Maximum allowed size: " ++ toString limit ++ " bytes")
  | headersTooLarge (limit : Nat) :
      Blames (.headersTooLarge limit) ⟨431, "Request Header Fields Too Large"⟩
        ("Request header block exceeds " ++ toString limit ++ " bytes")
  | badRequest : Blames .badRequest ⟨400, "Bad Request"⟩ "Bad request"
  | malformedMultipart (missing : String) :
      Blames (.malformedMultipart missing) ⟨400, "Bad Request"⟩ ("Malformed multipart body: " ++ missing)
  | invalidBoundary (boundary : Text) :
      Blames (.invalidBoundary boundary) ⟨400, "Bad Request"⟩
        ("Invalid multipart boundary '" ++ String.ofList boundary ++ "'")

/-- **A request is refused with a status that blames it.** -/
theorem Stream.blames_of_readRequest {s : Stream} {limits : Limits} {e : Error}
    (h : (s.readRequest limits).1 = .error e) : e.Blames e.status e.message := by
  have hsettles := (reading s limits).settles
  rw [h] at hsettles
  generalize ha : (Except.error e : Except Error Request) = answer at hsettles
  cases hsettles with
  | exhausted =>
    cases ha
    exact .connectionClosed
  | oversized =>
    cases ha
    exact .headersTooLarge _
  | short =>
    cases ha
    exact .shortRead _ _
  | malformed =>
    cases ha
    exact .malformedMultipart _
  | refused _ hkind =>
    cases ha
    obtain rfl | rfl | ⟨boundary, rfl⟩ := hkind
    · exact .badRequest
    · exact .payloadTooLarge _
    · exact .invalidBoundary boundary
  | bare | counted => cases ha

/-! ### Connections -/

/-- The text that a body is sent back as, and how many bodies in parts it counts as. -/
inductive Body.Echoes : Body → Text → UInt64 → Prop
  | none : Echoes .none [] 0
  | text (content : Text) : Echoes (.text content) content 0
  | multipart (boundary content : Text) : Echoes (.multipart boundary content) content 1

/-- **What a connection is answered with, and what it counts**, by what came of its request. -/
inductive Answered : Except Error Request → Response → List Update → Prop
  | captured {request : Request} {echo : Text} {inParts : UInt64} {updates : List Update} :
      request.body.Echoes echo inParts →
      (∀ counters : Counters, counters.after updates =
        { counters with
          total := counters.total + 1
          successful := counters.successful + 1
          multipart := counters.multipart + inParts
          bytes := counters.bytes + UInt64.ofNat (Utf8.encode (request.head.raw ++ echo)).length }) →
      Answered (.ok request) ⟨⟨200, "OK"⟩, request.head.raw ++ echo⟩ updates
  | refused {e : Error} {status : Status} {reason : String} {updates : List Update} :
      e.Blames status reason →
      (∀ counters : Counters, counters.after updates =
        { counters with total := counters.total + 1, errors := counters.errors + 1 }) →
      Answered (.error e) ⟨status, reason.toList ++ ['\n']⟩ updates

theorem Body.echoes (body : Body) : body.Echoes body.content (if body.isMultipart then 1 else 0) := by
  cases body with
  | none => exact .none
  | text content => exact .text content
  | multipart boundary content => exact .multipart boundary content

/-- **Every connection gets one answer**, whatever bytes come and whatever the limits and the wait are, if
its peer still reads: a framed response with the captured request, or with the reason why it is refused. -/
theorem Connection.serveFrom_answers (source : Source) (limits : Limits) (wait : Nat) :
    ∃ response updates front,
      serveFrom source true limits wait = ⟨.ok (), updates, some response⟩ ∧
        response.IsFramed front ∧
        Answered ((Stream.openOn source wait).readRequest limits).1 response updates := by
  cases hread : ((Stream.openOn source wait).readRequest limits).1 with
  | ok request =>
    have hone : Text.OnOneLine (Response.ofRequest request).status.reason.toList := by
      change Text.OnOneLine "OK".toList
      decide
    obtain ⟨front, hframed⟩ := Response.isFramed hone
    refine ⟨Response.ofRequest request, _, front, by rw [serveFrom, hread]; rfl, hframed,
      .captured request.body.echoes ?_⟩
    intro counters
    cases hbody : request.body.isMultipart with
    | true => rfl
    | false => simp [Counters.after, Update.ofRequest, Update.apply, Response.length, Response.ofRequest,
        Request.render]
  | error e =>
    obtain ⟨front, hframed⟩ := Response.isFramed (r := Response.ofError e) e.onOneLine_reason
    refine ⟨Response.ofError e, _, front, by rw [serveFrom, hread]; rfl, hframed, .refused ?_ ?_⟩
    · exact Stream.blames_of_readRequest hread
    · intro counters
      simp [Counters.after, Update.ofRequest, Update.apply]

end FormCapture
