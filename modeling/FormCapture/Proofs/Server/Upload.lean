import FormCapture.Proofs.Request.Written
import FormCapture.Proofs.Stream.Regrouping
import FormCapture.Server.Connection

/-! # Uploads

An upload is a form that is sent under a request line, with header lines that say what the body is and any
others that say nothing of it (`Upload.request`). It is answered with its own header block, without carriage
returns, and the form with its files in base64 (`Upload.answer`).

* `Upload.exists_headBlock`: however the bytes come, the header block is taken first and the body follows.
* `Upload.check_block`: the block passes the checks and declares the body as it is.
* `Upload.readRequest_eq`: so the request is captured, and what it renders to encodes to the answer.

`Connection.serveFrom_upload` says this of a whole connection, with what it counts. -/

namespace FormCapture

structure Upload where
  method : Text
  target : Text
  /-- The header lines before those that declare the body. -/
  fields : List Text
  form : Multipart.Form

namespace Upload

open Header (written wireEnd lineFeed)

def requestLine (u : Upload) : Text := u.method ++ ' ' :: (u.target ++ " HTTP/1.1".toList)

def lines (u : Upload) : List Text :=
  u.requestLine :: Header.uploadLines u.fields u.form.boundary u.form.body.length

/-- The upload as it is sent. -/
def request (u : Upload) : Bytes := Utf8.encode (written wireEnd u.lines) ++ u.form.body

/-- The header block as it is read: without carriage returns. -/
def block (u : Upload) : Text := written lineFeed u.lines

/-- What the upload is answered with. -/
def answer (u : Upload) : Bytes := Utf8.encode u.block ++ u.form.transcoded

structure WellFormed (u : Upload) : Prop where
  method : u.method.IsWord
  target : u.target.IsWord
  fields : ∀ line ∈ u.fields, Header.IsNeutral line
  form : u.form.WellFormed

variable {u : Upload} {limits : Limits}

/-! ### The header block -/

theorem words_requestLine (h : u.WellFormed) :
    Text.words u.requestLine = [u.method, u.target, "HTTP/1.1".toList] := by
  have hspace : Text.isWhite ' ' = true := by decide
  have hversion : Text.words "HTTP/1.1".toList = ["HTTP/1.1".toList] := by decide +kernel
  have hafter : ∀ {rest : Text}, ∀ c ∈ (' ' :: rest).head?, Text.isWhite c = true := by
    intro rest c hc
    obtain rfl := Option.some.inj hc
    exact hspace
  have htarget : Text.words (u.target ++ " HTTP/1.1".toList) = [u.target, "HTTP/1.1".toList] := by
    have hcut : " HTTP/1.1".toList = ' ' :: "HTTP/1.1".toList := rfl
    rw [hcut, Text.words_append h.target hafter, Text.words_cons_white hspace, hversion]
  rw [requestLine, Text.words_append h.method hafter, Text.words_cons_white hspace, htarget]

theorem onOneLine_requestLine (h : u.WellFormed) : u.requestLine.OnOneLine := by
  have hspace : Text.OnOneLine [' '] := by decide
  have hversion : Text.OnOneLine " HTTP/1.1".toList := by decide
  exact h.method.onOneLine.append (hspace.append (h.target.onOneLine.append hversion))

/-- The lines are none of them empty, so they make up a block. -/
theorem fits_lines (h : u.WellFormed) : ∀ line ∈ u.lines, line ≠ [] ∧ line.OnOneLine := by
  refine List.forall_mem_cons.mpr ⟨⟨?_, onOneLine_requestLine h⟩, fun line hline => ?_⟩
  · exact List.append_ne_nil_of_left_ne_nil h.method.1 _
  · obtain ⟨hone, hwhite⟩ := Header.fits_uploadLines h.fields h.form.boundary line hline
    refine ⟨?_, hone⟩
    rintro rfl
    exact hwhite fun c hc => absurd hc List.not_mem_nil

/-- **The block passes the checks**, and the body is declared as it is. -/
theorem check_block (h : u.WellFormed) (hbody : u.form.body.length ≤ limits.maxBodySize)
    (hmax : u.form.body.length < UInt64.size) :
    ∃ head, head.raw = u.block ∧ Header.check limits u.block =
      .ok (head, .multipart u.form.body.length u.form.boundary) := by
  obtain ⟨head, hparsed, hcheck⟩ := Header.check_upload (onOneLine_requestLine h) (words_requestLine h)
    h.fields h.form.boundary hbody (Nat.le_of_lt_succ hmax)
  exact ⟨head, hparsed.raw, hcheck⟩

/-- **The header block is taken first**, and the body is what comes then. -/
theorem exists_headBlock {s v : Stream} (h : u.WellFormed)
    (hblock : (Utf8.encode u.block).length ≤ limits.maxHeaderSize) (hgives : s.Gives u.request v) :
    ∃ raw t, Stream.HeadBlock s (some limits.maxHeaderSize) raw t ∧ Header.textOf raw = u.block ∧
      Stream.Gives t u.form.body v := by
  have hlines := fits_lines h
  have hone : ∀ line ∈ u.lines, line.OnOneLine := fun line hline => (hlines line hline).2
  obtain ⟨t, hraw, hrest⟩ := Stream.Gives.exists_of_append hgives
  refine ⟨_, t, ⟨hraw, Header.isBlock_written (List.cons_ne_nil _ _) hlines, ?_⟩,
    Header.textOf_written hone, hrest⟩
  intro n hn
  obtain rfl := Option.some.inj hn
  rwa [Header.kept_written hone]

/-! ### The answer -/

/-- **The upload is captured as it was meant**: what its request renders to encodes to the answer. -/
theorem readRequest_eq {s v : Stream} (h : u.WellFormed)
    (hblock : (Utf8.encode u.block).length ≤ limits.maxHeaderSize)
    (hbody : u.form.body.length ≤ limits.maxBodySize) (hmax : u.form.body.length < UInt64.size)
    (hgives : s.Gives u.request v) :
    ∃ request, s.readRequest limits = (.ok request, v) ∧ request.body.isMultipart = true ∧
      Utf8.encode request.render = u.answer := by
  obtain ⟨raw, t, hhead, htext, hrest⟩ := exists_headBlock h hblock hgives
  obtain ⟨head, hraw, hcheck⟩ := check_block h hbody hmax
  obtain ⟨text, htranscode, hencode⟩ := Multipart.Form.exists_transcode_eq h.form
  refine ⟨⟨head, .multipart u.form.boundary text⟩, ?_, rfl, ?_⟩
  · rw [Stream.readRequest_of_gives hhead (htext ▸ hcheck) hrest rfl, Framing.bodyOf, htranscode]
    rfl
  · rw [Request.render, Utf8.encode_append, hraw]
    exact congrArg _ hencode

end Upload

namespace Connection

/-- **An upload survives the server.** Whatever its parts, its boundary and its other header lines are, and
in whatever reads it comes, it is answered with its own header block and the form with its files in base64,
as one captured request with a body in parts. Its sizes are within the limits, and its length is one that
64 bits can count. -/
theorem serveFrom_upload {u : Upload} {limits : Limits} {source : Source} {wait : Nat} (h : u.WellFormed)
    (hblock : (Utf8.encode u.block).length ≤ limits.maxHeaderSize)
    (hbody : u.form.body.length ≤ limits.maxBodySize) (hmax : u.form.body.length < UInt64.size)
    (hwait : (source.setWait wait).1 = true) (hbrings : source.Brings u.request) :
    ∃ text updates, serveFrom source true limits wait = ⟨.ok (), updates, some ⟨⟨200, "OK"⟩, text⟩⟩ ∧
      Utf8.encode text = u.answer ∧
      ∀ counters : Counters, counters.after updates =
        { counters with
          total := counters.total + 1
          successful := counters.successful + 1
          multipart := counters.multipart + 1
          bytes := counters.bytes + UInt64.ofNat u.answer.length } := by
  obtain ⟨v, hgives⟩ := (Stream.ready_openOn hwait).exists_gives fun n hn => hbrings.outcome_eq hn
  obtain ⟨request, hread, hparts, hrender⟩ := Upload.readRequest_eq h hblock hbody hmax hgives
  have hlength : (Response.ofRequest request).length = u.answer.length := congrArg List.length hrender
  refine ⟨request.render, [.multipart] ++ Update.ofRequest true u.answer.length, ?_, hrender,
    fun counters => rfl⟩
  rw [serveFrom, hread]
  simp only [hparts, hlength, if_true]
  rfl

/-- A field in two letters that are not ASCII, and a file whose bytes are no text. -/
def sampleUpload : Upload where
  method := "PUT".toList
  target := "/é".toList
  fields := ["X-Length: 7".toList]
  form :=
    { boundary := "a =-b".toList
      preamble := "p\r\n".toList
      items :=
        [⟨"Content-Disposition: form-data; name=\"f\"".toList, [], Utf8.encode "éß".toList⟩,
          ⟨"Content-Disposition: form-data; name=\"g\"; filename=\"h\"".toList,
            ["Content-Type: image/png".toList], [0xFF, 0x0D, 0x0A, 0x00]⟩]
      epilogue := [0xFE] }

theorem sampleUpload_wellFormed : sampleUpload.WellFormed where
  method := by decide +kernel
  target := by decide +kernel
  fields := by
    intro line hline
    obtain rfl := List.mem_singleton.mp hline
    refine ⟨by decide, Header.not_isWhite_of_mem (by decide : 'X' ∈ _) (by decide), ?_⟩
    intro key value hcut
    have hsplit : Text.splitOnce ':' "X-Length: 7".toList = some ("X-Length".toList, " 7".toList) := by
      decide
    rw [hsplit] at hcut
    cases hcut
    decide +kernel
  form :=
    { boundary := by decide
      preamble := Or.inr (by decide)
      clear := by decide +kernel
      items := by
        intro p hp
        rcases List.mem_cons.mp hp with rfl | hp
        · exact ⟨by decide +kernel, fun _ h => absurd h List.not_mem_nil, by decide +kernel,
            fun _ => ⟨Utf8.isText_encode _, fun _ h => absurd h List.not_mem_nil⟩⟩
        · obtain rfl := List.mem_singleton.mp hp
          exact ⟨by decide +kernel, by decide +kernel, by decide +kernel,
            fun h => absurd (by decide +kernel) h⟩ }

/-- The upload in two reads, the first of which ends within its header block, and nothing behind it. -/
def sampleReads : Source :=
  { arrivals := [.data (sampleUpload.request.take 20), .data (sampleUpload.request.drop 20),
      .stall .timedOut]
    refusesZero := true }

theorem serveFrom_upload_sampleUpload :
    sampleReads.Brings sampleUpload.request ∧
      ∃ text updates, serveFrom sampleReads true {} 10 = ⟨.ok (), updates, some ⟨⟨200, "OK"⟩, text⟩⟩ ∧
        Utf8.encode text = sampleUpload.answer ∧
        Counters.after {} updates = { total := 1, successful := 1, multipart := 1, bytes := 322 } := by
  have hbrings : sampleReads.Brings sampleUpload.request := by decide +kernel
  obtain ⟨text, updates, hserve, htext, hcounts⟩ :=
    @serveFrom_upload sampleUpload {} sampleReads 10 sampleUpload_wellFormed (by decide +kernel)
      (by decide +kernel) (by decide +kernel) rfl hbrings
  exact ⟨hbrings, text, updates, hserve, htext, (hcounts {}).trans (by decide +kernel)⟩

end Connection

end FormCapture
