import FormCapture.Server.Counters
import FormCapture.Server.Response

/-! # Connections

What a server does with one connection: it reads a request, answers it and counts. A request that is
refused is counted before it is answered, and it does not matter whether the answer arrives. A request
that is captured is counted once its answer has been sent, but for a multipart body, which is counted
before; a peer that is gone leaves it at that, with an error. -/

namespace FormCapture

inductive Peer
  /-- It says that it has finished, and reads the answer. -/
  | finished
  /-- It says nothing more, and reads the answer. -/
  | silent
  | gone
  deriving DecidableEq, Repr

structure Connection where
  bytes : Bytes
  peer : Peer := .finished
  deriving DecidableEq, Repr

structure Service where
  outcome : Except Error Unit
  updates : List Update
  received : Option Response

namespace Connection

def source (c : Connection) : Source :=
  match c.peer with
  | .silent => { Source.socket c.bytes with arrivals := [.data c.bytes, .stall .wouldBlock] }
  | .finished | .gone => Source.socket c.bytes

def isReachable (c : Connection) : Bool := c.peer != .gone

/-- Serves a connection whose bytes come from a source: the wait is that of each read, in
milliseconds. -/
def serveFrom (source : Source) (isReachable : Bool) (limits : Limits) (wait : Nat) : Service :=
  match ((Stream.openOn source wait).readRequest limits).1 with
  | .ok request =>
    let response := Response.ofRequest request
    let seen := if request.body.isMultipart then [Update.multipart] else []
    if isReachable then
      ⟨.ok (), seen ++ Update.ofRequest true response.length, some response⟩
    else ⟨.error (.io .brokenPipe), seen, none⟩
  | .error e =>
    ⟨.ok (), Update.ofRequest false 0, if isReachable then some (Response.ofError e) else none⟩

def serve (c : Connection) (limits : Limits) (wait : Nat) : Service :=
  serveFrom c.source c.isReachable limits wait

/-- How many more bytes have to come, at least, before a request can be answered of which these bytes
have come. -/
def missing (got : Bytes) (limits : Limits) : Nat :=
  match ((Stream.openOn (Source.ofBytes got)).readRequest limits).1 with
  | .error .connectionClosed => 1
  | .error (.shortRead expected received) => expected - received
  | _ => 0

/-- Serves connections one after the other, with the counters after each. -/
def serveAll (limits : Limits) (wait : Nat) (counters : Counters) :
    List Connection → List (Service × Counters)
  | [] => []
  | c :: rest =>
    let service := c.serve limits wait
    let counters := counters.after service.updates
    (service, counters) :: serveAll limits wait counters rest

end Connection

end FormCapture
