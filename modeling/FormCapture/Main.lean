import FormCapture.Program
import Std.Async.DNS
import Std.Async.TCP
import Std.Async.Timer
import Std.Sync.Channel

/-! # The program at work

Reads the arguments and the settings file, listens, and answers what connects: a loop accepts
connections into a queue, and workers take them from it. What is decided is decided by `start` and by
`Connection.serve`. -/

namespace FormCapture.Main

open Std.Async

/-! ### Starting -/

def entryAt? (path : Text) : IO (Option Entry) := do
  try
    let content ← IO.FS.readBinFile (String.ofList path)
    return some (.file content.toList)
  catch e =>
    match e with
    | .inappropriateType .. => return some .directory
    | _ => return none

def readFiles (arguments : List Text) (home : Option Text) : IO Files := do
  let named := match CommandLine.parse arguments with
    | .ok options => options.configFile.toList
    | .error _ => []
  let found ← (named ++ Settings.usualPaths home).filterMapM fun path => do
    return (← entryAt? path).map fun entry => (path, entry)
  return fun path => found.lookup path

/-- Why the system refused an operation; 99 is the number of an address that is not available. -/
def faultOf : IO.Error → SystemFault
  | .permissionDenied .. => .permissionDenied
  | .resourceBusy .. => .addressInUse
  | e@(.unsupportedOperation code _) =>
    if code.toInt32 = -99 then .addressNotAvailable else .other (toString e)
  | e => .other (toString e)

def listen (s : Settings) : IO (Except SystemFault TCP.Socket.Server) := do
  let addresses ← try (DNS.getAddrInfo (String.ofList s.listen) "").block catch _ => pure #[]
  let some address := addresses[0]? | return .error .nameNotKnown
  let port := UInt16.ofNat s.port
  try
    let server ← TCP.Socket.Server.mk
    server.bind (match address with
      | .v4 ip => .v4 ⟨ip, port⟩
      | .v6 ip => .v6 ⟨ip, port⟩)
    server.listen 128
    return .ok server
  catch e => return .error (faultOf e)

/-! ### Serving -/

/-- The bytes that come next from a client, if any come within the wait. -/
def receive (client : TCP.Socket.Client) (wait : Nat) : Async (Option ByteArray) := do
  let sleeper ← Selector.sleep (Std.Time.Millisecond.Offset.ofNat wait)
  try
    Selectable.one #[
      .case (client.recvSelector capacity.toUInt64) fun got => pure got,
      .case sleeper fun _ => pure none]
  catch _ => pure none

/-- Reads from a client until its request can be answered, or no bytes come. -/
partial def collect (client : TCP.Socket.Client) (limits : Limits) (wait : Nat) (got : ByteArray)
    (missing : Nat) : Async ByteArray := do
  if missing = 0 then
    match Connection.missing got.toList limits with
    | 0 => return got
    | missing => collect client limits wait got missing
  else
    match ← receive client wait with
    | none => return got
    | some bytes => collect client limits wait (got ++ bytes) (missing - bytes.size)

/-- Takes what a client still sends, up to a number of bytes. -/
partial def discard (client : TCP.Socket.Client) (wait : Nat) (limit : Nat) : Async Unit := do
  if limit = 0 then return
  match ← receive client wait with
  | none => return
  | some bytes => discard client wait (limit - bytes.size)

/-- Sends an answer: whether it could be sent. -/
def send (client : TCP.Socket.Client) (response : Option Response) : Async Bool := do
  match response with
  | none => return false
  | some r =>
    try
      client.send (String.ofList r.render).toUTF8
      client.shutdown
      return true
    catch _ => return false

def serve (s : Settings) (counters : IO.Ref Counters) (client : TCP.Socket.Client) : Async Unit := do
  let got ← collect client s.limits s.waitMilliseconds ByteArray.empty 0
  let connection : Connection := ⟨got.toList, .silent⟩
  let service := connection.serve s.limits s.waitMilliseconds
  let sent ← send client service.received
  let service := if sent then service
    else { connection with peer := .gone }.serve s.limits s.waitMilliseconds
  counters.modify fun c => c.after service.updates
  discard client s.waitMilliseconds (64 * 1024)

partial def work (s : Settings) (counters : IO.Ref Counters)
    (queue : Std.CloseableChannel.Sync TCP.Socket.Client) : IO Unit := do
  match ← queue.recv with
  | none => return
  | some client =>
    try (serve s counters client).block catch _ => pure ()
    work s counters queue

partial def acceptAll (server : TCP.Socket.Server)
    (queue : Std.CloseableChannel.Sync TCP.Socket.Client) : IO Unit := do
  try
    let client ← server.accept.block
    queue.send client
  catch _ => pure ()
  acceptAll server queue

def serveAll (s : Settings) (server : TCP.Socket.Server) : IO Unit := do
  let counters ← IO.mkRef ({} : Counters)
  let queue ← Std.CloseableChannel.Sync.new
  for _ in [0:s.threads] do
    let _ ← IO.asTask (work s counters queue) .dedicated
  acceptAll server queue

def report (started : Start) : IO UInt32 := do
  let code := started.exitCode?.getD 0
  let out ← if started.exitCode? = some 0 then IO.getStdout else IO.getStderr
  out.putStr (String.ofList started.output)
  return UInt32.ofNat code

def run (args : List String) : IO UInt32 := do
  let arguments := args.map String.toList
  let home := (← IO.getEnv "HOME").map String.toList
  let files ← readFiles arguments home
  let started := start arguments files home { bind := fun _ _ => .ok () }
  match started with
  | .listening settings =>
    match ← listen settings with
    | .error fault => report (.failed (.io fault))
    | .ok server =>
      let code ← report started
      serveAll settings server
      return code
  | _ => report started

end FormCapture.Main

def main (args : List String) : IO UInt32 := FormCapture.Main.run args
