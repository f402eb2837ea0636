import FormCapture.Host.Native

/-! # Runs of a host

What happens to a host, step by step: connections that come, what their peers do, and what is done on
behalf of scripts. -/

namespace FormCapture.Host

inductive Step
  | connect
  | send (descriptor : Nat) (bytes : Bytes)
  /-- The peer of a connection closes. -/
  | hangup (descriptor : Nat)
  | closeDescriptor (descriptor : Nat)
  | openStreams
  | functions
  | call (name : Text) (values : List Value)
  deriving DecidableEq, Repr

inductive Answer
  | descriptor (n : Nat)
  | done (success : Bool)
  | count (n : Nat)
  | names (l : List String)
  | result (r : Except Error Value)

def step (h : Host) : Step → Answer × Host
  | .connect => (.descriptor h.connect.1, h.connect.2)
  | .send descriptor bytes =>
    (.done (h.send descriptor bytes).1, (h.send descriptor bytes).2)
  | .hangup descriptor => (.done (h.hangup descriptor).1, (h.hangup descriptor).2)
  | .closeDescriptor descriptor =>
    (.done (h.closeDescriptor descriptor).1, (h.closeDescriptor descriptor).2)
  | .openStreams => (.count h.openStreams, h)
  | .functions => (.names (Native.all.map Native.name), h)
  | .call name values => (.result (h.call name values).1, (h.call name values).2)

def run (h : Host) : List Step → List Answer × Host
  | [] => ([], h)
  | s :: rest =>
    let (answer, g) := h.step s
    let (answers, last) := g.run rest
    (answer :: answers, last)

end FormCapture.Host
