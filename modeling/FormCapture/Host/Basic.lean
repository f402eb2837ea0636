import FormCapture.Host.Table
import FormCapture.Stream.Basic

/-! # Hosts

A host keeps the connections of a script and the streams that the script reads them through. A connection is
known by a descriptor, a stream by a handle, and both are counted up. A handle has 32 bits: after `2 ^ 32`
streams the handles come back, and a stream that still has the next one is lost with its buffer. A
descriptor has 64 bits, more than a host can use up. Several streams may read one connection: each has a
buffer of its own, and they share the bytes that the connection holds. A connection that has been closed
takes no more bytes and no more streams; what it holds can still be read. -/

namespace FormCapture

structure Socket where
  /-- The bytes that have come from the peer. -/
  source : Source := Source.socket []
  /-- Whether the host has not closed the connection. -/
  isOpen : Bool := true
  /-- Whether the peer has not closed it. -/
  peerIsOpen : Bool := true
  deriving DecidableEq, Repr

structure Session where
  /-- The stream apart from its source. -/
  reader : Reader
  descriptor : Nat
  deriving DecidableEq, Repr

structure Host where
  /-- The bound on the wait of the streams, in milliseconds. -/
  wait : Nat := defaultWait
  /-- The connections, by descriptor; they stay when they are closed. -/
  sockets : Table 0 Socket := Table.empty 3
  /-- The streams, by handle. -/
  sessions : Table UInt32.size Session := Table.empty 1
  deriving DecidableEq, Repr

namespace Host

/-! ### Connections -/

def connect (h : Host) : Nat × Host :=
  (h.sockets.next, { h with sockets := h.sockets.issue {} })

/-- The connection of a descriptor, if the host has not closed it. -/
def openSocket? (h : Host) (descriptor : Nat) : Option Socket :=
  (h.sockets.get? descriptor).filter Socket.isOpen

/-- Bytes come from the peer: whether they were taken. -/
def send (h : Host) (descriptor : Nat) (bytes : Bytes) : Bool × Host :=
  match (h.openSocket? descriptor).filter Socket.peerIsOpen with
  | none => (false, h)
  | some socket =>
    (true, { h with
      sockets := h.sockets.set descriptor { socket with source := socket.source.feed bytes } })

def hangup (h : Host) (descriptor : Nat) : Bool × Host :=
  match (h.sockets.get? descriptor).filter Socket.peerIsOpen with
  | none => (false, h)
  | some socket =>
    (true, { h with sockets := h.sockets.set descriptor { socket with peerIsOpen := false } })

def closeDescriptor (h : Host) (descriptor : Nat) : Bool × Host :=
  match h.openSocket? descriptor with
  | none => (false, h)
  | some socket =>
    (true, { h with sockets := h.sockets.set descriptor { socket with isOpen := false } })

/-! ### Streams -/

def openStreams (h : Host) : Nat := h.sessions.size

/-- A new stream on an open connection: its handle, which is taken from any stream that has it. -/
def openStream? (h : Host) (descriptor : Nat) : Option (Nat × Host) :=
  (h.openSocket? descriptor).map fun _ =>
    (h.sessions.next,
      { h with sessions := h.sessions.issue ⟨{ wait := h.wait }, descriptor⟩ })

def stream? (h : Host) (handle : Nat) : Option (Session × Socket) :=
  (h.sessions.get? handle).bind fun session =>
    (h.sockets.get? session.descriptor).map (session, ·)

/-- Lets the stream of a handle read: what comes of it, if the stream is there. -/
def useStream? (h : Host) (handle : Nat) {α : Type} (use : Stream → α × Stream) :
    Option (α × Host) :=
  (h.stream? handle).map fun (session, socket) =>
    let (a, t) := use { toReader := session.reader, source := socket.source }
    (a, { h with
      sockets := h.sockets.set session.descriptor { socket with source := t.source }
      sessions := h.sessions.set handle { session with reader := t.toReader } })

/-- Gives up the stream of a handle and its buffer, if it is there. -/
def closeStream? (h : Host) (handle : Nat) : Option Host :=
  (h.stream? handle).map fun _ => { h with sessions := h.sessions.erase handle }

end Host

end FormCapture
