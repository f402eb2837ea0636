import FormCapture.Server.Connection
import FormCapture.Settings.Basic

/-! # Listeners

A server that listens at an address and serves what connects. A host with a NUL character is not asked
for, any other address may be refused, and whoever waits to be told the address may be gone; then no
connection is served. -/

namespace FormCapture

structure Network where
  /-- What comes of listening at a host and a port. -/
  bind : Text → Nat → Except SystemFault Unit
  /-- Whether somebody takes the news that the server listens. -/
  isAwaited : Bool := true

namespace Settings

def listenOn (s : Settings) (network : Network) : Except Error Unit :=
  match if s.listen.contains '\x00' then .error .nulInName else network.bind s.listen s.port with
  | .error fault => .error (.io fault)
  | .ok () =>
    if network.isAwaited then .ok ()
    else .error (.internalServerError "Failed to send server address to test thread")

def waitMilliseconds (s : Settings) : Nat := s.waitSeconds * 1000

def serve (s : Settings) (network : Network) (connections : List Connection) :
    Except Error (List Service) :=
  (s.listenOn network).map fun () =>
    connections.map fun c => c.serve s.limits s.waitMilliseconds

end Settings

end FormCapture
