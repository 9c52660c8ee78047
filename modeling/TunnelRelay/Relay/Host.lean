import TunnelRelay.Interface.Settings
import TunnelRelay.Log
import TunnelRelay.Relay.State
/-!
# The host of a relay

A host keeps sockets outside the tunnel and establishes interfaces; the tunneling library names
the tunnel's parameters and its own sockets. What they answer is a script: the answers to the next
calls in order, and the answer to every later call.
-/

namespace TunnelRelay.Relay

open Net

/-- What a host and a tunneling library answer. -/
structure HostScript where
  /-- Answers to the next queries of the tunnel's parameters. -/
  params : List TunnelParams
  paramsDefault : TunnelParams
  /-- Answers to the next requests to keep a socket outside the tunnel. -/
  protect : List Bool
  protectDefault : Bool
  /-- Sockets of the library that are refused whatever the answer. -/
  refused : List Int
  /-- The library's next sockets; after them there are none. -/
  auxiliary : List (Option Int)
  /-- Answers to the next requests for an interface. -/
  establish : List (Except IoError Unit)
  establishDefault : Except IoError Unit
  /-- Whether the next interfaces close without a failure; all later ones do. -/
  close : List Bool
  /-- What the host logs about a request to keep a socket outside the tunnel and its answer. -/
  protectLog : Descriptor → Bool → List (Level × String × String × List (String × LogValue))

namespace HostScript

/-- One query of the tunnel's parameters. -/
def takeParams (h : HostScript) : TunnelParams × HostScript :=
  match h.params with
  | [] => (h.paramsDefault, h)
  | p :: ps => (p, { h with params := ps })

/-- One request to keep a socket outside the tunnel. -/
def takeProtect (h : HostScript) (d : Descriptor) : Bool × HostScript :=
  let allowed := match d with
    | .transport => true
    | .numbered fd => !h.refused.contains fd
  match h.protect with
  | [] => (allowed && h.protectDefault, h)
  | b :: bs => (allowed && b, { h with protect := bs })

/-- One query of the library's next socket. -/
def takeAuxiliary (h : HostScript) : Option Int × HostScript :=
  match h.auxiliary with
  | [] => (none, h)
  | fd :: fds => (fd, { h with auxiliary := fds })

/-- One request for an interface. -/
def takeEstablish (h : HostScript) : Except IoError Unit × HostScript :=
  match h.establish with
  | [] => (h.establishDefault, h)
  | a :: as => (a, { h with establish := as })

/-- The closing of an interface. -/
def takeClose (h : HostScript) : Bool × HostScript :=
  match h.close with
  | [] => (true, h)
  | b :: bs => (b, { h with close := bs })

end HostScript

/-- A call of the relay to its host or to the tunneling library. -/
inductive HostCall where
  | protect (socket : Descriptor) (granted : Bool)
  | nextAuxiliary (fd : Option Int)
  | params
  /-- The relay's own address, after its socket has been connected. -/
  | localAddress (address : Address)
  | establish (settings : InterfaceSettings) (established : Bool)
  /-- The listener for new interfaces, with the interface's name and whether it has a
  descriptor. -/
  | listener (device : String) (hasDescriptor : Bool)
  | close (device : String) (closed : Bool)
  deriving DecidableEq

/-- A call with its circumstances. -/
structure CallRecord where
  /-- In milliseconds. -/
  time : Nat
  call : HostCall
  /-- The state of the connection during the call. -/
  state : RelayState
  deriving DecidableEq

end TunnelRelay.Relay
