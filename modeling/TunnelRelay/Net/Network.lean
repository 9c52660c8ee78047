import TunnelRelay.Net.Address
import TunnelRelay.OsError
/-!
# What the network of a machine reaches

A relay sees of the network whether a socket can be connected to the server, and whether a server
can stand at an address. On a machine without any interface that is up, sockets can be made and
bound but no address can be reached.
-/

namespace TunnelRelay.Net

/-- The network of a machine. -/
inductive Network where
  /-- The loopback interface is up and the only one. -/
  | loopback
  /-- No interface is up. -/
  | isolated
  /-- An interface with these addresses is up, and every address is reached through it. -/
  | routed (v4 : Ipv4) (v6 : Ipv6)
  deriving DecidableEq

/-- The address that maps an IPv4 address. -/
def Ipv6.mapping (ip : Ipv4) : Ipv6 :=
  .ofGroups [0, 0, 0, 0, 0, 0xFFFF, ip.a.toUInt16 * 256 + ip.b.toUInt16,
    ip.c.toUInt16 * 256 + ip.d.toUInt16]

/-- Whether an IPv4 address belongs to the loopback interface or to every interface. -/
def Ipv4.isLocal (ip : Ipv4) : Bool := ip.a == 127 || ip.bytes.all (· == 0)

/-- Whether all groups of an IPv6 address are zero. -/
def Ipv6.isUnspecified (ip : Ipv6) : Bool := ip.groups.all (· == 0)

/-- Whether an address belongs to the loopback interface or to every interface. -/
def Address.isLocal : Address → Bool
  | .v4 ip => ip.isLocal
  | .v6 ip =>
    match ip.mapped? with
    | some inner => inner.isLocal
    | none => ip == Ipv6.loopback || ip.isUnspecified

namespace Network

/-- Whether a server can stand at an address. Without an interface the system knows no IPv4
address of its own and accepts every one. -/
def canBind : Network → Address → Bool
  | .loopback, a => a.isLocal
  | .isolated, .v4 _ => true
  | .isolated, .v6 ip => ip.mapped?.isSome || ip.isUnspecified
  | .routed v4 v6, a => a.isLocal || a == .v4 v4 || a == .v6 v6

/-- Connects a socket to an address. -/
def connect : Network → Address → Except OsError Unit
  | .loopback, a => if a.isLocal then .ok () else .error .networkUnreachable
  | .isolated, .v4 _ => .error .networkUnreachable
  | .isolated, .v6 ip =>
    if ip.mapped?.isSome then .error .networkUnreachable else .error .addressNotAvailable
  | .routed _ _, _ => .ok ()

/-- The addresses of the machine toward another address. -/
def ownAddresses : Network → Address → Ipv4 × Ipv6
  | .routed v4 v6, a => if a.isLocal then (⟨127, 0, 0, 1⟩, .loopback) else (v4, v6)
  | _, _ => (⟨127, 0, 0, 1⟩, .loopback)

/-- The address that a socket has itself once it is connected to another one. -/
def localAddress (n : Network) (a : Address) : Address :=
  let (v4, v6) := n.ownAddresses a
  match a with
  | .v4 _ => .v4 v4
  | .v6 ip =>
    match ip.mapped? with
    | some _ => .v6 (.mapping v4)
    | none => .v6 v6

end Network

end TunnelRelay.Net
