import TunnelRelay.Net.Ipv6
/-!
# Addresses and endpoints

An address of either family, and an endpoint: an address with a port, and for IPv6 a zone.
-/

namespace TunnelRelay.Net

/-- An address of either family. -/
inductive Address where
  | v4 (ip : Ipv4)
  | v6 (ip : Ipv6)
  deriving DecidableEq

namespace Address

/-- The text of an address. -/
def render : Address → List Char
  | .v4 ip => ip.render
  | .v6 ip => ip.render

/-- The address that a whole text writes. A text that starts with an IPv4 address is no IPv6
address. -/
def parse? (cs : List Char) : Option Address :=
  match Ipv4.read cs with
  | some (ip, []) => some (.v4 ip)
  | some _ => none
  | none => (Ipv6.parse? cs).map .v6

end Address

/-- An address with a port. -/
structure Endpoint where
  address : Address
  port : UInt16
  /-- The zone of an IPv6 address; 0 is no zone. -/
  zone : UInt32
  deriving DecidableEq

namespace Endpoint

/-- The text of an endpoint; an IPv6 address stands in brackets. -/
def render (e : Endpoint) : List Char :=
  let port := ':' :: Nat.toDigits 10 e.port.toNat
  match e.address with
  | .v4 ip => ip.render ++ port
  | .v6 ip =>
    let zone := if e.zone = 0 then [] else '%' :: Nat.toDigits 10 e.zone.toNat
    '[' :: ip.render ++ zone ++ ']' :: port

/-- The decimal number that a whole text writes, if it is at most `greatest`. -/
def decimal? (greatest : Nat) (cs : List Char) : Option Nat :=
  let n := cs.foldl (fun (n : Nat) c => n * 10 + (c.toNat - 0x30)) 0
  if cs.isEmpty ∨ cs.all Char.isDigit = false ∨ greatest < n then none else some n

/-- Reads the colon and the port that end an endpoint. -/
def port? : List Char → Option UInt16
  | ':' :: digits => (decimal? 65535 digits).map Nat.toUInt16
  | _ => none

/-- The endpoint that a whole text writes. -/
def parse? (cs : List Char) : Option Endpoint :=
  match cs with
  | '[' :: inner => do
    let (ip, rest) ← Ipv6.read inner
    match rest with
    | ']' :: port => pure ⟨.v6 ip, ← port? port, 0⟩
    | '%' :: rest =>
      let zone ← decimal? 0xFFFFFFFF (rest.takeWhile (· != ']'))
      match rest.dropWhile (· != ']') with
      | ']' :: port => pure ⟨.v6 ip, ← port? port, zone.toUInt32⟩
      | _ => none
    | _ => none
  | _ => do
    let (ip, rest) ← Ipv4.read cs
    pure ⟨.v4 ip, ← port? rest, 0⟩

end Endpoint

end TunnelRelay.Net
