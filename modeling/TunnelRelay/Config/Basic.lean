import TunnelRelay.Error
import TunnelRelay.Packet
import TunnelRelay.Net.Address
/-!
# The configuration of a relay

Its fields and their defaults, and the rules that a configuration must meet before a relay runs
on it.
-/

namespace TunnelRelay

open Net

/-- The interface that the relay creates itself where no host does. -/
structure TunConfig where
  /-- The name asked for; the system picks one if it is empty. -/
  name : String := "skywire0"
  address : Ipv4 := ⟨192, 168, 255, 2⟩
  prefixLength : UInt8 := 29
  mtu : UInt16 := 1500
  /-- The physical interface that protected sockets are bound to; the one of the default route if
  there is none here. -/
  protectInterface : Option String := none
  deriving DecidableEq

/-- The configuration of a relay. Times are in milliseconds. -/
structure Config where
  /-- Identifies the connection in logs. -/
  connectionId : UInt32 := 0
  /-- The name or the address of the server. -/
  server : String
  port : UInt16
  /-- How many attempts in a row may fail. -/
  maxAttempts : UInt32 := 10
  /-- The pause between two attempts. -/
  retryInterval : UInt64 := 3000
  /-- The pause after an empty read of the interface. -/
  idleInterval : UInt64 := 100
  /-- How long the link may be idle before a keepalive. -/
  keepaliveInterval : UInt64 := 15000
  /-- How long the server may be silent. -/
  receiveTimeout : UInt64 := 20000
  /-- The resolver of the interface. -/
  dnsServer : Address := .v4 ⟨8, 8, 8, 8⟩
  tun : TunConfig := {}
  deriving DecidableEq

namespace Config

/-- The rule that a configuration breaks first, if it breaks one. -/
def violation? (c : Config) : Option String :=
  if Text.isAllBlank c.server.toList then some "server must not be empty"
  else if c.port = 0 then some "port must be non-zero"
  else if c.maxAttempts = 0 then some "max_attempts must be at least 1"
  else if c.retryInterval = 0 ∨ c.idleInterval = 0 ∨ c.keepaliveInterval = 0 ∨
      c.receiveTimeout = 0 then
    some "intervals must be non-zero"
  else if 32 < c.tun.prefixLength then
    some ("invalid prefix length /" ++ toString c.tun.prefixLength.toNat)
  else if Packet.greatestSize < c.tun.mtu.toNat then
    some ("mtu " ++ toString c.tun.mtu.toNat ++ " exceeds maximum packet size " ++
      toString Packet.greatestSize)
  else none

/-- Refuses a configuration that breaks a rule. -/
def validate (c : Config) : Except Error Unit :=
  match c.violation? with
  | some text => .error (.config text)
  | none => .ok ()

/-- The name of the connection in logs. -/
def tag (c : Config) : String := "VpnConnection[" ++ toString c.connectionId.toNat ++ "]"

end Config

end TunnelRelay
