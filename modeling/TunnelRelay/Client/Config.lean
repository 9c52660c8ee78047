import TunnelRelay.Config.Basic
import TunnelRelay.Text.Utf8
/-!
# The configuration that an application hands over

Texts are byte strings or absent; numbers are 32 bits wide, and zero stands for the default.
-/

namespace TunnelRelay.Client

open Net

/-- A configuration as an application hands it over. -/
structure ClientConfig where
  connectionId : UInt32
  server : Option (List UInt8)
  port : UInt32
  dnsServer : Option (List UInt8)
  maxAttempts : UInt32
  retryInterval : UInt32
  keepaliveInterval : UInt32
  receiveTimeout : UInt32
  deriving DecidableEq

/-- The text of a byte string that is there and encodes one. A zero byte ends it. -/
def textOf? (bytes : Option (List UInt8)) : Option (List Char) :=
  bytes.bind fun bs => Text.Utf8.decode? (bs.takeWhile (· != 0))

/-- A number, or the default in place of zero. -/
def orDefault {α : Type} (n : UInt32) (ofNumber : UInt32 → α) (default : α) : α :=
  if n = 0 then default else ofNumber n

namespace ClientConfig

/-- The valid configuration that is meant, if there is one. A resolver that encodes no text counts
as absent; one that is no address is refused. -/
def toConfig? (c : ClientConfig) : Option Config := do
  let server ← textOf? c.server
  let port ← if c.port.toNat < 65536 then some c.port.toUInt16 else none
  let default : Config := { server := String.ofList server, port := port }
  let dnsServer ←
    match textOf? c.dnsServer with
    | some cs => Address.parse? cs
    | none => some default.dnsServer
  let config : Config := {
    default with
    connectionId := c.connectionId
    dnsServer := dnsServer
    maxAttempts := orDefault c.maxAttempts id default.maxAttempts
    retryInterval := orDefault c.retryInterval UInt32.toUInt64 default.retryInterval
    keepaliveInterval := orDefault c.keepaliveInterval UInt32.toUInt64 default.keepaliveInterval
    receiveTimeout := orDefault c.receiveTimeout UInt32.toUInt64 default.receiveTimeout }
  match config.violation? with
  | some _ => none
  | none => some config

end ClientConfig

end TunnelRelay.Client
