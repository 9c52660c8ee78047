import TunnelRelay.Config.Basic
import TunnelRelay.Json.Record
import TunnelRelay.Json.Value
/-!
# Configurations as JSON

`Config.encode` writes every field in declaration order; `Config.decode` reads a configuration
with the defaults for what is absent. Only the server and its port must be there.
-/

namespace TunnelRelay

open Net Json

/-- The members of an interface's configuration that have been read. -/
structure TunConfig.Draft where
  name : Option String := none
  address : Option Ipv4 := none
  prefixLength : Option UInt8 := none
  mtu : Option UInt16 := none
  protectInterface : Option (Option String) := none

/-- The members of a configuration that have been read. -/
structure Config.Draft where
  connectionId : Option UInt32 := none
  server : Option String := none
  port : Option UInt16 := none
  maxAttempts : Option UInt32 := none
  retryInterval : Option UInt64 := none
  idleInterval : Option UInt64 := none
  keepaliveInterval : Option UInt64 := none
  receiveTimeout : Option UInt64 := none
  dnsServer : Option Address := none
  tun : Option TunConfig := none

namespace Json

/-- Reads a text value. -/
def readString : Reader String := fun cs => do
  let (t, rest) ← readQuoted "a string" cs
  pure (String.ofList t, rest)

/-- Reads an integer of 8 bits. -/
def readUInt8 : Reader UInt8 := fun cs => do
  let (n, rest) ← readUnsigned 0xFF "u8" cs
  pure (n.toUInt8, rest)

/-- Reads an integer of 16 bits. -/
def readUInt16 : Reader UInt16 := fun cs => do
  let (n, rest) ← readUnsigned 0xFFFF "u16" cs
  pure (n.toUInt16, rest)

/-- Reads an integer of 32 bits. -/
def readUInt32 : Reader UInt32 := fun cs => do
  let (n, rest) ← readUnsigned 0xFFFFFFFF "u32" cs
  pure (n.toUInt32, rest)

/-- Reads an integer of 64 bits. -/
def readUInt64 : Reader UInt64 := fun cs => do
  let (n, rest) ← readUnsigned greatestInteger "u64" cs
  pure (n.toUInt64, rest)

/-- Reads an IPv4 address, which is written as a text. -/
def readIpv4 : Reader Ipv4 := fun cs => do
  let (t, rest) ← readQuoted "IPv4 address" cs
  match Ipv4.parse? t with
  | some ip => pure (ip, rest)
  | none => .error (.notAnAddress "IPv4")

/-- Reads an address of either family, which is written as a text. -/
def readAddress : Reader Address := fun cs => do
  let (t, rest) ← readQuoted "IP address" cs
  match Address.parse? t with
  | some ip => pure (ip, rest)
  | none => .error (.notAnAddress "IP")

/-- The member of a record whose value goes into one field of the draft. -/
def member {δ α : Type} (name : String) (get : δ → Option α) (set : δ → α → δ)
    (read : Reader α) : Member δ where
  name := name
  isSet draft := (get draft).isSome
  read draft cs := do
    let (a, rest) ← read cs
    pure (set draft a, rest)

end Json

namespace TunConfig

/-- The members of an interface's configuration. -/
def schema : Schema Draft TunConfig where
  title := "struct TunConfig"
  members := [
    member "name" Draft.name (fun d a => { d with name := some a }) readString,
    member "address" Draft.address (fun d a => { d with address := some a }) readIpv4,
    member "prefix_len" Draft.prefixLength (fun d a => { d with prefixLength := some a })
      readUInt8,
    member "mtu" Draft.mtu (fun d a => { d with mtu := some a }) readUInt16,
    member "protect_interface" Draft.protectInterface
      (fun d a => { d with protectInterface := some a }) (readOptional readString)]
  blank := {}
  complete d :=
    let default : TunConfig := {}
    .ok {
      name := d.name.getD default.name
      address := d.address.getD default.address
      prefixLength := d.prefixLength.getD default.prefixLength
      mtu := d.mtu.getD default.mtu
      protectInterface := d.protectInterface.getD default.protectInterface }

/-- The value of an interface's configuration. -/
def toJson (t : TunConfig) : Value :=
  .object [
    ("name".toList, .text t.name.toList),
    ("address".toList, .text t.address.render),
    ("prefix_len".toList, .number t.prefixLength.toNat),
    ("mtu".toList, .number t.mtu.toNat),
    ("protect_interface".toList,
      match t.protectInterface with
      | none => .null
      | some name => .text name.toList)]

end TunConfig

namespace Config

/-- The members of a configuration. -/
def schema : Schema Draft Config where
  title := "struct RelayConfig"
  members := [
    member "connection_id" Draft.connectionId (fun d a => { d with connectionId := some a })
      readUInt32,
    member "server" Draft.server (fun d a => { d with server := some a }) readString,
    member "port" Draft.port (fun d a => { d with port := some a }) readUInt16,
    member "max_attempts" Draft.maxAttempts (fun d a => { d with maxAttempts := some a })
      readUInt32,
    member "retry_interval_ms" Draft.retryInterval (fun d a => { d with retryInterval := some a })
      readUInt64,
    member "idle_interval_ms" Draft.idleInterval (fun d a => { d with idleInterval := some a })
      readUInt64,
    member "keepalive_interval_ms" Draft.keepaliveInterval
      (fun d a => { d with keepaliveInterval := some a }) readUInt64,
    member "receive_timeout_ms" Draft.receiveTimeout
      (fun d a => { d with receiveTimeout := some a }) readUInt64,
    member "dns_server" Draft.dnsServer (fun d a => { d with dnsServer := some a }) readAddress,
    member "tun" Draft.tun (fun d a => { d with tun := some a }) TunConfig.schema.read]
  blank := {}
  complete d :=
    match d.server, d.port with
    | none, _ => .error (1, "server")
    | some _, none => .error (2, "port")
    | some server, some port =>
      let default : Config := { server, port }
      .ok {
        connectionId := d.connectionId.getD default.connectionId
        server
        port
        maxAttempts := d.maxAttempts.getD default.maxAttempts
        retryInterval := d.retryInterval.getD default.retryInterval
        idleInterval := d.idleInterval.getD default.idleInterval
        keepaliveInterval := d.keepaliveInterval.getD default.keepaliveInterval
        receiveTimeout := d.receiveTimeout.getD default.receiveTimeout
        dnsServer := d.dnsServer.getD default.dnsServer
        tun := d.tun.getD default.tun }

/-- The value of a configuration. -/
def toJson (c : Config) : Value :=
  .object [
    ("connection_id".toList, .number c.connectionId.toNat),
    ("server".toList, .text c.server.toList),
    ("port".toList, .number c.port.toNat),
    ("max_attempts".toList, .number c.maxAttempts.toNat),
    ("retry_interval_ms".toList, .number c.retryInterval.toNat),
    ("idle_interval_ms".toList, .number c.idleInterval.toNat),
    ("keepalive_interval_ms".toList, .number c.keepaliveInterval.toNat),
    ("receive_timeout_ms".toList, .number c.receiveTimeout.toNat),
    ("dns_server".toList, .text c.dnsServer.render),
    ("tun".toList, c.tun.toJson)]

/-- The compact JSON text of a configuration. -/
def encode (c : Config) : List Char := c.toJson.render

/-- The configuration that a JSON text holds. -/
def decode (cs : List Char) : Except Json.Error Config := schema.decode cs

end Config

end TunnelRelay
