import TunnelRelay.Config.Basic
import TunnelRelay.Net.Network
import TunnelRelay.Relay.Host
import TunnelRelay.Relay.Inbound
import TunnelRelay.Relay.Outbound
/-!
# A connection and its surroundings

A `Run` is one connection together with everything around it: the host's script, the interface,
the server and the clock, and what has happened so far. `Run.step` does the next thing that can
be done without the clock moving. The supervisor makes attempts, one after another with pauses
between them, until it is stopped or has failed too often in a row; an attempt that gets its
interface established runs both pumps until one of them ends, and then closes the interface. An
attempt under way does not look at the stop before its pumps run.
-/

namespace TunnelRelay.Relay

open Net

/-- An attempt whose interface is established. -/
structure Attempt where
  /-- Where the transport socket is connected to. -/
  server : Address
  /-- The name of the interface. -/
  device : String
  /-- Whether the stop of this attempt was requested. -/
  stop : Bool := false
  /-- Whether the stop of its inbound pump was requested. -/
  stopInbound : Bool := false
  outbound : Outbound := {}
  inbound : Inbound

/-- What the supervisor is in the middle of. -/
inductive Phase where
  /-- The connection has not been started. -/
  | idle
  /-- About to look up the server. -/
  | starting
  /-- About to make an attempt after this many failures in a row. -/
  | opening (server : Address) (failures : Nat)
  /-- In an attempt that has no interface yet. -/
  | attempting (server : Address) (failures : Nat)
  | pumping (attempt : Attempt)
  /-- In the pause after this many failures in a row. -/
  | pausing (server : Address) (failures wake : Nat)
  | done (result : Except Error Unit)

/-- What is asked of a running connection. -/
inductive Observation where
  | state (time : Nat) (state : RelayState) (stopRequested : Bool)
  /-- The result of starting the connection a second time. -/
  | run (time : Nat) (result : Except Error Unit)

/-- A connection and its surroundings. -/
structure Run where
  config : Config
  /-- Whether a listener for new interfaces is registered. -/
  hasListener : Bool
  /-- Whether the host has attached a value to the interface. -/
  hasIntent : Bool
  network : Network
  /-- The names that the system's resolver knows, with their addresses. -/
  names : List (String × Address) := []
  host : HostScript
  channel : Channel
  /-- How many interfaces have been established. -/
  established : Nat := 0
  /-- Whether the connection was asked to stop. -/
  stop : Bool := false
  phase : Phase := .idle
  state : RelayState := .idle
  /-- Every state that was published, the first one included. -/
  history : List RelayState := [.idle]
  calls : List CallRecord := []
  log : List LogEvent := []
  observations : List Observation := []

namespace Run

/-- The time, in milliseconds. -/
def now (r : Run) : Nat := r.channel.now

/-- Publishes a state. -/
def publish (r : Run) (s : RelayState) : Run :=
  { r with state := s, history := r.history ++ [s] }

/-- Records a call. -/
def call (r : Run) (c : HostCall) : Run :=
  { r with calls := r.calls ++ [⟨r.now, c, r.state⟩] }

/-- Logs an event of the running connection with fields. -/
def noteWith (r : Run) (level : Level) (target message : String)
    (fields : List (String × LogValue)) : Run :=
  { r with log := r.log ++ [⟨r.now, level, target, true, message, fields⟩] }

/-- Logs an event of the running connection. -/
def note (r : Run) (level : Level) (target message : String) : Run :=
  r.noteWith level target message []

/-- Where the supervisor's events come from. -/
def supervisorTarget : String := "skywire_vpn::relay::connection"

/-- Where the events of an attempt come from. -/
def attemptTarget : String := "skywire_vpn::relay::attempt"

/-- Where the events of an interface's creation come from. -/
def interfaceTarget : String := "skywire_vpn::interface"

/-- Asks the connection to stop. -/
def requestStop (r : Run) : Run :=
  if r.stop then r
  else
    { r with
      stop := true
      log := r.log ++ [⟨r.now, .info, supervisorTarget, false, "Stop requested",
        [("tag", .text r.config.tag)]⟩] }

/-- Starts the connection. A second time fails and changes nothing. -/
def start (r : Run) : Except Error Unit × Run :=
  match r.phase with
  | .idle => (.ok (), { r with phase := .starting })
  | _ => (.error .alreadyRunning, r)

/-- The last state of a connection with this result. -/
def finalState : Except Error Unit → RelayState
  | .ok () => .stopped
  | .error e => .failed e.message

/-- Ends the connection. -/
def finish (r : Run) (result : Except Error Unit) : Run :=
  { r.publish (finalState result) with phase := .done result }

/-- Ends the connection on request. -/
def finishStopped (r : Run) : Run :=
  (r.note .info supervisorTarget "Stopped").finish (.ok ())

/-- Looks up the server: an address stands for itself, and the resolver knows some names. Its own
words about all others are left empty. -/
def resolve (r : Run) : Except Error Address :=
  match (Address.parse? r.config.server.toList).or (r.names.lookup r.config.server) with
  | some a => .ok a
  | none => .error (.dnsResolution (r.config.server ++ ": "))

/-- The first step of a connection. -/
def lookUp (r : Run) : Run :=
  let r := r.note .info supervisorTarget "Starting"
  if r.stop then (r.note .info supervisorTarget "Stopped before the first attempt").finish (.ok ())
  else match r.resolve with
    | .error e => r.finish (.error e)
    | .ok a =>
      let server := String.ofList (Endpoint.render ⟨a, r.config.port, 0⟩)
      { r.noteWith .info supervisorTarget "Resolved server" [("addr", .text server)] with
        phase := .opening a 0 }

/-- Asks the host to keep a socket outside the tunnel. -/
def protect (r : Run) (d : Descriptor) : Bool × Run :=
  let (granted, host) := r.host.takeProtect d
  let r := { r with host := host }
  let r := (host.protectLog d granted).foldl
    (fun r e => r.noteWith e.1 e.2.1 e.2.2.1 e.2.2.2) r
  (granted, r.call (.protect d granted))

/-- Asks the host to keep the library's sockets outside the tunnel, one after another, up to the
first that is refused. `fuel` bounds their number; the library's script is long enough. -/
def protectAuxiliary : Nat → Run → Option Descriptor × Run
  | 0, r => (none, r)
  | fuel + 1, r =>
    let (fd?, host) := r.host.takeAuxiliary
    let r := { r with host := host }.call (.nextAuxiliary fd?)
    match fd? with
    | none => (none, r)
    | some fd =>
      let r := r.noteWith .debug attemptTarget "Protecting auxiliary socket"
        [("fd", .socket (.numbered fd))]
      match r.protect (.numbered fd) with
      | (true, r) => r.protectAuxiliary fuel
      | (false, r) => (some (.numbered fd), r)

/-- Makes the transport socket, keeps it and the library's sockets outside the tunnel, and
connects it. -/
def openTransport (r : Run) (server : Address) : Except Error Unit × Run :=
  match r.protect .transport with
  | (false, r) => (.error (.protectFailed .transport), r)
  | (true, r) =>
    match r.protectAuxiliary (r.host.auxiliary.length + 1) with
    | (some d, r) => (.error (.protectFailed d), r)
    | (none, r) =>
      match r.network.connect server with
      | .error e => (.error (.io (.os e)), r)
      | .ok () => (.ok (), r.call (.localAddress (r.network.localAddress server)))

/-- One query of the tunnel's parameters. -/
def queryParams (r : Run) : TunnelParams × Run :=
  let (p, host) := r.host.takeParams
  (p, { r with host := host }.call .params)

/-- The description of the interface. Its MTU, address and prefix length are asked for one by
one. -/
def querySettings (r : Run) : InterfaceSettings × Run :=
  let (mtu, r) := r.queryParams
  let (address, r) := r.queryParams
  let (length, r) := r.queryParams
  let params : TunnelParams := ⟨address.address, length.prefixLength, mtu.mtu⟩
  (.ofTunnel params r.config.dnsServer r.config.server r.hasIntent, r)

/-- The name of the interface that is established next. -/
def nextDevice (r : Run) : String := "sim" ++ toString r.established

/-- Whether interfaces have a descriptor. -/
def hasDescriptor (r : Run) : Bool := r.channel.wire.mode = .descriptor

/-- Has the interface established and tells the listener. -/
def establish (r : Run) : Except Error String × Run :=
  let (settings, r) := r.querySettings
  let (answer, host) := r.host.takeEstablish
  let r := { r with host := host }
  match answer with
  | .error e =>
    (.error (.notEstablished e), r.call (.establish settings false))
  | .ok () =>
    let device := r.nextDevice
    let r := { r with established := r.established + 1 }.call (.establish settings true)
    (.ok device, if r.hasListener then r.call (.listener device r.hasDescriptor) else r)

/-- What follows the end of an attempt: the end, or a pause before the next one. -/
def afterAttempt (r : Run) (server : Address) (failures : Nat) : Run :=
  if r.stop then r.finishStopped
  else if r.config.maxAttempts.toNat ≤ failures then
    (r.noteWith .error supervisorTarget "Giving up" [("attempts", .number failures)]).finish
      (.error (.attemptsExhausted failures))
  else
    { r.publish (.reconnecting failures) with
      phase := .pausing server failures (r.now + r.config.retryInterval.toNat) }

/-- What follows an attempt that failed before its interface was established. -/
def attemptFailed (r : Run) (server : Address) (failures : Nat) (e : Error) : Run :=
  if e.isRetriable then
    (r.noteWith .warn supervisorTarget "Attempt failed" [("error", .failure e)]).afterAttempt
      server (failures + 1)
  else r.finish (.error e)

/-- Starts both pumps. -/
def startPumps (r : Run) (server : Address) (device : String) : Run :=
  let r := (r.publish .connected).noteWith .info attemptTarget "Connected"
    [("device", .text device)]
  { r with
    channel := r.channel.startLink
    phase := .pumping { server, device, inbound := { lastReceived := r.now } } }

/-- The beginning of an attempt, unless the connection was asked to stop. -/
def beginAttempt (r : Run) (server : Address) (failures : Nat) : Run :=
  if r.stop then r.finishStopped
  else { r.publish (.connecting (failures + 1)) with phase := .attempting server failures }

/-- An attempt up to the start of its pumps. -/
def openAttempt (r : Run) (server : Address) (failures : Nat) : Run :=
  match r.openTransport server with
  | (.error e, r) => r.attemptFailed server failures e
  | (.ok (), r) =>
    match r.establish with
    | (.error e, r) => r.attemptFailed server failures e
    | (.ok device, r) => r.startPumps server device

/-- The times of the inbound pump. -/
def inboundConfig (r : Run) : InboundConfig :=
  ⟨r.config.keepaliveInterval.toNat, r.config.receiveTimeout.toNat⟩

/-- Closes the interface. Packets that belong to it end with it. -/
def closeInterface (r : Run) (device : String) : Run :=
  let (closed, host) := r.host.takeClose
  let r := { r with host := host }.call (.close device closed)
  let r :=
    if r.hasDescriptor then
      { r with channel := { r.channel with wire := { r.channel.wire with queue := [] } } }
    else r
  if closed then r
  else r.noteWith .warn attemptTarget "Unable to close interface"
    [("device", .text device), ("error", .text "interface close failed")]

/-- Reports the end of a pump. -/
def reportPump (r : Run) (direction : String) (result : Except Error PumpStats) : Run :=
  match result with
  | .ok stats => r.noteWith .debug attemptTarget "Pump finished"
      [("direction", .quoted direction), ("packets", .number stats.packets),
        ("bytes", .number stats.bytes)]
  | .error e => r.noteWith .warn attemptTarget "Connection lost, will retry"
      [("direction", .quoted direction), ("error", .failure e)]

/-- The end of an attempt whose pumps have both ended. -/
def tearDown (r : Run) (a : Attempt) (outbound inbound : Except Error PumpStats) : Run :=
  (((r.closeInterface a.device).reportPump "outbound" outbound).reportPump "inbound"
    inbound).afterAttempt a.server 0

/-- One step of the outbound pump. When it ends, the inbound pump is asked to stop. -/
def outboundStep (r : Run) (a : Attempt) : Option Run :=
  match a.outbound.step (r.stop || a.stop) r.config.idleInterval.toNat r.channel with
  | none => none
  | some (outbound, channel) =>
    let a := { a with outbound, stopInbound := a.stopInbound || outbound.result?.isSome }
    some { r with channel, phase := .pumping a }

/-- One step of the inbound pump. When it fails, the attempt is asked to stop. -/
def inboundStep (r : Run) (a : Attempt) : Option Run :=
  match a.inbound.step (r.stop || a.stop || a.stopInbound) r.inboundConfig r.channel with
  | none => none
  | some (inbound, channel) =>
    let a := { a with inbound, stop := a.stop || inbound.hasFailed }
    some { r with channel, phase := .pumping a }

/-- The end of an attempt, once both pumps have ended. -/
def join (r : Run) (a : Attempt) : Option Run :=
  match a.outbound.result?, a.inbound.result? with
  | some outbound, some inbound => some (r.tearDown a outbound inbound)
  | _, _ => none

/-- One step of the pumps of an attempt, or its end. The outbound pump goes first. -/
def pumpStep (r : Run) (a : Attempt) : Option Run :=
  match r.outboundStep a with
  | some r => some r
  | none =>
    match r.inboundStep a with
    | some r => some r
    | none => r.join a

/-- The next thing that the connection can do without the clock moving. -/
def step (r : Run) : Option Run :=
  match r.phase with
  | .idle | .done _ => none
  | .starting => some r.lookUp
  | .opening server failures => some (r.beginAttempt server failures)
  | .attempting server failures => some (r.openAttempt server failures)
  | .pumping a => r.pumpStep a
  | .pausing server failures wake =>
    if r.stop then some r.finishStopped
    else if wake ≤ r.now then some { r with phase := .opening server failures }
    else none

/-- When the connection wakes by itself. -/
def timer? (r : Run) : Option Nat :=
  match r.phase with
  | .pausing _ _ wake => some wake
  | .pumping a =>
    match a.outbound.timer?, a.inbound.timer? r.inboundConfig r.channel with
    | some s, some t => some (min s t)
    | some s, none => some s
    | none, t? => t?
  | _ => none

/-- The result of a connection that has ended. -/
def result? (r : Run) : Option (Except Error Unit) :=
  match r.phase with
  | .done result => some result
  | _ => none

/-- A bound on the steps of the pumps before the clock moves, and one more for the end of the
attempt. -/
def pumpRank (r : Run) (outbound : Outbound) (inbound : Inbound) : Nat :=
  outbound.rank r.now r.channel.wire.queue.length + inbound.rank r.inboundConfig r.channel + 2

/-- A bound on the steps of an attempt before the clock moves. -/
def attemptRank (r : Run) : Nat :=
  2 * r.channel.wire.queue.length + 2 * r.channel.transport.inbox.length + 9

/-- A bound on the steps that the connection can do before the clock moves, if all its intervals
are positive. -/
def rank (r : Run) : Nat :=
  match r.phase with
  | .idle | .done _ => 0
  | .starting => r.attemptRank + 3
  | .opening _ _ => r.attemptRank + 1
  | .attempting _ _ => r.attemptRank
  | .pumping a => r.pumpRank a.outbound a.inbound
  | .pausing _ _ wake => if wake ≤ r.now then r.attemptRank + 2 else 1

/-- Does up to `fuel` steps. -/
def settleWithin : Nat → Run → Run
  | 0, r => r
  | fuel + 1, r =>
    match r.step with
    | none => r
    | some r => r.settleWithin fuel

/-- Does everything that can be done without the clock moving. With pauses of no length the
attempts of the whole budget follow one another in an instant, so the bound allows for all. -/
def settle (r : Run) : Run :=
  r.settleWithin ((r.rank + r.attemptRank + 5) * (r.config.maxAttempts.toNat + 2))

end Run

end TunnelRelay.Relay
