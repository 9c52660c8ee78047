import TunnelRelay.Relay.Channel
/-!
# The inbound pump

It receives datagrams and writes those that are packets to the interface. It keeps an idle link
alive and ends when the server has been silent for too long. Of several things that are due at
once it takes the first of: a requested stop, the silence, a datagram, the keepalive. A failure of
its own requests the stop of the whole attempt; a write that ends the task does not.
-/

namespace TunnelRelay.Relay

/-- The times of the inbound pump, in milliseconds. -/
structure InboundConfig where
  keepaliveInterval : Nat
  receiveTimeout : Nat
  deriving DecidableEq

/-- Where the inbound pump stands. -/
inductive InboundPhase where
  /-- Waits for whatever comes first. -/
  | waiting
  /-- In a write to the interface. -/
  | writing (p : Packet)
  /-- In the send of a keepalive. -/
  | pinging
  | ended (result : Except Error PumpStats)
  /-- A write has ended the task. -/
  | panicked

/-- The inbound pump. -/
structure Inbound where
  phase : InboundPhase := .waiting
  stats : PumpStats := {}
  /-- When the server was last heard of. -/
  lastReceived : Nat

namespace Inbound

/-- The result of a pump that has ended. -/
def result? (i : Inbound) : Option (Except Error PumpStats) :=
  match i.phase with
  | .ended r => some r
  | .panicked => some (.error (.taskFailed ""))
  | _ => none

/-- Whether the pump has ended by a failure of its own. -/
def hasFailed (i : Inbound) : Bool :=
  match i.phase with
  | .ended (.error _) => true
  | _ => false

/-- The end of the pump on request. -/
def finish (i : Inbound) : Inbound := { i with phase := .ended (.ok i.stats) }

/-- The end of the pump by a failure. -/
def fail (i : Inbound) (e : Error) : Inbound := { i with phase := .ended (.error e) }

/-- What the pump does with a datagram. -/
def accept (i : Inbound) (p : Packet) (now : Nat) : Inbound :=
  { i with phase := if p.isControl then .waiting else .writing p, lastReceived := now }

/-- One step of the pump, if it can do one now. -/
def step (stop : Bool) (config : InboundConfig) (i : Inbound) (c : Channel) :
    Option (Inbound × Channel) :=
  match i.phase with
  | .ended _ | .panicked => none
  | .waiting =>
    if stop then some (i.finish, c)
    else if i.lastReceived + config.receiveTimeout ≤ c.now then
      some (i.fail (.serverGone config.receiveTimeout), c)
    else match c.receive with
      | (.refused, c) => some (i.fail Channel.refusal, c)
      | (.datagram p, c) => some (i.accept p c.now, c)
      | (.pending, c) =>
        if c.keepaliveDue config.keepaliveInterval then some ({ i with phase := .pinging }, c)
        else none
  | .writing p =>
    match c.write p with
    | (.panicked, c) => some ({ i with phase := .panicked }, c)
    | (.failed, c) => some (i.fail Channel.writeFailure, c)
    | (.written, c) => some ({ i with phase := .waiting, stats := i.stats.record p }, c)
    | (.pending, _) => none
  | .pinging =>
    match c.send .keepalive Packet.keepalive with
    | (.refused, c) => some (i.fail Channel.refusal, c)
    | (.sent, c) => some ({ i with phase := .waiting }, c.markSent)
    | (.pending, _) => none

/-- When the pump wakes by itself. -/
def timer? (config : InboundConfig) (i : Inbound) (c : Channel) : Option Nat :=
  match i.phase with
  | .waiting =>
    some (min (i.lastReceived + config.receiveTimeout) (c.keepaliveAt config.keepaliveInterval))
  | _ => none

/-- A bound on the steps that the pump can do before the clock moves: two for each datagram that
waits, two for a keepalive, and one to end. -/
def rank (config : InboundConfig) (i : Inbound) (c : Channel) : Nat :=
  let waiting := 2 * c.transport.inbox.length
  let keepalive := if c.keepaliveDue config.keepaliveInterval then 2 else 0
  match i.phase with
  | .ended _ | .panicked => 0
  | .waiting => waiting + keepalive + 1
  | .writing _ => waiting + keepalive + 2
  | .pinging => waiting + 2

end Inbound

end TunnelRelay.Relay
