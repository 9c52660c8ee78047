import TunnelRelay.Relay.Channel
/-!
# The outbound pump

It reads packets from the interface and sends each as one datagram. After an empty read it pauses.
A requested stop ends it where it reads or pauses; a send that it has begun it completes.
-/

namespace TunnelRelay.Relay

/-- Where the outbound pump stands. -/
inductive OutboundPhase where
  /-- About to read. -/
  | ready
  /-- In the pause after an empty read. -/
  | idling (wake : Nat)
  /-- In a send. -/
  | sending (p : Packet)
  | ended (result : Except Error PumpStats)

/-- The outbound pump. -/
structure Outbound where
  phase : OutboundPhase := .ready
  stats : PumpStats := {}

namespace Outbound

/-- The result of a pump that has ended. -/
def result? (o : Outbound) : Option (Except Error PumpStats) :=
  match o.phase with
  | .ended r => some r
  | _ => none

/-- The end of the pump on request. -/
def finish (o : Outbound) : Outbound := { o with phase := .ended (.ok o.stats) }

/-- The end of the pump by a failure. -/
def fail (o : Outbound) (e : Error) : Outbound := { o with phase := .ended (.error e) }

/-- One step of the pump, if it can do one now. -/
def step (stop : Bool) (idleInterval : Nat) (o : Outbound) (c : Channel) :
    Option (Outbound × Channel) :=
  match o.phase with
  | .ended _ => none
  | .ready =>
    if stop then some (o.finish, c)
    else match c.read with
      | (.failed, c) => some (o.fail Channel.readFailure, c)
      | (.packet [], c) => some ({ o with phase := .idling (c.now + idleInterval) }, c)
      | (.packet p, c) => some ({ o with phase := .sending p }, c)
      | (.pending, _) => none
  | .idling wake =>
    if stop then some (o.finish, c)
    else if wake ≤ c.now then some ({ o with phase := .ready }, c)
    else none
  | .sending p =>
    match c.send .outbound p with
    | (.refused, c) => some (o.fail Channel.refusal, c)
    | (.sent, c) => some ({ o with phase := .ready, stats := o.stats.record p }, c.markSent)
    | (.pending, _) => none

/-- When the pump wakes by itself. -/
def timer? (o : Outbound) : Option Nat :=
  match o.phase with
  | .idling wake => some wake
  | _ => none

/-- A bound on the steps that the pump can do before the clock moves, while `waiting` packets wait
to be read: two for each packet, and at the end a read and a pause. -/
def rank (o : Outbound) (now waiting : Nat) : Nat :=
  match o.phase with
  | .ended _ => 0
  | .idling wake => if wake ≤ now then 2 * waiting + 3 else 1
  | .ready => 2 * waiting + 2
  | .sending _ => 2 * waiting + 3

end Outbound

end TunnelRelay.Relay
