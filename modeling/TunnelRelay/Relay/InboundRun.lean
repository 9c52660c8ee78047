import TunnelRelay.Net.Network
import TunnelRelay.Relay.Inbound
import TunnelRelay.Signal
/-!
# An inbound pump by itself

One inbound pump on a connected socket and an interface, against a timeline of events. The pump
looks at a stop signal of its own, which is made under that of its attempt, and a failure of the
pump requests the signal of the attempt. Sends on the socket take no time here.
-/

namespace TunnelRelay.Relay

open Net

/-- What happens around an inbound pump. -/
inductive InboundEvent where
  | serverSend (p : Packet)
  | strangerSend (p : Packet)
  | serverClose
  | writeError
  /-- The outbound direction sends. -/
  | markSent
  /-- The pump is asked to stop. -/
  | stop
  /-- The attempt is asked to stop. -/
  | stopAttempt
  /-- Some signal is requested. -/
  | request (signal : Nat)
  | observe

/-- What is seen when the pump is looked at: the time, whether the attempt's stop is requested,
and the milliseconds since the last send. -/
structure InboundView where
  time : Nat
  attemptRequested : Bool
  sinceLastSend : Nat
  deriving DecidableEq

/-- An inbound pump and its surroundings. -/
structure InboundRun where
  config : InboundConfig
  channel : Channel
  pump : Inbound
  /-- The signals that there are. -/
  signals : SignalForest
  /-- The signal of the attempt. -/
  attempt : Nat
  /-- The signal of the pump. -/
  own : Nat
  /-- When the stop of the attempt was requested. -/
  requestedAt : Option Nat
  views : List InboundView := []

/-- An interface and a socket that has been connected, where the datagrams `inbox` wait. The link
was started at the time `started`, and `timing` remembers its last send. -/
def Channel.connected (now started : Nat) (timing : LinkTiming) (wire : Wire)
    (inbox : List Packet) : Channel :=
  { now, wire, transport := ⟨inbox, false, false⟩, serverOpen := true, started, timing
    sent := [], delivered := [] }

namespace InboundRun

/-- The time, in milliseconds. -/
def now (r : InboundRun) : Nat := r.channel.now

/-- Whether the stop of the attempt is requested. -/
def attemptRequested (r : InboundRun) : Bool := r.signals.isRequested r.attempt

/-- Remembers the time if the stop of the attempt is requested and was not before. -/
def noteRequest (r : InboundRun) : InboundRun :=
  if r.attemptRequested ∧ r.requestedAt = none then { r with requestedAt := some r.now } else r

/-- Requests a signal. -/
def request (r : InboundRun) (signal : Nat) : InboundRun :=
  noteRequest { r with signals := r.signals.request signal }

/-- The pump of an attempt as it starts, with a signal under that of the attempt. -/
def spawn (signals : SignalForest) (attempt : Nat) (config : InboundConfig) (channel : Channel) :
    InboundRun :=
  let (signals, own) := signals.child attempt
  noteRequest {
    config, channel, pump := { lastReceived := channel.now }
    signals, attempt, own, requestedAt := none }

/-- The pump as it starts at time 0 on a connected socket. -/
def start (network : Network) (server : Address) (config : InboundConfig) (wire : Wire)
    (attemptRequested : Bool) : Except OsError InboundRun := do
  network.connect server
  let attempt := 0
  let signals := if attemptRequested then SignalForest.new.request attempt else .new
  pure (spawn signals attempt config (.connected 0 0 {} wire []))

/-- The next thing that the pump can do without the clock moving. -/
def step (r : InboundRun) : Option InboundRun :=
  match r.pump.step (r.signals.isRequested r.own) r.config r.channel with
  | none => none
  | some (pump, channel) =>
    let r := { r with pump, channel }
    some (if pump.hasFailed then r.request r.attempt else r)

/-- Does up to `fuel` steps. -/
def settleWithin : Nat → InboundRun → InboundRun
  | 0, r => r
  | fuel + 1, r =>
    match r.step with
    | none => r
    | some r => r.settleWithin fuel

/-- Does everything that can be done without the clock moving. -/
def settle (r : InboundRun) : InboundRun := r.settleWithin (r.pump.rank r.config r.channel + 1)

/-- Lets an event happen. -/
def happen (r : InboundRun) : InboundEvent → InboundRun
  | .serverSend p =>
    if r.channel.serverOpen then
      { r with channel := { r.channel with
        transport := { r.channel.transport with inbox := r.channel.transport.inbox ++ [p] } } }
    else r
  | .strangerSend _ => r
  | .serverClose => { r with channel := { r.channel with serverOpen := false } }
  | .writeError =>
    { r with channel := { r.channel with
      wire := { r.channel.wire with failingWrites := r.channel.wire.failingWrites + 1 } } }
  | .markSent => { r with channel := r.channel.markSent }
  | .stop => r.request r.own
  | .stopAttempt => r.request r.attempt
  | .request signal => r.request signal
  | .observe =>
    let since := r.channel.timing.sinceLastSend r.channel.elapsed / LinkTiming.micros
    { r with views := r.views ++ [⟨r.now, r.attemptRequested, since⟩] }

/-- Moves the clock. -/
def moveClock (r : InboundRun) (t : Nat) : InboundRun :=
  { r with channel := { r.channel with now := t } }

/-- When the pump wakes by itself. -/
def timer? (r : InboundRun) : Option Nat := r.pump.timer? r.config r.channel

/-- One instant: its events, and then all that the pump does. -/
def instant (r : InboundRun) (t : Nat) (events : List InboundEvent) : InboundRun :=
  (events.foldl happen (r.moveClock t)).settle

/-- The time of the next event or timer. -/
def nextInstant? (r : InboundRun) (timeline : List (Nat × InboundEvent)) : Option Nat :=
  match timeline, r.timer? with
  | [], t? => t?
  | e :: _, some t => some (min e.1 t)
  | e :: _, none => some e.1

/-- Goes on from instant to instant, up to the time `horizon` and for `fuel` instants at most. -/
def playFor (horizon : Nat) : Nat → List (Nat × InboundEvent) → InboundRun → InboundRun
  | 0, _, r => r
  | fuel + 1, timeline, r =>
    match r.nextInstant? timeline with
    | none => r
    | some t =>
      if horizon < t then r
      else
        let due := timeline.takeWhile fun e => e.1 ≤ t
        let later := timeline.dropWhile fun e => e.1 ≤ t
        playFor horizon fuel later (r.instant t (due.map Prod.snd))

/-- Plays the pump from where it stands up to the time `horizon`. Each instant is later than the one
before, so there are no more instants than times. -/
def playUntil (horizon : Nat) (timeline : List (Nat × InboundEvent)) (r : InboundRun) :
    InboundRun :=
  let due := timeline.takeWhile fun e => e.1 ≤ r.now
  let later := timeline.dropWhile fun e => e.1 ≤ r.now
  playFor horizon (horizon + 1) later (r.instant r.now (due.map Prod.snd))

/-- Plays the pump up to the time `deadline`, or to the last event if that is later. -/
def play (deadline : Nat) (timeline : List (Nat × InboundEvent)) (r : InboundRun) : InboundRun :=
  let last := match timeline.getLast? with
    | some e => e.1
    | none => 0
  r.playUntil (max deadline last) timeline

/-- Stops the pump and waits for its end. -/
def join (r : InboundRun) : InboundRun := (r.happen .stop).settle

end InboundRun

end TunnelRelay.Relay
