import TunnelRelay.Relay.Run
/-!
# Runs against a timeline of events

The clock starts at 0 and jumps to the next event or timer when nothing more can be done. All
events of one instant happen before the connection reacts to any of them.
-/

namespace TunnelRelay.Relay

/-- What happens around a connection. -/
inductive Event where
  /-- A packet is queued on the interface. -/
  | push (p : Packet)
  /-- The server sends to the address that the running attempt has reported. -/
  | serverSend (p : Packet)
  /-- Somebody else sends to that address. -/
  | strangerSend (p : Packet)
  /-- The server's port closes for good. -/
  | serverClose
  /-- One more read of the interface fails. -/
  | readError
  /-- One more write to the interface fails. -/
  | writeError
  /-- The interface stops or resumes to take packets. -/
  | wireFull (isFull : Bool)
  /-- The transport socket stops or resumes to take datagrams. -/
  | transportFull (isFull : Bool)
  /-- The machine's network changes. -/
  | network (n : Net.Network)
  | stop
  /-- The state is looked at. -/
  | observe
  /-- The connection is started once more. -/
  | run

/-- An event and when it happens, in milliseconds. -/
structure Timed where
  time : Nat
  event : Event

namespace Run

/-- Changes the interface's side. -/
def modifyWire (r : Run) (f : Wire → Wire) : Run :=
  { r with channel := { r.channel with wire := f r.channel.wire } }

/-- Changes the transport socket's side. -/
def modifyTransport (r : Run) (f : Transport → Transport) : Run :=
  { r with channel := { r.channel with transport := f r.channel.transport } }

/-- Whether an attempt is running. -/
def isPumping (r : Run) : Bool :=
  match r.phase with
  | .pumping _ => true
  | _ => false

/-- Lets an event happen. A connected socket drops what strangers send. -/
def happen (r : Run) : Event → Run
  | .push p => r.modifyWire fun w => { w with queue := w.queue ++ [p] }
  | .serverSend p =>
    if r.isPumping && r.channel.serverOpen then
      r.modifyTransport fun t => { t with inbox := t.inbox ++ [p] }
    else r
  | .strangerSend _ => r
  | .serverClose => { r with channel := { r.channel with serverOpen := false } }
  | .readError => r.modifyWire fun w => { w with failingReads := w.failingReads + 1 }
  | .writeError => r.modifyWire fun w => { w with failingWrites := w.failingWrites + 1 }
  | .wireFull b => r.modifyWire fun w => { w with isFull := b }
  | .transportFull b => r.modifyTransport fun t => { t with isFull := b }
  | .network n => { r with network := n }
  | .stop => r.requestStop
  | .observe =>
    { r with observations := r.observations ++ [.state r.now r.state r.stop] }
  | .run =>
    let (result, r) := r.start
    { r with observations := r.observations ++ [.run r.now result] }

/-- Moves the clock. -/
def moveClock (r : Run) (t : Nat) : Run := { r with channel := { r.channel with now := t } }

/-- One instant: its events, and then all that the connection does. -/
def instant (r : Run) (t : Nat) (events : List Event) : Run :=
  (events.foldl happen (r.moveClock t)).settle

/-- The time of the next event or timer. -/
def nextInstant? (r : Run) (timeline : List Timed) : Option Nat :=
  match timeline, r.timer? with
  | [], t? => t?
  | e :: _, some t => some (min e.time t)
  | e :: _, none => some e.time

end Run

/-- A run with the state at the end of each instant in which it changed. -/
structure Film where
  run : Run
  states : List (Nat × RelayState) := []

namespace Film

/-- The state that was seen last. -/
def lastState (f : Film) : RelayState :=
  match f.states.getLast? with
  | some (_, s) => s
  | none => .idle

/-- Looks at the state at the end of an instant. -/
def expose (f : Film) (run : Run) : Film :=
  if run.state = f.lastState then { f with run }
  else { run, states := f.states ++ [(run.now, run.state)] }

/-- Goes on from instant to instant, up to the time `horizon` and for `fuel` instants at most. -/
def playFor (horizon : Nat) : Nat → List Timed → Film → Film
  | 0, _, f => f
  | fuel + 1, timeline, f =>
    match f.run.nextInstant? timeline with
    | none => f
    | some t =>
      if horizon < t then f
      else
        let due := timeline.takeWhile fun e => e.time ≤ t
        let later := timeline.dropWhile fun e => e.time ≤ t
        playFor horizon fuel later (f.expose (f.run.instant t (due.map Timed.event)))

/-- Plays a run from the first instant, time 0, up to the time `horizon`. Each instant is later
than the one before, so there are no more instants than times. -/
def play (horizon : Nat) (timeline : List Timed) (run : Run) : Film :=
  let due := timeline.takeWhile fun e => e.time = 0
  let later := timeline.dropWhile fun e => e.time = 0
  let first : Film := { run }
  playFor horizon (horizon + 1) later (first.expose (run.instant 0 (due.map Timed.event)))

end Film

/-- The time of the last event. -/
def lastTime (timeline : List Timed) : Nat :=
  match timeline.getLast? with
  | some e => e.time
  | none => 0

/-- Starts a connection and plays it against a timeline that ends with a stop at the time
`deadline`, or with the last event if that is later. -/
def playUntil (deadline : Nat) (timeline : List Timed) (run : Run) : Film :=
  let horizon := max deadline (lastTime timeline)
  Film.play horizon (timeline ++ [⟨horizon, .stop⟩]) run.start.2

/-- Starts a connection and plays it against a timeline without a stop, for as long as it would
take to fail the whole budget of attempts after the last event. -/
def playOut (timeline : List Timed) (run : Run) : Film :=
  let pauses := (run.config.maxAttempts.toNat + 1) * (run.config.retryInterval.toNat + 1)
  Film.play (lastTime timeline + pauses) timeline run.start.2

end TunnelRelay.Relay
