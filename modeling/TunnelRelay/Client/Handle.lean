import TunnelRelay.Client.App
import TunnelRelay.Client.Config
import TunnelRelay.Relay.Timeline
/-!
# Clients

A client runs one connection for an application. Two tasks share the work: one runs the
connection, reports its end in the log and at last tells the application that it is disconnected;
the other one forwards states. The forwarding task sees only the newest state and so may pass over
some; it ends with the state that ends the connection, and the application is told of the
disconnection after that.
-/

namespace TunnelRelay.Client

open Net

/-- How far a client has come in reporting the end of its connection. -/
inductive Ending where
  | running
  /-- The end is in the log. -/
  | logged
  /-- The application has been told. -/
  | disconnected
  deriving DecidableEq

/-- A client. -/
structure Handle where
  registered : List Callback
  run : Relay.Run
  started : Bool := false
  /-- How many of the published states the forwarding task has taken note of. -/
  seen : Nat := 0
  /-- Whether the forwarding task has ended. -/
  forwarded : Bool := false
  ending : Ending := .running
  /-- The notices that the application has been given. -/
  notices : List AppCall := []

/-- Something that happens to a client. -/
inductive Turn where
  | start
  | stop
  /-- The connection does its next step. -/
  | work
  /-- The forwarding task looks at the state. -/
  | forward
  /-- The end of the connection is reported. -/
  | conclude
  /-- Something happens around the connection. -/
  | happen (e : Relay.Event)
  /-- The clock moves to this time. -/
  | advance (time : Nat)

namespace Handle

/-- Gives the application a notice, if it has registered the callback. -/
def notify (c : Handle) (n : AppCall) : Handle :=
  if c.registered.contains n.callback then { c with notices := c.notices ++ [n] } else c

/-- Starts the client. It can be started once. -/
def start (c : Handle) : Result × Handle :=
  if c.started then (.alreadyRunning, c)
  else (.ok, { c with started := true, run := c.run.start.2 })

/-- Asks the client to stop. -/
def stop (c : Handle) : Handle := { c with run := c.run.requestStop }

/-- The state of the connection. -/
def state (c : Handle) : State := .ofRelay c.run.state

/-- The connection does its next step. -/
def work (c : Handle) : Handle :=
  match c.run.step with
  | some run => { c with run := run }
  | none => c

/-- The forwarding task reports the newest state, unless it has seen that one. -/
def forward (c : Handle) : Handle :=
  if c.started ∧ ¬c.forwarded ∧ c.seen < c.run.history.length then
    { c.notify (.onStateChanged c.state.code) with
      seen := c.run.history.length
      forwarded := c.run.state.isTerminal }
  else c

/-- The log message at the end of a connection, with its level. -/
def endMessage (tag : String) : Except Error Unit → Int × String
  | .ok () => (1, tag ++ ": stopped")
  | .error e => (3, tag ++ ": " ++ e.message)

/-- The result of a connection. -/
def endResult : Except Error Unit → Result
  | .ok () => .ok
  | .error e => .ofError e

/-- Reports the end of the connection: first in the log, and once the forwarding task has ended,
to the application. -/
def conclude (c : Handle) : Handle :=
  match c.run.result?, c.ending with
  | some result, .running =>
    let (level, text) := endMessage c.run.config.tag result
    { c.notify (.onLog level text) with ending := .logged }
  | some result, .logged =>
    if c.forwarded then
      { c.notify (.onDisconnected (endResult result).code) with ending := .disconnected }
    else c
  | _, _ => c

/-- What a turn makes of a client. -/
def turn (c : Handle) : Turn → Handle
  | .start => c.start.2
  | .stop => c.stop
  | .work => c.work
  | .forward => c.forward
  | .conclude => c.conclude
  | .happen e => { c with run := c.run.happen e }
  | .advance t => { c with run := c.run.moveClock (max c.run.now t) }

/-- What some turns make of a client. -/
def turns (c : Handle) (ts : List Turn) : Handle := ts.foldl turn c

/-- Everything that can be done without the clock moving: the connection goes first. -/
def settle (c : Handle) : Handle :=
  { c with run := c.run.settle }.turns [.forward, .conclude, .conclude]

/-- Lets time pass until a goal is reached, up to the time `deadline`. -/
def waitWithin (goal : Handle → Bool) (deadline : Nat) : Nat → Handle → Handle
  | 0, c => c.settle
  | fuel + 1, c =>
    let c := c.settle
    if goal c then c
    else match c.run.timer? with
      | none => c
      | some t => if deadline < t then c else waitWithin goal deadline fuel (c.turn (.advance t))

/-- How long an application waits for a goal, in milliseconds. -/
def patience : Nat := 10000

/-- Lets time pass until a goal is reached, or patience runs out. -/
def wait (goal : Handle → Bool) (c : Handle) : Handle :=
  waitWithin goal (c.run.now + patience) patience c

/-- Whether the application has been told of the end. -/
def isDisconnected (c : Handle) : Bool := c.ending = .disconnected

end Handle

/-- What an application does with a client. -/
inductive ClientOp where
  | create
  | start
  | stop
  | state
  /-- Waits for the state of this number. -/
  | waitState (code : Nat)
  /-- Waits for the disconnection. -/
  | waitDone
  | destroy

/-- What has become of the calls to an application. -/
structure Summary where
  /-- The result with the disconnection. -/
  result : Option Int
  lastState : Option Nat
  protects : Nat
  establishes : Nat
  localAddresses : Nat
  auxiliaries : Nat
  log : List AppCall
  onEstablish : List AppCall
  settings : List AppCall
  deriving DecidableEq

/-- What an operation answers. -/
inductive ClientAnswer where
  | bool (b : Bool)
  | result (r : Result)
  | state (s : State)
  | summary (s : Summary)
  | done
  deriving DecidableEq

/-- An application, and the clients that it has created. -/
structure ClientSession where
  network : Network
  /-- The configuration that the application hands over; it may hand over none. -/
  config : Option ClientConfig
  app : App
  /-- The client that it holds. -/
  current : Option Handle := none
  /-- Clients that it held before. -/
  past : List Handle := []

namespace ClientSession

/-- All clients, the newest last. -/
def clients (s : ClientSession) : List Handle := s.past ++ s.current.toList

/-- What the application's callbacks will answer next. -/
def host (s : ClientSession) : Relay.HostScript :=
  match s.clients.getLast? with
  | some c => c.run.host
  | none => s.app.hostScript

/-- The interface and the socket of a client whose server is not there. -/
def channel : Relay.Channel where
  now := 0
  wire := ⟨.descriptor, [], 0, 0, false, false⟩
  transport := ⟨[], false, false⟩
  serverOpen := false
  started := 0
  timing := {}
  sent := []
  delivered := []

/-- A client of a configuration. -/
def newClient (s : ClientSession) (config : Config) : Handle where
  registered := s.app.registered
  run := {
    config
    hasListener := s.app.has .onEstablish
    hasIntent := false
    network := s.network
    host := s.host
    channel }

/-- Gives up the client that is held. -/
def drop (s : ClientSession) : ClientSession :=
  { s with current := none, past := s.clients }

/-- How often a callback was called by the connections. -/
def count (s : ClientSession) (c : Callback) (isCall : Relay.HostCall → Bool) : Nat :=
  if s.app.has c then (s.clients.flatMap (·.run.calls)).countP fun r => isCall r.call else 0

/-- The notice or request of an application that a call of a connection is. -/
def interfaceCall? : Relay.HostCall → Option AppCall
  | .establish settings _ => some (.establish (.ofSettings settings))
  | .listener _ _ => some (.onEstablish none)
  | _ => none

/-- The calls of one callback that the connections made. -/
def interfaceCalls (s : ClientSession) (c : Callback) : List AppCall :=
  ((s.clients.flatMap (·.run.calls)).filterMap fun r => interfaceCall? r.call).filter fun a =>
    a.callback = c && s.app.has c

/-- The notices of one callback. -/
def notices (s : ClientSession) (c : Callback) : List AppCall :=
  (s.clients.flatMap Handle.notices).filter fun n => n.callback = c

/-- What has become of the calls to the application. -/
def summary (s : ClientSession) : Summary where
  result := (s.notices .onDisconnected).getLast?.bind fun
    | .onDisconnected code => some code
    | _ => none
  lastState := (s.notices .onStateChanged).getLast?.bind fun
    | .onStateChanged code => some code
    | _ => none
  protects := s.count .protectSocket fun
    | .protect _ _ => true
    | _ => false
  establishes := (s.interfaceCalls .establish).length
  localAddresses := s.count .setLocalAddress fun
    | .localAddress _ => true
    | _ => false
  auxiliaries := s.count .nextAuxiliarySocket fun
    | .nextAuxiliary _ => true
    | _ => false
  log := s.notices .onLog
  onEstablish := s.interfaceCalls .onEstablish
  settings := s.interfaceCalls .establish

/-- Creates a client, if the configuration is there and valid. -/
def create (s : ClientSession) : ClientAnswer × ClientSession :=
  let s := s.drop
  match s.config.bind ClientConfig.toConfig? with
  | none => (.bool false, s)
  | some config => (.bool true, { s with current := some (s.newClient config) })

/-- Does one operation. Without a client nothing can be started or stopped. -/
def apply (s : ClientSession) (op : ClientOp) : ClientAnswer × ClientSession :=
  match op, s.current with
  | .create, _ => s.create
  | .start, some c =>
    let (result, c) := c.start
    (.result result, { s with current := some c })
  | .stop, some c => (.result .ok, { s with current := some c.stop })
  | .state, some c => (.state c.state, s)
  | .waitState code, some c =>
    let reached := fun (c : Handle) => c.state.code == code
    let c := c.wait reached
    (.bool (reached c), { s with current := some c })
  | .waitDone, some c =>
    let s := { s with current := some (c.wait Handle.isDisconnected) }
    (.summary s.summary, s)
  | .destroy, some c => (.done, { s with current := some c.stop.settle }.drop)
  | .start, none | .stop, none => (.result .invalidParam, s)
  | .state, none => (.state .idle, s)
  | .waitState code, none => (.bool (State.idle.code == code), s)
  | .waitDone, none => (.summary s.summary, s)
  | .destroy, none => (.done, s)

/-- Does the operations in turn and gives their answers. -/
def run (s : ClientSession) : List ClientOp → List ClientAnswer
  | [] => []
  | op :: ops =>
    let (answer, s) := s.apply op
    answer :: s.run ops

end ClientSession

end TunnelRelay.Client
