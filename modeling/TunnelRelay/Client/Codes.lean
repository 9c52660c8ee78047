import TunnelRelay.Error
import TunnelRelay.Relay.State
/-!
# Result and state codes

The numbers by which an embedding application sees results and states.
-/

namespace TunnelRelay.Client

/-- The result of an operation or of a run. -/
inductive Result where
  | ok
  | invalidParam
  | alreadyRunning
  | protectFailed
  | exhausted
  | dnsFailed
  | ioError
  | internalError
  deriving DecidableEq

namespace Result

/-- The number of a result. -/
def code : Result → Int
  | .ok => 0
  | .invalidParam => -1
  | .alreadyRunning => -2
  | .protectFailed => -3
  | .exhausted => -4
  | .dnsFailed => -5
  | .ioError => -7
  | .internalError => -99

/-- The name of a result. -/
def name : Result → String
  | .ok => "Ok"
  | .invalidParam => "InvalidParam"
  | .alreadyRunning => "AlreadyRunning"
  | .protectFailed => "ProtectFailed"
  | .exhausted => "Exhausted"
  | .dnsFailed => "DnsFailed"
  | .ioError => "IoError"
  | .internalError => "InternalError"

/-- The result that stands for a failure. -/
def ofError : Error → Result
  | .protectFailed _ => .protectFailed
  | .attemptsExhausted _ => .exhausted
  | .dnsResolution _ => .dnsFailed
  | .io _ | .serverGone _ | .tunDevice _ => .ioError
  | .config _ => .invalidParam
  | .alreadyRunning => .alreadyRunning
  | .taskFailed _ => .internalError

end Result

/-- A state without its details. -/
inductive State where
  | idle
  | connecting
  | connected
  | reconnecting
  | stopped
  | failed
  deriving DecidableEq

namespace State

/-- The number of a state. -/
def code : State → Nat
  | .idle => 0
  | .connecting => 1
  | .connected => 2
  | .reconnecting => 3
  | .stopped => 4
  | .failed => 5

/-- The name of a state. -/
def name : State → String
  | .idle => "Idle"
  | .connecting => "Connecting"
  | .connected => "Connected"
  | .reconnecting => "Reconnecting"
  | .stopped => "Stopped"
  | .failed => "Failed"

/-- The state without its details. -/
def ofRelay : RelayState → State
  | .idle => .idle
  | .connecting _ => .connecting
  | .connected => .connected
  | .reconnecting _ => .reconnecting
  | .stopped => .stopped
  | .failed _ => .failed

end State

end TunnelRelay.Client
