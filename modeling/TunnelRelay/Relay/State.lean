/-!
# The published state of a connection
-/

namespace TunnelRelay

/-- The state that a connection publishes. -/
inductive RelayState where
  /-- Not started. -/
  | idle
  /-- In the attempt of this number within the budget. -/
  | connecting (attempt : Nat)
  /-- The interface is established and packets flow. -/
  | connected
  /-- In the pause after this many failures in a row. -/
  | reconnecting (failures : Nat)
  /-- Ended on request. -/
  | stopped
  /-- Ended by a failure of this wording. -/
  | failed (text : String)
  deriving DecidableEq

namespace RelayState

/-- Whether packets flow. -/
def isConnected : RelayState → Bool
  | .connected => true
  | _ => false

/-- Whether no other state follows. -/
def isTerminal : RelayState → Bool
  | .stopped | .failed _ => true
  | _ => false

/-- The text of a state. -/
def text : RelayState → String
  | .idle => "Idle"
  | .connecting attempt => "Connecting (attempt " ++ toString attempt ++ ")"
  | .connected => "Connected"
  | .reconnecting failures => "Reconnecting (" ++ toString failures ++ " consecutive failures)"
  | .stopped => "Stopped"
  | .failed text => "Failed: " ++ text

end RelayState

end TunnelRelay
