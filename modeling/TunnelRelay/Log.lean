import TunnelRelay.Error
/-!
# Log events
-/

namespace TunnelRelay

/-- How important an event is. -/
inductive Level where
  | error
  | warn
  | info
  | debug
  | trace
  deriving DecidableEq

namespace Level

/-- The name of a level. -/
def name : Level → String
  | .error => "ERROR"
  | .warn => "WARN"
  | .info => "INFO"
  | .debug => "DEBUG"
  | .trace => "TRACE"

/-- The rank of a level: the more important, the lower. -/
def rank : Level → Nat
  | .error => 1
  | .warn => 2
  | .info => 3
  | .debug => 4
  | .trace => 5

end Level

/-- The value of a field. -/
inductive LogValue where
  | text (s : String)
  /-- A text that a log line shows between quotes. -/
  | quoted (s : String)
  | number (n : Nat)
  | failure (e : Error)
  | socket (d : Descriptor)
  deriving DecidableEq

/-- An event. -/
structure LogEvent where
  /-- In milliseconds. -/
  time : Nat
  level : Level
  /-- The part of the program that the event comes from. -/
  target : String
  /-- Whether it happens while a connection runs. -/
  inConnection : Bool
  message : String
  fields : List (String × LogValue)
  deriving DecidableEq

/-- Whether an event tells of a failure or of the end of a pump. -/
def LogEvent.isNotable (e : LogEvent) : Bool :=
  e.level = .error || e.level = .warn || e.message == "Pump finished"

end TunnelRelay
