import TunnelRelay.OsError
/-!
# Reasons why a relay fails

One constructor per cause, its wording, and which causes let the relay try again.
-/

namespace TunnelRelay

/-- A socket that must stay outside the tunnel: the relay's own, whose number the system chooses,
or one of the tunneling library's by its number. -/
inductive Descriptor where
  | transport
  | numbered (fd : Int)
  deriving DecidableEq

/-- The text of a descriptor, where `own` stands for the number of the relay's own socket. -/
def Descriptor.text (own : String) : Descriptor → String
  | .transport => own
  | .numbered fd => toString fd

/-- Why a relay or one of its attempts fails. -/
inductive Error where
  /-- The host refused to keep a socket outside the tunnel. -/
  | protectFailed (socket : Descriptor)
  | io (e : IoError)
  /-- Nothing arrived for this many milliseconds. -/
  | serverGone (silence : Nat)
  /-- The interface cannot be established or used. -/
  | tunDevice (text : String)
  /-- The server's name has no address. -/
  | dnsResolution (text : String)
  /-- The budget of attempts is used up. -/
  | attemptsExhausted (attempts : Nat)
  /-- The configuration makes no sense. -/
  | config (text : String)
  /-- A pump ended abnormally. -/
  | taskFailed (text : String)
  /-- The connection runs already, or has run. -/
  | alreadyRunning
  deriving DecidableEq

namespace Error

/-- The wording of a failure, where `own` stands for the number of the relay's own socket. -/
def messageWith (own : String) : Error → String
  | .protectFailed socket => "Cannot protect the tunnel socket (fd " ++ socket.text own ++ ")"
  | .io e => "I/O error: " ++ e.message
  | .serverGone silence =>
    "Server is gone: nothing received for " ++ toString silence ++ " ms"
  | .tunDevice text => "TUN device error: " ++ text
  | .dnsResolution text => "DNS resolution failed: " ++ text
  | .attemptsExhausted attempts =>
    "Connection failed after " ++ toString attempts ++ " consecutive attempts"
  | .config text => "Configuration error: " ++ text
  | .taskFailed text => "Pump task failed: " ++ text
  | .alreadyRunning => "Connection is already running"

/-- The wording of a failure. The relay's own socket is called T. -/
def message (e : Error) : String := e.messageWith "T"

/-- The name of the cause. -/
def kind : Error → String
  | .protectFailed _ => "ProtectFailed"
  | .io _ => "Io"
  | .serverGone _ => "ServerGone"
  | .tunDevice _ => "TunDevice"
  | .dnsResolution _ => "DnsResolution"
  | .attemptsExhausted _ => "AttemptsExhausted"
  | .config _ => "Config"
  | .taskFailed _ => "TaskFailed"
  | .alreadyRunning => "AlreadyRunning"

/-- Whether another attempt may follow a failure of this cause. -/
def isRetriable : Error → Bool
  | .protectFailed _ | .io _ | .serverGone _ | .tunDevice _ | .taskFailed _ => true
  | .dnsResolution _ | .attemptsExhausted _ | .config _ | .alreadyRunning => false

/-- The failure of an interface that a host does not establish. -/
def notEstablished (e : IoError) : Error :=
  .tunDevice ("Failed to establish interface: " ++ e.message)

end Error

end TunnelRelay
