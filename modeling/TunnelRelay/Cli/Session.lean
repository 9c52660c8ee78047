import TunnelRelay.Cli.Arguments
import TunnelRelay.Cli.LogLine
import TunnelRelay.Config.Load
import TunnelRelay.Host.Local
import TunnelRelay.Relay.Timeline
/-!
# Sessions of the command line

A session loads a configuration, makes the local host its host and runs one connection until it
fails or is interrupted. It says what it does in the log, on the standard output; what ends it is
written to the standard error.
-/

namespace TunnelRelay.Cli

open Net Host

/-- What surrounds a session. -/
structure World where
  network : Network
  /-- The bytes of the file at a path. -/
  read : String → Except OsError (List UInt8)
  /-- The log filter of the environment. -/
  filter : Option String
  /-- The default log filter of the environment. -/
  filterLevel : Option String
  /-- Whether the session is interrupted in the first pause between two attempts. -/
  interrupted : Bool
  routes : RouteReport

/-- How a session ends. -/
structure Outcome where
  exit : Nat
  output : List String
  errors : String
  deriving DecidableEq

namespace World

/-- The log filter of a session: the one of the environment, else the default of the environment,
else the one of the command line. A filter that makes no sense is passed over. -/
def logFilter (w : World) (verbose : Bool) : LogFilter :=
  let fallback := LogFilter.upTo (if verbose then .debug else .info)
  match w.filter.bind LogFilter.parse? with
  | some f => f
  | none =>
    match w.filterLevel with
    | none => fallback
    | some level => (LogFilter.parse? level).getD fallback

end World

/-- Where the events of a session come from. -/
def sessionTarget : String := "skywire_vpn"

/-- Where the events of the local host come from. -/
def hostTarget : String := "skywire_vpn::linux"

/-- An event of a session outside its connection. -/
def sessionEvent (level : Level) (message : String) : LogEvent :=
  ⟨0, level, sessionTarget, false, message, []⟩

/-- What the local host logs about a request to keep a socket outside the tunnel. -/
def protectLog (h : LocalHost) (d : Descriptor) :
    Bool → List (Level × String × String × List (String × LogValue))
  | true =>
    [(.debug, hostTarget, "Socket protected",
      [("fd", .socket d), ("interface", .text h.physical)])]
  | false =>
    [(.warn, hostTarget, "SO_BINDTODEVICE failed",
      [("fd", .socket d), ("error", .text OsError.noDevice.message)])]

/-- The local host as the host of a connection. No tunnel devices can be made here. -/
def hostScript (h : LocalHost) (tun : TunConfig) : Relay.HostScript where
  params := []
  paramsDefault := ⟨tun.address, tun.prefixLength, tun.mtu⟩
  protect := []
  protectDefault := h.protect true
  refused := []
  auxiliary := []
  establish := []
  establishDefault := .error (.os .noEntry)
  close := []
  protectLog := protectLog h

/-- The connection of a session before it starts. -/
def connection (w : World) (config : Config) (h : LocalHost) : Relay.Run where
  config := config
  hasListener := false
  hasIntent := false
  network := w.network
  host := hostScript h config.tun
  channel := {
    now := 0
    wire := ⟨.descriptor, [], 0, 0, false, false⟩
    transport := ⟨[], false, false⟩
    serverOpen := false
    started := 0
    timing := {}
    sent := []
    delivered := [] }

/-- Whether a connection is in the pause between two attempts. -/
def isPausing (r : Relay.Run) : Bool :=
  match r.phase with
  | .pausing _ _ _ => true
  | _ => false

/-- A connection after its end, and the events up to it. An interrupt stops the connection in its
first pause. -/
def finishRun (interrupted : Bool) (r : Relay.Run) : Relay.Run × List LogEvent :=
  let first := r.start.2.settle
  if interrupted && isPausing first then
    let last := first.requestStop.settle
    let notice := sessionEvent .info "Interrupt received, shutting down"
    (last, first.log ++ notice :: last.log.drop first.log.length)
  else
    let last := (Relay.playOut [] r).run
    (last, last.log)

/-- The wordings of a failure and of its cause. -/
def causes : Error → List String
  | .io e => [Error.message (.io e), e.message]
  | e => [e.messageWith ownSocket]

/-- What stands in front of a cause: its number, five characters wide, if there are several. -/
def causeMark : Option Nat → String
  | none => "    "
  | some i =>
    let digits := toString i
    String.ofList (List.replicate (5 - digits.length) ' ') ++ digits ++ ": "

/-- A cause with its mark. Its further lines are indented by the width of the mark. -/
def causeText (number : Option Nat) (cause : String) : String :=
  let mark := causeMark number
  let indent := String.ofList (List.replicate mark.length ' ')
  let lines := (Text.splitAt '\n' cause.toList).map String.ofList
  mark ++ ("\n" ++ indent).intercalate lines

/-- The text about a failure: its wording, and then the causes, with numbers if there are
several. -/
def failureText : List String → String
  | [] => ""
  | [message] => "Error: " ++ message
  | [message, cause] => "Error: " ++ message ++ "\n\nCaused by:\n" ++ causeText none cause
  | message :: causes =>
    "Error: " ++ message ++ "\n\nCaused by:\n" ++
      "\n".intercalate (causes.mapIdx fun i cause => causeText (some i) cause)

/-- A session that loads the configuration at a path. -/
def runSession (w : World) (a : Arguments) : Outcome :=
  let filter := w.logFilter a.verbose
  let loading := sessionEvent .info ("Loading configuration from: " ++ a.config)
  match Config.load a.config (w.read a.config) with
  | .error e =>
    ⟨1, filter.lines none [loading],
      failureText (("Failed to load configuration from: " ++ a.config) :: e.chain)⟩
  | .ok config =>
    match (LocalHost.make config.tun w.routes).1 with
    | .error e =>
      ⟨1, filter.lines none [loading], failureText ("Failed to set up host" :: causes e)⟩
    | .ok h =>
      let bound : LogEvent := ⟨0, .info, hostTarget, false,
        "Protected sockets bound to physical interface", [("interface", .text h.physical)]⟩
      let (r, events) := finishRun w.interrupted (connection w config h)
      let events := loading :: bound :: events
      match r.result? with
      | some (.error e) =>
        let failed := sessionEvent .error ("Relay failed: " ++ e.messageWith ownSocket)
        ⟨1, filter.lines (some config) (events ++ [failed]), failureText (causes e)⟩
      | some (.ok ()) =>
        let stopped := sessionEvent .info "Relay stopped"
        ⟨0, filter.lines (some config) (events ++ [stopped]), ""⟩
      | none => ⟨0, filter.lines (some config) events, ""⟩

/-- What a command line does. -/
def runArguments (w : World) (args : List String) : Outcome :=
  match Invocation.ofArguments args with
  | .help => ⟨0, helpLines, ""⟩
  | .version => ⟨0, [versionLine], ""⟩
  | .refused => ⟨2, [], usageText⟩
  | .run a => runSession w a

end TunnelRelay.Cli
