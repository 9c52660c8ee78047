import TunnelRelay.Client.App
import TunnelRelay.Text.Utf8
/-!
# The bridge to an application

The bridge makes a host and a tunneling library of an application's callbacks. It asks a callback
only if it is registered and otherwise gives a fixed answer. Texts go to the application with a
zero byte at their end, so one that contains a zero byte cannot be handed over.
-/

namespace TunnelRelay.Client

open Net

/-- A bridge and the calls that it has made. -/
structure Bridge where
  app : App
  calls : List AppCall := []
  deriving DecidableEq

namespace Bridge

/-- Makes a call if its callback is registered. -/
def notify (b : Bridge) (c : AppCall) : Bridge :=
  if b.app.has c.callback then { b with calls := b.calls ++ [c] } else b

/-- Where a text has its first zero byte, counted in bytes. -/
def zeroByte? (text : String) : Option Nat :=
  let front := text.toList.takeWhile (· != '\x00')
  if front.length = text.length then none else some (Text.Utf8.encode front).length

/-- Asks the application to keep a socket outside the tunnel. -/
def protect (b : Bridge) (fd : Int) : Bool × Bridge :=
  if b.app.has .protectSocket then
    let b := b.notify (.protectSocket fd)
    match b.app.protect with
    | [] => (true, b)
    | granted :: rest => (granted, { b with app := { b.app with protect := rest } })
  else (false, b)

/-- Asks the application for its next auxiliary socket. -/
def nextAuxiliary (b : Bridge) : Option Int × Bridge :=
  if b.app.has .nextAuxiliarySocket then
    let b := b.notify .nextAuxiliarySocket
    match b.app.auxiliary with
    | [] => (none, b)
    | fd :: rest => (App.socketOf fd, { b with app := { b.app with auxiliary := rest } })
  else (none, b)

/-- Asks the application for the parameters of the tunnel. -/
def params (b : Bridge) : TunnelParams × Bridge :=
  if b.app.has .tunnelParams then
    let b := b.notify .tunnelParams
    match b.app.params with
    | [] => (App.defaultParams, b)
    | p :: rest => (p.getD App.defaultParams, { b with app := { b.app with params := rest } })
  else (App.defaultParams, b)

/-- Takes the next answer to a request for an interface. -/
def takeEstablish (b : Bridge) : EstablishAnswer × Bridge :=
  match b.app.establish with
  | [] => (.socket, b)
  | answer :: rest => (answer, { b with app := { b.app with establish := rest } })

/-- The failure of a text that contains a zero byte. -/
def zeroByteFailure (position : Nat) : IoError :=
  .other ("nul byte found in provided data at position: " ++ toString position)

/-- Asks the application for an interface. -/
def establish (b : Bridge) (settings : InterfaceSettings) : Except IoError Unit × Bridge :=
  if b.app.has .establish then
    match zeroByte? settings.session with
    | some position => (.error (zeroByteFailure position), b)
    | none =>
      let (answer, b) := (b.notify (.establish (.ofSettings settings))).takeEstablish
      (App.interfaceOf answer, b)
  else (.error App.noEstablish, b)

/-- Asks the application for an interface and tells it of the new one. -/
def establishAndTell (b : Bridge) (settings : InterfaceSettings) : Except Error Unit × Bridge :=
  match b.establish settings with
  | (.error e, b) => (.error (.notEstablished e), b)
  | (.ok (), b) => (.ok (), b.notify (.onEstablish none))

/-- The description of an interface with the parameters that the application gives. The MTU, the
address and the prefix length are asked for one by one. -/
def describe (b : Bridge) (dns : Address) (session : String) (hasIntent : Bool) :
    InterfaceSettings × Bridge :=
  let (mtu, b) := b.params
  let (address, b) := b.params
  let (length, b) := b.params
  (.ofTunnel ⟨address.address, length.prefixLength, mtu.mtu⟩ dns session hasIntent, b)

/-- Tells the application a log message, unless it contains a zero byte. -/
def log (b : Bridge) (level : Int) (text : String) : Bridge :=
  match zeroByte? text with
  | some _ => b
  | none => b.notify (.onLog level text)

/-- The level of informative messages. -/
def infoLevel : Int := 1

/-- The level of failures. -/
def errorLevel : Int := 3

/-- The name of the interface on a socket, where `own` stands for the socket's number. -/
def deviceName (own : String) : String := "tun-fd" ++ own

end Bridge

/-- What is asked of a bridge. -/
inductive BridgeOp where
  | protect (fd : Int)
  | nextAuxiliary
  | tunnelAddress
  | tunnelPrefix
  | mtu
  | setLocalAddress (e : Endpoint)
  | log (level : Int) (text : String)
  | logInfo (text : String)
  | logError (text : String)
  | notifyState (s : RelayState)
  | notifyEstablished (fd : Int)
  | notifyDisconnected (e : Error)
  /-- Whether the application wants to be told of new interfaces. -/
  | hasListener
  | establish (s : InterfaceSettings)
  | establishAndTell (s : InterfaceSettings)
  /-- As the one before, with the parameters that the application gives. -/
  | establishTunnel (dns : Address) (session : String)

/-- What a bridge answers. -/
inductive BridgeAnswer where
  | nothing
  | bool (b : Bool)
  | number (n : Int)
  | address (ip : Ipv4)
  | interface
  | ioFailed (e : IoError)
  | failed (e : Error)
  deriving DecidableEq

namespace Bridge

/-- The answer of a request for an interface. -/
def established : Except Error Unit → BridgeAnswer
  | .ok () => .interface
  | .error e => .failed e

/-- Does one operation. -/
def apply (b : Bridge) : BridgeOp → BridgeAnswer × Bridge
  | .protect fd =>
    let (granted, b) := b.protect fd
    (.bool granted, b)
  | .nextAuxiliary =>
    match b.nextAuxiliary with
    | (some fd, b) => (.number fd, b)
    | (none, b) => (.nothing, b)
  | .tunnelAddress =>
    let (p, b) := b.params
    (.address p.address, b)
  | .tunnelPrefix =>
    let (p, b) := b.params
    (.number p.prefixLength.toNat, b)
  | .mtu =>
    let (p, b) := b.params
    (.number p.mtu.toNat, b)
  | .setLocalAddress e => (.nothing, b.notify (.setLocalAddress e.render))
  | .log level text => (.nothing, b.log level text)
  | .logInfo text => (.nothing, b.log infoLevel text)
  | .logError text => (.nothing, b.log errorLevel text)
  | .notifyState s => (.nothing, b.notify (.onStateChanged (State.ofRelay s).code))
  | .notifyEstablished fd => (.nothing, b.notify (.onEstablish (some fd)))
  | .notifyDisconnected e => (.nothing, b.notify (.onDisconnected (Result.ofError e).code))
  | .hasListener => (.bool (b.app.has .onEstablish), b)
  | .establish s =>
    match b.establish s with
    | (.ok (), b) => (.interface, b)
    | (.error e, b) => (.ioFailed e, b)
  | .establishAndTell s =>
    let (result, b) := b.establishAndTell s
    (established result, b)
  | .establishTunnel dns session =>
    let (s, b) := b.describe dns session false
    let (result, b) := b.establishAndTell s
    (established result, b)

/-- Does the operations in turn and gives, for each, its answer and the calls that it made. -/
def run (b : Bridge) : List BridgeOp → List (BridgeAnswer × List AppCall)
  | [] => []
  | op :: ops =>
    let (answer, b) := { b with calls := [] }.apply op
    (answer, b.calls) :: b.run ops

end Bridge

end TunnelRelay.Client
