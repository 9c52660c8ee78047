import TunnelRelay.Client.Codes
import TunnelRelay.Config.Basic
import TunnelRelay.Relay.Host
/-!
# The callbacks of an application

An application that embeds a relay registers callbacks: some answer, as a host and a tunneling
library do, and others only take notice. What the first kind answers is a script.
-/

namespace TunnelRelay.Client

open Net

/-- The callbacks that an application can register. -/
inductive Callback where
  | protectSocket
  | nextAuxiliarySocket
  | tunnelParams
  | establish
  | onEstablish
  | setLocalAddress
  | onStateChanged
  | onDisconnected
  | onLog
  deriving DecidableEq

/-- What an application gives where it is asked for an interface. -/
inductive EstablishAnswer where
  /-- A number that it does not vouch for; a negative one refuses. -/
  | number (n : Int)
  /-- The descriptor of a file. -/
  | file
  /-- The descriptor of a fresh socket. -/
  | socket
  deriving DecidableEq

/-- An application: its callbacks and what they answer. -/
structure App where
  registered : List Callback
  /-- Answers to the next requests to keep a socket outside the tunnel; later ones are granted. -/
  protect : List Bool
  /-- The next auxiliary sockets; numbers that are not positive say that there is none. -/
  auxiliary : List Int
  /-- The next parameters of the tunnel; later there are none. -/
  params : List (Option TunnelParams)
  /-- Answers to the next requests for an interface; later ones give a fresh socket. -/
  establish : List EstablishAnswer
  deriving DecidableEq

namespace App

/-- Whether a callback is registered. -/
def has (a : App) (c : Callback) : Bool := a.registered.contains c

/-- The parameters of the tunnel where the application gives none. -/
def defaultParams : TunnelParams :=
  let tun : TunConfig := {}
  ⟨tun.address, tun.prefixLength, tun.mtu⟩

/-- The socket of a number, if it is one. -/
def socketOf (n : Int) : Option Int := if 0 < n then some n else none

/-- The failure of a number that refuses, or of one that is no descriptor. -/
def numberFailure (n : Int) : IoError :=
  if n < 0 then .other "host refused to establish the interface" else .os .badDescriptor

/-- The failure where no callback can establish an interface. -/
def noEstablish : IoError := .other "no establish callback registered"

/-- What becomes of an answer to a request for an interface. A file cannot be waited on. -/
def interfaceOf : EstablishAnswer → Except IoError Unit
  | .number n => .error (numberFailure n)
  | .file => .error (.os .notPermitted)
  | .socket => .ok ()

/-- The application as a host and tunneling library. A callback that is not registered never
grants a socket, has no auxiliary sockets, leaves the parameters at their defaults and establishes
nothing. -/
def hostScript (a : App) : Relay.HostScript where
  params := if a.has .tunnelParams then a.params.map (·.getD defaultParams) else []
  paramsDefault := defaultParams
  protect := if a.has .protectSocket then a.protect else []
  protectDefault := a.has .protectSocket
  refused := []
  auxiliary := if a.has .nextAuxiliarySocket then a.auxiliary.map socketOf else []
  establish := if a.has .establish then a.establish.map interfaceOf else []
  establishDefault := if a.has .establish then .ok () else .error noEstablish
  close := []
  protectLog := fun _ _ => []

end App

/-- The description of an interface as an application sees it: only the first resolver counts. -/
structure RawSettings where
  mtu : UInt16
  address : Ipv4
  prefixLength : UInt8
  routes : List Route
  dnsServer : Option (List Char)
  session : String
  deriving DecidableEq

/-- The description of an interface as an application sees it. -/
def RawSettings.ofSettings (s : InterfaceSettings) : RawSettings where
  mtu := s.mtu
  address := s.address
  prefixLength := s.prefixLength
  routes := s.routes
  dnsServer := s.dnsServers.head?.map Address.render
  session := s.session

/-- The call of a callback. -/
inductive AppCall where
  | protectSocket (fd : Int)
  | nextAuxiliarySocket
  | tunnelParams
  | establish (s : RawSettings)
  /-- The new interface's descriptor, or the socket that the application gave last. -/
  | onEstablish (fd : Option Int)
  | setLocalAddress (text : List Char)
  | onStateChanged (code : Nat)
  | onDisconnected (code : Int)
  | onLog (level : Int) (text : String)
  deriving DecidableEq

/-- The callback that is called. -/
def AppCall.callback : AppCall → Callback
  | .protectSocket _ => .protectSocket
  | .nextAuxiliarySocket => .nextAuxiliarySocket
  | .tunnelParams => .tunnelParams
  | .establish _ => .establish
  | .onEstablish _ => .onEstablish
  | .setLocalAddress _ => .setLocalAddress
  | .onStateChanged _ => .onStateChanged
  | .onDisconnected _ => .onDisconnected
  | .onLog _ _ => .onLog

end TunnelRelay.Client
