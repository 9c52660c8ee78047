import TunnelRelay.Device.Descriptor
import TunnelRelay.Device.Kernel
import TunnelRelay.Interface.Settings
/-!
# Tunnel devices

A tunnel device is created in a fixed list of steps. The first step that fails ends the creation,
and whatever descriptors are open then are released; a resolver that cannot be set is no failure.
The link of a device is taken down when the device is closed.
-/

namespace TunnelRelay.Device

open Net Host

/-- A step of the creation of a device, or of taking its link up or down. -/
inductive SetupStep where
  | openTunnel
  /-- Makes a tunnel device, which has its final name from here on. -/
  | attach
  | openControl
  | setAddress
  | setNetmask
  | setMtu
  | readFlags
  | writeFlags (up : Bool)
  | addRoute (route : Route)
  | configureResolver (server : Address)
  | register
  deriving DecidableEq

/-- The steps of the creation of a device. -/
def creationSteps (s : InterfaceSettings) : List SetupStep :=
  [.openTunnel, .attach, .openControl, .setAddress, .setNetmask, .setMtu, .readFlags,
      .writeFlags true] ++
    s.routes.map .addRoute ++ s.dnsServers.map .configureResolver ++ [.register]

/-- The steps by which the link of a device is taken down. -/
def takeDownSteps : List SetupStep := [.openControl, .readFlags, .writeFlags false]

/-- Steps as far as they have come. -/
structure Setup where
  kernel : Kernel
  /-- The name that was requested; once a device is there, its name. -/
  name : List Char
  /-- The flags of the link as they were read. -/
  flags : Int16 := 0
  actions : List Action := []
  /-- The descriptors that are open, in the order in which they were opened. -/
  handles : List Handle := []

namespace Setup

/-- The field that carries the name in requests. -/
def field (s : Setup) : NameField := .ofName s.name

/-- Remembers what has been tried or done. -/
def act (s : Setup) (a : Action) : Setup := { s with actions := s.actions ++ [a] }

/-- Makes a request, which the kernel may refuse. -/
def ask (s : Setup) (c : Call) (r : Request) : Option IoError × Setup :=
  (s.kernel.failure c, s.act (.request r))

/-- Makes a call that carries no device. -/
def call (s : Setup) (c : Call) : Option IoError × Setup := (s.kernel.failure c, s.act (.call c))

/-- Remembers a descriptor that has been opened. -/
def opened (s : Setup) (h : Handle) : Setup :=
  { s.act (.opened h) with handles := s.handles ++ [h] }

/-- Releases a descriptor. -/
def release (s : Setup) (h : Handle) : Setup :=
  { s.act (.released h) with handles := s.handles.erase h }

/-- Releases some descriptors, the one that was opened last first. -/
def releaseAll (s : Setup) (hs : List Handle) : Setup := hs.reverse.foldl release s

/-- Runs a command of the program that sets routes. -/
def runRouting (s : Setup) (c : Command) : Ending × Setup :=
  let (ending, routing) := s.kernel.routing.take
  (ending, { s with kernel := { s.kernel with routing } }.act (.command c ending))

/-- Runs a command of the program that sets resolvers. -/
def runResolver (s : Setup) (c : Command) : Ending × Setup :=
  let (ending, resolver) := s.kernel.resolver.take
  (ending, { s with kernel := { s.kernel with resolver } }.act (.command c ending))

/-- The failure of a route through a device, if it could not be added. -/
def routeFailure (device : List Char) (route : Route) : Ending → Option IoError
  | .unstarted e => some (.os e)
  | .exited 0 => none
  | _ => some (.other (String.ofList
      ("Failed to add route ".toList ++ route.render ++ " dev ".toList ++ device)))

/-- Adds a route through the device. -/
def addRoute (s : Setup) (route : Route) : Option IoError × Setup :=
  let (ending, t) := s.runRouting (.addRoute route s.name)
  (routeFailure s.name route ending, t)

/-- Makes an address the resolver of the device, and if that succeeds, of all names. -/
def configureResolver (s : Setup) (server : Address) : Setup :=
  let (ending, t) := s.runResolver (.setResolver s.name server)
  if ending.isSuccess then (t.runResolver (.claimDomain s.name)).2 else t

/-- What follows a success. -/
def onSuccess (f : Setup → Setup) : Option IoError × Setup → Option IoError × Setup
  | (none, s) => (none, f s)
  | failed => failed

/-- Does one step. -/
def perform (settings : InterfaceSettings) (s : Setup) : SetupStep → Option IoError × Setup
  | .openTunnel => onSuccess (opened · .tunnel) (s.ask .openTunnel .openTunnel)
  | .attach =>
    onSuccess (fun t => { t with name := (t.kernel.assign t.field).name })
      (s.ask .attach (.attach s.field tunnelFlags))
  | .openControl => onSuccess (opened · .control) (s.call .openControl)
  | .setAddress => s.ask .setAddress (.setAddress s.field settings.address)
  | .setNetmask => s.ask .setNetmask (.setNetmask s.field settings.netmask)
  | .setMtu => s.ask .setMtu (.setMtu s.field settings.mtu)
  | .readFlags =>
    onSuccess (fun t => { t with flags := t.kernel.flags }) (s.ask .readFlags (.readFlags s.field))
  | .writeFlags up => s.ask .writeFlags (.writeFlags s.field (switchFlags up s.flags))
  | .addRoute route => s.addRoute route
  | .configureResolver server => (none, s.configureResolver server)
  | .register =>
    match s.call .register with
    | (none, s) => (none, s)
    | (some e, s) => (some e, s.release .tunnel)

/-- Does steps in turn, up to the first that fails. -/
def performAll (settings : InterfaceSettings) (s : Setup) :
    List SetupStep → Option IoError × Setup
  | [] => (none, s)
  | step :: steps =>
    match s.perform settings step with
    | (none, s) => s.performAll settings steps
    | failed => failed

end Setup

/-- A tunnel device. -/
structure TunDevice where
  io : DescriptorInterface
  settings : InterfaceSettings
  kernel : Kernel

namespace TunDevice

/-- Creates a device with the given name, or with one of the kernel's choice if it is empty. Gives
the device or the failure, and what has been done. -/
def create (kernel : Kernel) (name : List Char) (settings : InterfaceSettings) :
    Except IoError TunDevice × List Action :=
  let start : Setup := { kernel, name }
  match start.performAll settings (creationSteps settings) with
  | (some e, s) => (.error e, (s.releaseAll s.handles).actions)
  | (none, s) =>
    (.ok ⟨{ name := String.ofList s.name }, settings, s.kernel⟩, (s.release .control).actions)

/-- Closes a device: the interface first, and then its link is taken down. -/
def close (d : TunDevice) : Option IoError × List Action × TunDevice :=
  let start : Setup := { kernel := d.kernel, name := d.io.name.toList }
  let (failure, s) := start.performAll d.settings takeDownSteps
  (failure, (s.releaseAll s.handles).actions, { d with io := d.io.close })

/-- Does one operation, and gives its answer and what it did beside it. -/
def apply (d : TunDevice) : InterfaceOp → InterfaceAnswer × List Action × TunDevice
  | .close =>
    match d.close with
    | (none, actions, d) => (.done, actions, d)
    | (some e, actions, d) => (.failed e, actions, d)
  | op =>
    let (answer, io) := d.io.apply op
    (answer, [], { d with io := io })

/-- Does the operations in turn and gives, for each, its answer and the requests that it made. -/
def run (d : TunDevice) : List InterfaceOp → List (InterfaceAnswer × List Request)
  | [] => []
  | op :: ops =>
    let (answer, actions, d) := d.apply op
    (answer, requests actions) :: d.run ops

end TunDevice

end TunnelRelay.Device
