import TunnelRelay.Host.Program
import TunnelRelay.Interface.Route
import TunnelRelay.Net.Address
import TunnelRelay.OsError
import TunnelRelay.Text.Utf8
/-!
# The kernel's side of a tunnel

The requests by which a tunnel device is created and configured, the commands that set its routes
and resolvers, and a script of what the kernel and the programs answer. Requests carry device
names as sixteen bytes, of which a name fills fifteen at most.
-/

namespace TunnelRelay.Device

open Net Host

/-- The greatest length of a device name, in bytes. -/
def nameLimit : Nat := 15

/-- The sixteen bytes of a request that carry a device name. -/
abbrev NameField := List UInt8

namespace NameField

/-- Bytes cut to the greatest length and padded with zeros. -/
def ofBytes (bytes : List UInt8) : NameField :=
  let kept := bytes.take nameLimit
  kept ++ List.replicate (nameLimit + 1 - kept.length) 0

/-- The field that carries a name. -/
def ofName (name : List Char) : NameField := ofBytes (Text.Utf8.encode name)

/-- The bytes in front of the first zero. -/
def bytes (f : NameField) : List UInt8 := f.takeWhile (· != 0)

/-- The name in a field. What is no text in it is replaced. -/
def name (f : NameField) : List Char := Text.Utf8.decodeLenient f.bytes

end NameField

/-- The calls to the kernel that can be refused. -/
inductive Call where
  /-- Opens the device that makes tunnels. -/
  | openTunnel
  /-- Makes a tunnel device of the opened one. -/
  | attach
  /-- Opens the socket that configuration goes through. -/
  | openControl
  | setAddress
  | setNetmask
  | setMtu
  | readFlags
  | writeFlags
  /-- Prepares the tunnel's descriptor to be waited on. -/
  | register
  deriving DecidableEq

/-- A request to the kernel with what it carries. -/
inductive Request where
  | openTunnel
  | attach (device : NameField) (flags : Int16)
  | setAddress (device : NameField) (address : Ipv4)
  | setNetmask (device : NameField) (netmask : Ipv4)
  | setMtu (device : NameField) (mtu : UInt16)
  | readFlags (device : NameField)
  | writeFlags (device : NameField) (flags : Int16)
  deriving DecidableEq

/-- The flags of a tunnel without packet headers. -/
def tunnelFlags : Int16 := 0x1001

/-- The flags of a link that is up and running. -/
def upFlags : Int16 := 0x41

/-- The flags of a link as it is taken up or down; all other flags stay. -/
def switchFlags (up : Bool) (flags : Int16) : Int16 :=
  if up then flags ||| upFlags else flags &&& ~~~upFlags

/-- A command of a program of the system. -/
inductive Command where
  /-- Routes a network through a device. -/
  | addRoute (route : Route) (device : List Char)
  /-- Makes an address the resolver of a device. -/
  | setResolver (device : List Char) (server : Address)
  /-- Sends all names to the resolver of a device. -/
  | claimDomain (device : List Char)
  /-- Prints the default routes. -/
  | showDefault
  deriving DecidableEq

/-- The line of a command. -/
def Command.line : Command → List Char
  | .addRoute route device =>
    "ip route replace ".toList ++ route.render ++ " dev ".toList ++ device
  | .setResolver device server => "resolvectl dns ".toList ++ device ++ ' ' :: server.render
  | .claimDomain device => "resolvectl domain ".toList ++ device ++ " ~.".toList
  | .showDefault => "ip -4 route show default".toList

/-- A descriptor that the creation of a device opens. -/
inductive Handle where
  | tunnel
  | control
  deriving DecidableEq

/-- Something that has been tried or done. -/
inductive Action where
  | request (r : Request)
  /-- A call that carries no device. -/
  | call (c : Call)
  /-- A command, and how its program has ended. -/
  | command (c : Command) (ending : Ending)
  | opened (h : Handle)
  | released (h : Handle)
  deriving DecidableEq

/-- The requests among some actions. -/
def requests (actions : List Action) : List Request :=
  actions.filterMap fun
    | .request r => some r
    | _ => none

/-- The commands among some actions that have been started. -/
def commands (actions : List Action) : List Command :=
  actions.filterMap fun
    | .command c ending => if ending.isStarted then some c else none
    | _ => none

/-- What the kernel and the programs answer. -/
structure Kernel where
  /-- The failure of each call that is refused. -/
  refusal : Call → Option OsError
  /-- The field that the kernel writes back for a requested one. -/
  assign : NameField → NameField
  /-- The flags of the link before it is taken up. -/
  flags : Int16
  /-- The program that sets routes. -/
  routing : ExitScript
  /-- The program that sets resolvers. -/
  resolver : ExitScript

/-- The failure of a call, if it is refused. -/
def Kernel.failure (k : Kernel) (c : Call) : Option IoError := (k.refusal c).map .os

/-- Grants the requested name, and gives another one if none is requested. -/
def Kernel.assignOr (other : List UInt8) (requested : NameField) : NameField :=
  if requested.bytes.isEmpty then NameField.ofBytes other else requested

end TunnelRelay.Device
