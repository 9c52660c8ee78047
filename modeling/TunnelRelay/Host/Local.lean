import TunnelRelay.Config.Basic
import TunnelRelay.Device.Kernel
import TunnelRelay.Host.DefaultInterface
/-!
# The local host

A host that is the machine itself. It keeps a socket outside the tunnel by binding it to a
physical interface: the one that the configuration names, or else the one of the default route.
-/

namespace TunnelRelay.Host

open Device

/-- What the program that prints the default routes answers. -/
structure RouteReport where
  output : List UInt8
  exit : ExitScript

/-- The local host. -/
structure LocalHost where
  /-- The name that is requested for tunnel devices. -/
  tunName : String
  /-- The physical interface that sockets are bound to. -/
  physical : String
  deriving DecidableEq

/-- The device of the default route, and the commands that were run to find it. -/
def queryDefault (report : RouteReport) : Except Error String × List Command :=
  match report.exit.take.1 with
  | .unstarted e => (.error (.io (.os e)), [])
  | .exited 0 =>
    match defaultInterface? (Text.Utf8.decodeLenient report.output) with
    | some name => (.ok (String.ofList name), [.showDefault])
    | none =>
      (.error (.config "no default route; set tun.protect_interface"), [.showDefault])
  | _ => (.error (.config "`ip route show default` failed"), [.showDefault])

/-- Binds a socket to an interface. The empty name stands for none, and of all others only the
loopback interface is sure to be there. -/
def bindTo (name : String) : Except OsError Unit :=
  let bytes := (NameField.ofName name.toList).bytes
  if bytes.isEmpty ∨ bytes = Text.Utf8.encode ['l', 'o'] then .ok () else .error .noDevice

namespace LocalHost

/-- The local host of a configuration, and the commands that were run to find its physical
interface. -/
def make (tun : TunConfig) (report : RouteReport) : Except Error LocalHost × List Command :=
  match tun.protectInterface with
  | some name => (.ok ⟨tun.name, name⟩, [])
  | none =>
    let (found, commands) := queryDefault report
    (found.map (⟨tun.name, ·⟩), commands)

/-- Whether the host keeps a socket outside the tunnel; `isOpen` says whether it is a socket. -/
def protect (h : LocalHost) (isOpen : Bool) : Bool := isOpen && (bindTo h.physical).isOk

end LocalHost

end TunnelRelay.Host
