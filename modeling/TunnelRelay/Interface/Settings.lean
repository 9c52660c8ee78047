import TunnelRelay.Interface.Route
import TunnelRelay.Net.Address
import TunnelRelay.Text.Quoted
/-!
# The description of an interface

What a host needs to know to create the tunnel's interface, and the report of it.
-/

namespace TunnelRelay

open Net

/-- The parameters of the tunnel that the tunneling library names. -/
structure TunnelParams where
  address : Ipv4
  prefixLength : UInt8
  mtu : UInt16
  deriving DecidableEq

/-- The families of addresses that an interface can carry. -/
inductive Family where
  | ipv4
  | ipv6
  deriving DecidableEq

/-- The description of an interface. -/
structure InterfaceSettings where
  mtu : UInt16
  address : Ipv4
  prefixLength : UInt8
  families : List Family
  routes : List Route
  dnsServers : List Address
  /-- The label of the session, which is the name of the server. -/
  session : String
  /-- Whether the host has attached a value of its own. -/
  hasIntent : Bool
  deriving DecidableEq

namespace InterfaceSettings

/-- The description that follows from the tunnel's parameters: IPv4 through the two half routes,
and one resolver. -/
def ofTunnel (p : TunnelParams) (dns : Address) (session : String) (hasIntent : Bool) :
    InterfaceSettings where
  mtu := p.mtu
  address := p.address
  prefixLength := p.prefixLength
  families := [.ipv4]
  routes := Route.halves
  dnsServers := [dns]
  session := session
  hasIntent := hasIntent

/-- The netmask of the interface. -/
def netmask (s : InterfaceSettings) : Ipv4 := TunnelRelay.netmask s.prefixLength

/-- Items between brackets. -/
def reportList (items : List (List Char)) : List Char :=
  '[' :: [',', ' '].intercalate items ++ [']']

/-- A named group of fields. -/
def reportFields (name : String) (fields : List (String × List Char)) : List Char :=
  name.toList ++ [' ', '{', ' '] ++
    [',', ' '].intercalate (fields.map fun f => f.1.toList ++ [':', ' '] ++ f.2) ++ [' ', '}']

/-- The report of a route. -/
def reportRoute (r : Route) : List Char :=
  reportFields "Route" [
    ("dest", r.dest.render),
    ("prefix_len", Nat.toDigits 10 r.prefixLength.toNat)]

/-- The report of a family. -/
def reportFamily : Family → List Char
  | .ipv4 => "Ipv4".toList
  | .ipv6 => "Ipv6".toList

/-- The report of a description, on one line. -/
def report (s : InterfaceSettings) : List Char :=
  reportFields "InterfaceSettings" [
    ("mtu", Nat.toDigits 10 s.mtu.toNat),
    ("address", s.address.render),
    ("prefix_len", Nat.toDigits 10 s.prefixLength.toNat),
    ("allowed_families", reportList (s.families.map reportFamily)),
    ("routes", reportList (s.routes.map reportRoute)),
    ("dns_servers", reportList (s.dnsServers.map Address.render)),
    ("session", Text.quoted s.session.toList),
    ("configure_intent", (if s.hasIntent then "true" else "false").toList)]

end InterfaceSettings

end TunnelRelay
