import TunnelRelay.Net.Ipv4
/-!
# Routes and netmasks

A route is a destination with the number of leading bits that count. The two routes of one bit
cover every address and win over a default route without replacing it.
-/

namespace TunnelRelay

open Net

/-- The netmask of a prefix length: that many leading ones, thirty-two at most. -/
def netmask (length : UInt8) : Ipv4 :=
  if length = 0 then .ofUInt32 0
  else if 32 ≤ length then .ofUInt32 0xFFFFFFFF
  else .ofUInt32 (0xFFFFFFFF <<< (32 - length.toUInt32))

/-- A network by its address and prefix length. -/
structure Route where
  dest : Ipv4
  prefixLength : UInt8
  deriving DecidableEq

namespace Route

/-- The text of a route. -/
def render (r : Route) : List Char :=
  r.dest.render ++ '/' :: Nat.toDigits 10 r.prefixLength.toNat

/-- The two halves of the address space. -/
def halves : List Route := [⟨⟨0, 0, 0, 0⟩, 1⟩, ⟨⟨128, 0, 0, 0⟩, 1⟩]

end Route

end TunnelRelay
