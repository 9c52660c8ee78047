import TunnelRelay.Net.Ipv4
/-!
# IPv6 addresses

Eight groups of 16 bits. They are written in lower-case hexadecimal with the first longest run of
at least two zero groups left out; an address that maps an IPv4 address ends in that address's
dotted form. Reading accepts one run of left-out groups anywhere, up to four digits a group in
either case, and a dotted form in place of the last two groups.
-/

namespace TunnelRelay.Net

/-- An IPv6 address. -/
structure Ipv6 where
  groups : List UInt16
  size_groups : groups.length = 8
  deriving DecidableEq

namespace Ipv6

/-- The address of the given groups, which are cut or filled with zeros to eight. -/
def ofGroups (groups : List UInt16) : Ipv6 :=
  ⟨(groups ++ List.replicate 8 0).take 8, by simp⟩

/-- The loopback address. -/
def loopback : Ipv6 := ofGroups [0, 0, 0, 0, 0, 0, 0, 1]

/-- The IPv4 address that the address maps, if it maps one. -/
def mapped? (ip : Ipv6) : Option Ipv4 :=
  match ip.groups with
  | [0, 0, 0, 0, 0, 0xFFFF, g, h] =>
    some ⟨(g >>> 8).toUInt8, g.toUInt8, (h >>> 8).toUInt8, h.toUInt8⟩
  | _ => none

/-- The shortest lower-case hexadecimal digits of a group. -/
def renderGroup (g : UInt16) : List Char := Nat.toDigits 16 g.toNat

/-- Groups with colons between them. -/
def renderGroups : List UInt16 → List Char
  | [] => []
  | [g] => renderGroup g
  | g :: gs => renderGroup g ++ ':' :: renderGroups gs

/-- The number of zero groups at the front. -/
def leadingZeros : List UInt16 → Nat
  | 0 :: gs => leadingZeros gs + 1
  | _ => 0

/-- The start and the length of the first longest run of zero groups, where the groups start at
`place`. -/
def longestZeros (place : Nat) : List UInt16 → Nat × Nat
  | [] => (place, 0)
  | g :: gs =>
    let here := leadingZeros (g :: gs)
    let later := longestZeros (place + 1) gs
    if later.2 ≤ here then (place, here) else later

/-- The canonical form. -/
def render (ip : Ipv6) : List Char :=
  match ip.mapped? with
  | some v4 => [':', ':', 'f', 'f', 'f', 'f', ':'] ++ v4.render
  | none =>
    let (start, length) := longestZeros 0 ip.groups
    if 1 < length then
      renderGroups (ip.groups.take start) ++ [':', ':'] ++
        renderGroups (ip.groups.drop (start + length))
    else renderGroups ip.groups

/-- The value of a hexadecimal digit of either case. -/
def digit? (c : Char) : Option Nat :=
  if '0' ≤ c ∧ c ≤ '9' then some (c.toNat - 0x30)
  else if 'a' ≤ c ∧ c ≤ 'f' then some (c.toNat - 0x57)
  else if 'A' ≤ c ∧ c ≤ 'F' then some (c.toNat - 0x37)
  else none

/-- Reads one group: all digits ahead, one to four of them. -/
def readGroup (cs : List Char) : Option (UInt16 × List Char) :=
  let digits := cs.takeWhile fun c => (digit? c).isSome
  if digits.isEmpty ∨ 4 < digits.length then none
  else
    let n := digits.foldl (fun (n : Nat) c => n * 16 + (digit? c).getD 0) 0
    some (n.toUInt16, cs.drop digits.length)

/-- Reads the colon in front of every group but the first. -/
def readColon (isFirst : Bool) (cs : List Char) : Option (List Char) :=
  if isFirst then some cs
  else match cs with
    | ':' :: rest => some rest
    | _ => none

/-- The two groups of an IPv4 address. -/
def groupsOf (ip : Ipv4) : List UInt16 :=
  [ip.a.toUInt16 * 256 + ip.b.toUInt16, ip.c.toUInt16 * 256 + ip.d.toUInt16]

/-- Reads up to `limit` groups. A dotted form counts for two and ends the groups. Gives the
groups, whether they end in a dotted form, and what follows the last of them. -/
def readGroups : Nat → Bool → List Char → List UInt16 × Bool × List Char
  | 0, _, cs => ([], false, cs)
  | limit + 1, isFirst, cs =>
    match (if 0 < limit then readColon isFirst cs >>= Ipv4.read else none) with
    | some (v4, rest) => (groupsOf v4, true, rest)
    | none =>
      match readColon isFirst cs >>= readGroup with
      | some (g, rest) =>
        let (gs, dotted, rest) := readGroups limit false rest
        (g :: gs, dotted, rest)
      | none => ([], false, cs)

/-- Reads an address from the front of a text. The left-out groups are at least one. -/
def read (cs : List Char) : Option (Ipv6 × List Char) :=
  match readGroups 8 true cs with
  | (front, dotted, rest) =>
    if front.length = 8 then some (ofGroups front, rest)
    else if dotted then none
    else match rest with
      | ':' :: ':' :: rest =>
        match readGroups (7 - front.length) true rest with
        | (back, _, rest) =>
          let zeros := List.replicate (8 - front.length - back.length) 0
          some (ofGroups (front ++ zeros ++ back), rest)
      | _ => none

/-- The address that a whole text writes. -/
def parse? (cs : List Char) : Option Ipv6 :=
  match read cs with
  | some (ip, []) => some ip
  | _ => none

end Ipv6

end TunnelRelay.Net
