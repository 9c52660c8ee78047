import TunnelRelay.Text.Blank
/-!
# IPv4 addresses

Four bytes, written as dotted decimal numbers without superfluous zeros. Reading accepts exactly
that form.
-/

namespace TunnelRelay.Net

/-- An IPv4 address. -/
structure Ipv4 where
  a : UInt8
  b : UInt8
  c : UInt8
  d : UInt8
  deriving DecidableEq

namespace Ipv4

/-- The four bytes, the most significant first. -/
def bytes (ip : Ipv4) : List UInt8 := [ip.a, ip.b, ip.c, ip.d]

/-- The address with the given bits. -/
def ofUInt32 (n : UInt32) : Ipv4 :=
  ⟨(n >>> 24).toUInt8, (n >>> 16).toUInt8, (n >>> 8).toUInt8, n.toUInt8⟩

/-- The decimal digits of a byte. -/
def renderByte (n : UInt8) : List Char := Nat.toDigits 10 n.toNat

/-- The dotted form. -/
def render (ip : Ipv4) : List Char :=
  renderByte ip.a ++ '.' :: renderByte ip.b ++ '.' :: renderByte ip.c ++ '.' :: renderByte ip.d

/-- Reads one byte: all digits ahead, one to three of them, the first of several not a zero. -/
def readByte (cs : List Char) : Option (UInt8 × List Char) :=
  let digits := cs.takeWhile Char.isDigit
  let n := digits.foldl (fun (n : Nat) c => n * 10 + (c.toNat - 0x30)) 0
  if digits.isEmpty ∨ 3 < digits.length ∨ 255 < n ∨ (1 < digits.length ∧ digits.head? = some '0')
  then none
  else some (n.toUInt8, cs.dropWhile Char.isDigit)

/-- Reads a point. -/
def readPoint : List Char → Option (List Char)
  | '.' :: rest => some rest
  | _ => none

/-- Reads an address from the front of a text. -/
def read (cs : List Char) : Option (Ipv4 × List Char) := do
  let (a, cs) ← readByte cs
  let (b, cs) ← readByte (← readPoint cs)
  let (c, cs) ← readByte (← readPoint cs)
  let (d, cs) ← readByte (← readPoint cs)
  pure (⟨a, b, c, d⟩, cs)

/-- The address that a whole text writes. -/
def parse? (cs : List Char) : Option Ipv4 :=
  match read cs with
  | some (ip, []) => some ip
  | _ => none

end Ipv4

end TunnelRelay.Net
