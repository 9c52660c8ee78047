import TunnelRelay.Text.Escaped
/-!
# Quoted texts

A text between double quotes, for reports: the quote, the backslash and the common controls are
written with a backslash, and every other character that would not show is written by its number.
-/

namespace TunnelRelay.Text

/-- The digit of a value below 16. -/
def hexDigit (n : Nat) : Char :=
  if n < 10 then Char.ofNat (0x30 + n) else Char.ofNat (0x57 + n)

/-- The shortest lower-case hexadecimal digits of a number. -/
def hexDigits (n : Nat) : List Char := Nat.toDigits 16 n

/-- One character of a quoted text. -/
def quoteChar (c : Char) : List Char :=
  if c = '\x00' then ['\\', '0']
  else if c = '\t' then ['\\', 't']
  else if c = '\r' then ['\\', 'r']
  else if c = '\n' then ['\\', 'n']
  else if c = '\\' then ['\\', '\\']
  else if c = '"' then ['\\', '"']
  else if isEscaped c then ['\\', 'u', '{'] ++ hexDigits c.val.toNat ++ ['}']
  else [c]

/-- The text between double quotes. -/
def quoted (cs : List Char) : List Char := '"' :: cs.flatMap quoteChar ++ ['"']

end TunnelRelay.Text
