/-!
# UTF-8

`pieces` reads a byte string from the left into characters and undecodable pieces, where an
undecodable piece is a longest start of a well-formed sequence that the next byte does not
continue, or a single byte that starts none. Strict decoding refuses a text that has such a piece;
lenient decoding puts a replacement character in its place.
-/

namespace TunnelRelay.Text.Utf8

/-- Where the reader stands between two bytes. -/
inductive Stand where
  /-- Between characters. -/
  | fresh
  /-- Inside a character: `owed + 1` bytes are missing, `value` is what the bytes so far say, and
  the next byte is between `least` and `greatest`. -/
  | inside (owed value : Nat) (least greatest : UInt8)

/-- What the first byte of a sequence gives: perhaps a character or an undecodable piece, and
where the reader stands then. -/
def startSequence (b : UInt8) : List (Option Char) × Stand :=
  if b < 0x80 then ([some (Char.ofNat b.toNat)], .fresh)
  else if b < 0xC2 then ([none], .fresh)
  else if b < 0xE0 then ([], .inside 0 (b.toNat - 0xC0) 0x80 0xBF)
  else if b = 0xE0 then ([], .inside 1 0 0xA0 0xBF)
  else if b = 0xED then ([], .inside 1 0xD 0x80 0x9F)
  else if b < 0xF0 then ([], .inside 1 (b.toNat - 0xE0) 0x80 0xBF)
  else if b = 0xF0 then ([], .inside 2 0 0x90 0xBF)
  else if b < 0xF4 then ([], .inside 2 (b.toNat - 0xF0) 0x80 0xBF)
  else if b = 0xF4 then ([], .inside 2 4 0x80 0x8F)
  else ([none], .fresh)

/-- The pieces of what follows, for a reader that stands at `stand`. -/
def piecesFrom : Stand → List UInt8 → List (Option Char)
  | .fresh, [] => []
  | .inside _ _ _ _, [] => [none]
  | .fresh, b :: bs => (startSequence b).1 ++ piecesFrom (startSequence b).2 bs
  | .inside owed value least greatest, b :: bs =>
    if least ≤ b ∧ b ≤ greatest then
      let value := value * 64 + (b.toNat - 0x80)
      match owed with
      | 0 => some (Char.ofNat value) :: piecesFrom .fresh bs
      | owed + 1 => piecesFrom (.inside owed value 0x80 0xBF) bs
    else none :: ((startSequence b).1 ++ piecesFrom (startSequence b).2 bs)

/-- The characters and the undecodable pieces of a byte string. -/
def pieces (bs : List UInt8) : List (Option Char) := piecesFrom .fresh bs

/-- The text that the bytes encode, if they encode one. -/
def decode? (bs : List UInt8) : Option (List Char) := (pieces bs).mapM id

/-- The text with a replacement character for each undecodable piece. -/
def decodeLenient (bs : List UInt8) : List Char :=
  (pieces bs).map fun piece => piece.getD '\uFFFD'

/-- The bytes of a text. -/
def encode (cs : List Char) : List UInt8 := cs.flatMap String.utf8EncodeChar

end TunnelRelay.Text.Utf8
