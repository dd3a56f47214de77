import CitationFusion.Text.Utf8

/-!
# Octets of ASCII text

Names for the octets that formats give a meaning, and the classes of digits.

Any octets are ASCII text with percent encoding. `encode` writes each octet that is not in a given
class as `%` and two upper-case hexadecimal digits. `decode` reads any such escape back; a `%`
without two hexadecimal digits behind it stands for itself.
-/

namespace CitationFusion.Ascii

/-- The octet of an ASCII character. -/
abbrev tab : UInt8 := 0x09
abbrev lineFeed : UInt8 := 0x0A
abbrev carriageReturn : UInt8 := 0x0D
abbrev space : UInt8 := 0x20
abbrev quote : UInt8 := 0x22
abbrev plus : UInt8 := 0x2B
abbrev comma : UInt8 := 0x2C
abbrev minus : UInt8 := 0x2D
abbrev point : UInt8 := 0x2E
abbrev zero : UInt8 := 0x30
abbrev colon : UInt8 := 0x3A
abbrev openBracket : UInt8 := 0x5B
abbrev backslash : UInt8 := 0x5C
abbrev closeBracket : UInt8 := 0x5D
abbrev openBrace : UInt8 := 0x7B
abbrev closeBrace : UInt8 := 0x7D

/-- Whether an octet is a decimal digit. -/
def isDigit (b : UInt8) : Bool := 0x30 ≤ b && b ≤ 0x39

/-- The value of a decimal digit. -/
def digitValue (b : UInt8) : Nat := b.toNat - 0x30

/-- The value of a hexadecimal digit. -/
def hexValue? (b : UInt8) : Option Nat :=
  if isDigit b then some (b.toNat - 0x30)
  else if 0x41 ≤ b && b ≤ 0x46 then some (b.toNat - 0x37)
  else if 0x61 ≤ b && b ≤ 0x66 then some (b.toNat - 0x57)
  else none

/-- The octets of a list of ASCII characters. -/
def octets (cs : List Char) : Bytes := cs.map (fun c => c.toNat.toUInt8)

end CitationFusion.Ascii

namespace CitationFusion.Percent

open Ascii

/-- An upper-case hexadecimal digit of a number below sixteen. -/
def upperHex (n : Nat) : UInt8 := (if n < 10 then 0x30 + n else 0x37 + n).toUInt8

/-- One octet as an escape. -/
def escape (b : UInt8) : Bytes := [0x25, upperHex (b.toNat / 16), upperHex (b.toNat % 16)]

/-- Octets, those escaped that are not in the class `keep`. -/
def encode (keep : UInt8 → Bool) (bs : Bytes) : Bytes :=
  bs.flatMap fun b => if keep b then [b] else escape b

/-- Octets with the escapes in them replaced by what they stand for. -/
def decode : Bytes → Bytes
  | [] => []
  | [a] => [a]
  | [a, b] => [a, b]
  | a :: b :: c :: rest =>
    if a == 0x25 then
      match hexValue? b, hexValue? c with
      | some hi, some lo => (hi * 16 + lo).toUInt8 :: decode rest
      | _, _ => a :: decode (b :: c :: rest)
    else a :: decode (b :: c :: rest)

/-- Whether an octet is a letter, a digit, or one of `-`, `.`, `_` and `~`. -/
def isUnreserved (b : UInt8) : Bool :=
  isDigit b || (0x41 ≤ b && b ≤ 0x5A) || (0x61 ≤ b && b ≤ 0x7A) || b == 0x2D || b == 0x2E ||
    b == 0x5F || b == 0x7E

end CitationFusion.Percent
