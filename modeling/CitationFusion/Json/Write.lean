import CitationFusion.Decimal.Layout
import CitationFusion.Text.Ascii

/-!
# Writing JSON

Documents are written without white space. In a string the quote, the backslash and the control
characters below U+0020 are escaped, five of them by a letter, and nothing else is.
-/

namespace CitationFusion.Json

open Ascii

/-- A hexadecimal digit of a number below sixteen. -/
def hexDigit (n : Nat) : UInt8 := (if n < 10 then 0x30 + n else 0x57 + n).toUInt8

/-- How one character is written in a string. -/
def escapeChar (c : Char) : Bytes :=
  if c == '"' then [backslash, quote]
  else if c == '\\' then [backslash, backslash]
  else if c == '\n' then [backslash, 0x6E]
  else if c == '\r' then [backslash, 0x72]
  else if c == '\t' then [backslash, 0x74]
  else if c == '\x08' then [backslash, 0x62]
  else if c == '\x0c' then [backslash, 0x66]
  else if c.toNat < 0x20 then
    [backslash, 0x75, zero, zero, hexDigit (c.toNat / 16), hexDigit (c.toNat % 16)]
  else String.utf8EncodeChar c

/-- The characters of a string as they stand between the quotes. -/
def escape (cs : List Char) : Bytes := cs.flatMap escapeChar

/-- A string. -/
def writeString (s : String) : Bytes := quote :: (escape s.toList ++ [quote])

/-- A natural number. -/
def writeNat (n : Nat) : Bytes := octets (Nat.toDigits 10 n)

/-- A double. -/
def writeDouble (x : Binary64) : Bytes := octets (Layout.json.write x)

/-- `true` or `false`. -/
def writeBool (b : Bool) : Bytes :=
  if b then [0x74, 0x72, 0x75, 0x65] else [0x66, 0x61, 0x6C, 0x73, 0x65]

/-- The value that stands for nothing. -/
def writeNull : Bytes := [0x6E, 0x75, 0x6C, 0x6C]

/-- Texts with a comma between them. -/
def separated : List Bytes → Bytes
  | [] => []
  | [x] => x
  | x :: y :: r => x ++ comma :: separated (y :: r)

/-- A list of written values. -/
def writeList (items : List Bytes) : Bytes := openBracket :: (separated items ++ [closeBracket])

/-- A member of an object. -/
def writeMember (key : String) (value : Bytes) : Bytes := writeString key ++ colon :: value

/-- An object of written members. -/
def writeObject (members : List Bytes) : Bytes :=
  openBrace :: (separated members ++ [closeBrace])

end CitationFusion.Json
