import CitationFusion.Text.Unprintable
import CitationFusion.Decimal.Layout
import CitationFusion.Text.Ascii

/-!
# What can be wrong with a JSON text

A reader stops with a `Stop`: the fault, and how many octets were unread where it is reported.
`Stop.describe` turns the count into a line and a column of the whole text.

A fault of the next octet is reported at that octet (`Stop.onNext`), a fault of what was read
already after it (`Stop.after`).
-/

namespace CitationFusion.Json

/-- A value of the wrong kind, as messages name it. -/
inductive Found where
  | null
  | boolean (b : Bool)
  | integer (n : Int)
  | float (x : Binary64)
  | text (s : String)
  | list
  | object
  deriving DecidableEq, Repr

/-- The wording of a value of the wrong kind. -/
def Found.message : Found → String
  | .null => "null"
  | .boolean b => if b then "boolean `true`" else "boolean `false`"
  | .integer n => "integer `" ++ toString n ++ "`"
  | .float x => "floating point `" ++ String.ofList (Layout.json.write x) ++ "`"
  | .text s => "string " ++ Text.quote s
  | .list => "sequence"
  | .object => "map"

/-! ## 1. Faults -/

/-- What is wrong with a JSON text. -/
inductive Fault where
  | endInValue
  | endInList
  | endInObject
  | endInString
  | expectedValue
  | expectedLiteral
  | expectedColon
  | expectedListEnd
  | expectedObjectEnd
  | keyNoString
  | trailingComma
  | trailingCharacters
  | badNumber
  | badEscape
  | badCodePoint
  | controlCharacter
  | loneSurrogate
  | halfSurrogatePair
  | numberOutOfRange
  | tooDeep
  | missing (field : String)
  | duplicate (field : String)
  | badType (found : Found) (expected : String)
  | badValue (found : Found) (expected : String)
  | badLength (count : Nat) (expected : String)
  | unknownVariant (name : String) (known : List String)
  deriving DecidableEq, Repr

/-- Names between backquotes, the last two joined by a word. -/
def alternatives : List String → String
  | [] => ""
  | [a] => "`" ++ a ++ "`"
  | a :: r => "`" ++ a ++ "` or " ++ alternatives r

/-- The wording of a fault. -/
def Fault.message : Fault → String
  | .endInValue => "EOF while parsing a value"
  | .endInList => "EOF while parsing a list"
  | .endInObject => "EOF while parsing an object"
  | .endInString => "EOF while parsing a string"
  | .expectedValue => "expected value"
  | .expectedLiteral => "expected ident"
  | .expectedColon => "expected `:`"
  | .expectedListEnd => "expected `,` or `]`"
  | .expectedObjectEnd => "expected `,` or `\x7d`"
  | .keyNoString => "key must be a string"
  | .trailingComma => "trailing comma"
  | .trailingCharacters => "trailing characters"
  | .badNumber => "invalid number"
  | .badEscape => "invalid escape"
  | .badCodePoint => "invalid unicode code point"
  | .controlCharacter => "control character (\\u0000-\\u001F) found while parsing a string"
  | .loneSurrogate => "lone leading surrogate in hex escape"
  | .halfSurrogatePair => "unexpected end of hex escape"
  | .numberOutOfRange => "number out of range"
  | .tooDeep => "recursion limit exceeded"
  | .missing field => "missing field `" ++ field ++ "`"
  | .duplicate field => "duplicate field `" ++ field ++ "`"
  | .badType found expected => "invalid type: " ++ found.message ++ ", expected " ++ expected
  | .badValue found expected => "invalid value: " ++ found.message ++ ", expected " ++ expected
  | .badLength count expected => "invalid length " ++ toString count ++ ", expected " ++ expected
  | .unknownVariant name known =>
    "unknown variant `" ++ name ++ "`, expected " ++ alternatives known

/-! ## 2. Places -/

/-- A fault, and how many octets follow the place where it is reported. -/
structure Stop where
  fault : Fault
  unread : Nat
  deriving DecidableEq, Repr

/-- A fault of what was read, `rest` being unread. -/
def Stop.after (f : Fault) (rest : Bytes) : Stop := ⟨f, rest.length⟩

/-- A fault of the next octet of `rest`, or of the end. -/
def Stop.onNext (f : Fault) (rest : Bytes) : Stop := ⟨f, rest.length - 1⟩

/-- The line and the column that some octets end on. -/
def lineAndColumn (read : Bytes) : Nat × Nat :=
  let current := read.reverse.takeWhile (· != Ascii.lineFeed)
  (1 + read.count Ascii.lineFeed, current.length)

/-- The wording of a fault of the text `input`, with its place. -/
def Stop.describe (s : Stop) (input : Bytes) : String :=
  let (line, column) := lineAndColumn (input.take (input.length - s.unread))
  s.fault.message ++ " at line " ++ toString line ++ " column " ++ toString column

end CitationFusion.Json
