/-!
# Text in a TOML document

Blanks are spaces and tabs; a line ends with a line feed, before which a carriage return may
stand. Comments and strings hold any character but control characters other than the tab.

There are four kinds of strings: between quotes, with escapes, or between apostrophes, without;
and each on one line, or on several between three of those.
-/

namespace CitationFusion.Toml

/-- Takes something off the front of a text, or fails. -/
abbrev Scan (α : Type) := List Char → Option (α × List Char)

/-! ## 1. Blanks, comments, line ends -/

/-- Whether a character is a blank. -/
def isBlank (c : Char) : Bool := c == ' ' || c == '\t'

/-- A text without the blanks before it. -/
def skipBlanks (cs : List Char) : List Char := cs.dropWhile isBlank

/-- Whether a character may stand in a comment or a string. -/
def isPlain (c : Char) : Bool := c == '\t' || (0x20 ≤ c.toNat && c.toNat != 0x7F)

/-- What follows a line end at the head of a text. -/
def lineEnd? : List Char → Option (List Char)
  | '\n' :: r => some r
  | '\r' :: '\n' :: r => some r
  | _ => none

/-- A text without the comment before it, if there is one. -/
def skipComment : List Char → List Char
  | '#' :: r => r.dropWhile isPlain
  | cs => cs

/-- Ends a line: blanks, perhaps a comment, and a line end or the end of the text. -/
def endLine (cs : List Char) : Option (List Char) :=
  match skipComment (skipBlanks cs) with
  | [] => some []
  | rest => lineEnd? rest

/-- Skips blanks, comments and line ends; at most `fuel` lines. -/
def skipLines : (fuel : Nat) → List Char → List Char
  | 0, cs => cs
  | fuel + 1, cs =>
    let rest := skipComment (skipBlanks cs)
    match lineEnd? rest with
    | some rest => skipLines fuel rest
    | none => rest

/-- Skips blanks, comments and line ends. -/
def skipSpace (cs : List Char) : List Char := skipLines (cs.length + 1) cs

/-! ## 2. Escapes -/

/-- The value of a hexadecimal digit. -/
def hexValue? (c : Char) : Option Nat :=
  if '0' ≤ c && c ≤ '9' then some (c.toNat - 0x30)
  else if 'A' ≤ c && c ≤ 'F' then some (c.toNat - 0x37)
  else if 'a' ≤ c && c ≤ 'f' then some (c.toNat - 0x57)
  else none

/-- Reads a number of exactly `count` hexadecimal digits. -/
def readHex : (count : Nat) → (value : Nat) → Scan Nat
  | 0, value, cs => some (value, cs)
  | _ + 1, _, [] => none
  | count + 1, value, c :: r =>
    match hexValue? c with
    | some d => readHex count (value * 16 + d) r
    | none => none

/-- Reads the character of a number of hexadecimal digits. -/
def readScalar (count : Nat) : Scan Char := fun cs =>
  match readHex count 0 cs with
  | some (n, rest) => if n.isValidChar then some (Char.ofNat n, rest) else none
  | none => none

/-- Reads an escape behind its backslash. -/
def readEscape : Scan Char
  | '"' :: r => some ('"', r)
  | '\\' :: r => some ('\\', r)
  | 'b' :: r => some ('\x08', r)
  | 't' :: r => some ('\t', r)
  | 'n' :: r => some ('\n', r)
  | 'f' :: r => some ('\x0c', r)
  | 'r' :: r => some ('\r', r)
  | 'e' :: r => some ('\x1b', r)
  | 'x' :: r => readScalar 2 r
  | 'u' :: r => readScalar 4 r
  | 'U' :: r => readScalar 8 r
  | _ => none

/-! ## 3. Strings -/

/-- Reads the rest of a string on one line; at most `fuel` characters. -/
def readBasic : (fuel : Nat) → (seen : List Char) → Scan String
  | 0, _, _ => none
  | _ + 1, _, [] => none
  | fuel + 1, seen, c :: r =>
    if c == '"' then some (String.ofList seen.reverse, r)
    else if c == '\\' then
      match readEscape r with
      | some (e, rest) => readBasic fuel (e :: seen) rest
      | none => none
    else if isPlain c then readBasic fuel (c :: seen) r
    else none

/-- Reads the rest of a string on one line that has no escapes. -/
def readLiteral (seen : List Char) : Scan String
  | [] => none
  | c :: r =>
    if c == '\'' then some (String.ofList seen.reverse, r)
    else if isPlain c then readLiteral (c :: seen) r
    else none

/-- How many of a character stand at the head of a text. -/
def countOf (c : Char) (cs : List Char) : Nat := (cs.takeWhile (· == c)).length

/-- What a run of closing characters means: three of them close, and up to two more before them
    belong to the string. The first part is how many belong to it, the second one whether it is
    closed, and the third one how many are read. -/
def closing (run : Nat) : Nat × Bool × Nat :=
  if run < 3 then (run, false, run)
  else if run ≤ 5 then (run - 3, true, run)
  else (2, true, 5)

/-- A text without blanks and line ends at its head. -/
def skipEmptyLines : List Char → List Char
  | '\r' :: '\n' :: r => skipEmptyLines r
  | c :: r => if isBlank c || c == '\n' then skipEmptyLines r else c :: r
  | [] => []

/-- What follows a backslash at the end of a line: it hides the line end and all blanks and line
    ends that follow. -/
def continueLine? (cs : List Char) : Option (List Char) :=
  match lineEnd? (skipBlanks cs) with
  | some rest => some (skipEmptyLines rest)
  | none => none

/-- Reads the rest of a string on several lines, which three of `mark` close; at most `fuel`
    characters. -/
def readLong (mark : Char) (escapes : Bool) : (fuel : Nat) → (seen : List Char) → Scan String
  | 0, _, _ => none
  | _ + 1, _, [] => none
  | fuel + 1, seen, c :: r =>
    if c == mark then
      let (kept, closed, taken) := closing (countOf mark (c :: r))
      let seen := List.replicate kept mark ++ seen
      let rest := (c :: r).drop taken
      if closed then some (String.ofList seen.reverse, rest)
      else readLong mark escapes fuel seen rest
    else if escapes && c == '\\' then
      match continueLine? r with
      | some rest => readLong mark escapes fuel seen rest
      | none =>
        match readEscape r with
        | some (e, rest) => readLong mark escapes fuel (e :: seen) rest
        | none => none
    else
      match lineEnd? (c :: r) with
      | some rest => readLong mark escapes fuel ('\n' :: seen) rest
      | none => if isPlain c then readLong mark escapes fuel (c :: seen) r else none

/-- A text without the line end before it, if there is one. -/
def skipLineEnd (cs : List Char) : List Char := (lineEnd? cs).getD cs

/-- Reads a string, if one begins here. -/
def readString : List Char → Option (Option (String × List Char))
  | '"' :: '"' :: '"' :: r => some (readLong '"' true (r.length + 1) [] (skipLineEnd r))
  | '\'' :: '\'' :: '\'' :: r => some (readLong '\'' false (r.length + 1) [] (skipLineEnd r))
  | '"' :: r => some (readBasic (r.length + 1) [] r)
  | '\'' :: r => some (readLiteral [] r)
  | _ => none

end CitationFusion.Toml
