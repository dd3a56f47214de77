/-!
# Parts of a text

Texts are taken apart at separators, and what stands between two of them is trimmed of the white
space around it.

* White space is the Unicode property White_Space. The zero-width characters U+200B and U+FEFF,
  and U+180E, do not have it, nor do the information separators U+001C to U+001F.
* Large tables are kept as texts of words with blanks or line ends between them, whose numbers are
  hexadecimal scalars.
-/

namespace CitationFusion.Text

/-! ## 1. Separators -/

/-- The parts between separators, one more than there are separators. -/
def splitAt {α : Type} (isSeparator : α → Bool) : List α → List (List α)
  | [] => [[]]
  | c :: r =>
    if isSeparator c then [] :: splitAt isSeparator r
    else
      match splitAt isSeparator r with
      | [] => [[c]]
      | p :: ps => (c :: p) :: ps

/-! ## 2. White space -/

/-- Whether a character is white space. -/
def isBlank (c : Char) : Bool :=
  let n := c.toNat
  (0x09 ≤ n && n ≤ 0x0D) || n == 0x20 || n == 0x85 || n == 0xA0 || n == 0x1680 ||
    (0x2000 ≤ n && n ≤ 0x200A) || n == 0x2028 || n == 0x2029 || n == 0x202F || n == 0x205F ||
    n == 0x3000

/-- A list without the items at its end that satisfy `p`. -/
def dropEnd {α : Type} (p : α → Bool) (l : List α) : List α :=
  (l.reverse.dropWhile p).reverse

/-- A text without the white space at both ends. -/
def trim (cs : List Char) : List Char :=
  dropEnd isBlank (cs.dropWhile isBlank)

/-- Whether a text is empty but for white space. -/
def isBlankText (s : String) : Bool :=
  s.toList.all isBlank

/-! ## 3. Tables of scalars -/

/-- The words of a table. -/
def tableWords (table : String) : List (List Char) :=
  (splitAt (fun c => c == ' ' || c == '\n') table.toList).filter (!·.isEmpty)

/-- The value of a digit of a table. -/
def hexDigit (c : Char) : Nat :=
  if c.isDigit then c.toNat - '0'.toNat else c.toNat - 'A'.toNat + 10

/-- The number that some digits of a table write. -/
def hexValue (digits : List Char) : Nat := digits.foldl (fun n c => n * 16 + hexDigit c) 0

end CitationFusion.Text
