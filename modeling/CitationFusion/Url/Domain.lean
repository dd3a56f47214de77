import CitationFusion.Text.Ascii
import CitationFusion.Text.Canonical
import CitationFusion.Text.Direction
import CitationFusion.Text.Utf8
import CitationFusion.Url.Domain.Mapping
import CitationFusion.Url.Punycode

/-!
# Domains

A domain in the form in which it is looked up: lower case, and ASCII only (`Domain.toAscii?`).
Labels of other characters are folded, brought into their one writing, and written in ASCII
behind `xn--`; labels that already are so written have to be written well.

A label of other characters does not begin with a mark, has joiners only where letters need them
(`joinersFit`), and keeps to one direction of writing, if the domain has any that is read from
right to left (`keepsDirection`).
-/

namespace CitationFusion.Url.Domain

open Ascii Text

/-! ## 1. Domains of ASCII characters -/

/-- Whether an octet may not stand in a domain. -/
def isForbidden (b : UInt8) : Bool :=
  b ≤ 0x20 || b == 0x7F || b == 0x25 || b == 0x23 || b == 0x2F || b == 0x3A || b == 0x3C ||
    b == 0x3E || b == 0x3F || b == 0x40 || b == 0x5B || b == 0x5C || b == 0x5D || b == 0x5E ||
    b == 0x7C

/-- An octet in lower case. -/
def toLower (b : UInt8) : UInt8 := if 0x41 ≤ b && b ≤ 0x5A then b + 0x20 else b

/-- What stands before a label that is written in ASCII. -/
def encodedMark : List Nat := [0x78, 0x6E, 0x2D, 0x2D]

/-- Whether a label is one that is written in ASCII. -/
def isEncoded (label : List Nat) : Bool := encodedMark.isPrefixOf label

/-- Whether a scalar is ASCII. -/
def isAscii (n : Nat) : Bool := n < 0x80

/-- Whether a domain has neither other characters nor labels that stand for some. -/
def isPlain (domain : Bytes) : Bool :=
  domain.all (· < 0x80) &&
    (splitAt (· == point) (domain.map toLower)).all fun label => !isEncoded (label.map (·.toNat))

/-! ## 2. Labels of other characters -/

/-- The characters that join and part their neighbours. -/
def joiner : Nat := 0x200D
def nonJoiner : Nat := 0x200C

/-- Whether letters join across a place, seen from the characters before it, the last one first,
    and from those behind it. -/
def isJoined (before behind : List Nat) : Bool :=
  ((before.dropWhile isJoinedAcross).head?.map joinsOn).getD false &&
    ((behind.dropWhile isJoinedAcross).head?.map joinsBack).getD false

/-- Whether the joiners of a label stand where letters need them, `before` being the characters
    before, the last one first. -/
def joinersFit (before : List Nat) : List Nat → Bool
  | [] => true
  | n :: rest =>
    let behindVirama := (before.head?.map isVirama).getD false
    let fits :=
      if n == joiner then behindVirama
      else if n == nonJoiner then behindVirama || isJoined before rest
      else true
    fits && joinersFit (n :: before) rest

/-- Whether a label may stand in a domain. -/
def isSound (label : List Nat) : Bool :=
  !((label.head?.map isMark).getD false) && label.all (!isDisallowed ·) && joinersFit [] label

/-- The classes that may stand in a label that is read from right to left, with numbers of one
    kind only. -/
def fitsRightToLeft (classes : List Bidi) : Bool :=
  (classes.all fun b => b != .leftToRight && b != .separator) &&
    !(classes.contains .europeanNumber && classes.contains .arabicNumber)

/-- The classes that may stand in a label that is read from left to right. -/
def fitsLeftToRight (classes : List Bidi) : Bool :=
  classes.all fun b => b != .rightToLeft && b != .arabicNumber && b != .separator

/-- Whether a label keeps to one direction: it begins with a letter of that direction and ends
    with such a letter or a number, but for marks. -/
def keepsDirection (label : List Nat) : Bool :=
  let classes := label.map Bidi.of
  let last := (classes.reverse.dropWhile (· == .mark)).head?
  match classes.head? with
  | none => true
  | some .rightToLeft =>
    fitsRightToLeft classes && (last == some .rightToLeft || last == some .europeanNumber ||
      last == some .arabicNumber)
  | some .leftToRight =>
    fitsLeftToRight classes && (last == some .leftToRight || last == some .europeanNumber)
  | some _ => false

/-- Whether a label has characters that are read from right to left. -/
def isMixed (label : List Nat) : Bool :=
  label.any fun n => Bidi.of n == .rightToLeft || Bidi.of n == .arabicNumber

/-! ## 3. Reading and writing labels -/

/-- How many characters a label may have that is written in ASCII. -/
def writtenLimit : Nat := 1000

/-- How many characters the ASCII form of a label may have when it is read. -/
def readLimit : Nat := 2000

/-- The characters of a label, folded and in their one writing. -/
def readLabel? (label : List Nat) : Option (List Nat) :=
  if isEncoded label then do
    let text := label.drop encodedMark.length
    let read ← if readLimit < text.length then none else Punycode.decode? text
    if read.all isAscii || isEncoded read || !(read.all isValid) || Canonical.normal read != read
    then none
    else if isSound read then some read else none
  else if label.all isAscii || isSound label then some label
  else none

/-- A label in ASCII. -/
def writeLabel? (label : List Nat) : Option (List Nat) :=
  if label.all isAscii then some label
  else if writtenLimit < label.length then none
  else some (encodedMark ++ Punycode.encode label)

/-- The ASCII form of a domain that has other characters or labels that stand for some. -/
def international? (domain : Bytes) : Option Bytes := do
  let text ← Utf8.text? domain
  let scalars := text.toList.map Char.toNat
  let labels ← (splitAt (· == 0x2E) (Canonical.normal (scalars.flatMap fold))).mapM readLabel?
  if labels.any isMixed && !(labels.all keepsDirection) then none
  else
    let written ← labels.mapM writeLabel?
    return (List.intercalate [0x2E] written).map fun n => n.toUInt8

/-- The form in which a domain is looked up. -/
def toAscii? (domain : Bytes) : Option Bytes := do
  let name ← if isPlain domain then some (domain.map toLower) else international? domain
  if name.any isForbidden then none else some name

end CitationFusion.Url.Domain
