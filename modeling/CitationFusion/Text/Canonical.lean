import CitationFusion.Text.Canonical.Pairs
import CitationFusion.Text.Marks

/-!
# One writing for each text

A character with marks may be written as one composed character or as its parts, and marks that
do not touch each other in any order. `Canonical.normal` chooses one of all these writings: it
takes everything apart (`decompose`), brings the marks into order (`order`), and puts together
what it can (`compose`).
-/

namespace CitationFusion.Text.Canonical

/-! ## 1. Parts -/

/-- The first syllable of Hangul. -/
def firstSyllable : Nat := 0xAC00

/-- The scalars from which leading consonants, vowels and trailing consonants are counted. -/
def leadingBase : Nat := 0x1100
def vowelBase : Nat := 0x1161
def trailingBase : Nat := 0x11A7

/-- How many there are; trailing consonants include having none. -/
def leadingCount : Nat := 19
def vowelCount : Nat := 21
def trailingCount : Nat := 28

/-- The two parts of a syllable of Hangul. -/
def splitSyllable? (n : Nat) : Option (Nat × Nat) :=
  if firstSyllable ≤ n && n < firstSyllable + leadingCount * vowelCount * trailingCount then
    let place := n - firstSyllable
    let trailing := place % trailingCount
    if trailing == 0 then
      let pair := place / trailingCount
      some (leadingBase + pair / vowelCount, vowelBase + pair % vowelCount)
    else some (n - trailing, trailingBase + trailing)
  else none

/-- The syllable of Hangul that two scalars make. -/
def joinSyllable? (a b : Nat) : Option Nat :=
  if leadingBase ≤ a && a < leadingBase + leadingCount &&
      vowelBase ≤ b && b < vowelBase + vowelCount then
    some (firstSyllable + ((a - leadingBase) * vowelCount + (b - vowelBase)) * trailingCount)
  else
    match splitSyllable? a with
    | some (_, vowel) =>
      if vowel < vowelBase + vowelCount && trailingBase < b && b < trailingBase + trailingCount then
        some (a + (b - trailingBase))
      else none
    | none => none

/-- The two parts of a composed character. -/
def split? (n : Nat) : Option (Nat × Nat) :=
  match splitSyllable? n with
  | some parts => some parts
  | none => (pairs.find? (·.whole == n)).map fun p => (p.first, p.second)

/-- The composed character that two scalars make. -/
def join? (a b : Nat) : Option Nat :=
  match joinSyllable? a b with
  | some n => some n
  | none => (pairs.find? fun p => p.first == a && p.second == b).map (·.whole)

/-- How often a character can be taken apart. -/
def depth : Nat := 4

/-- A scalar without composed characters. -/
def partsOf : (depth : Nat) → (n : Nat) → List Nat
  | 0, n => [n]
  | depth + 1, n =>
    match split? n with
    | none => [n]
    | some (a, b) => partsOf depth a ++ partsOf depth b

/-- Scalars without composed characters. -/
def decompose (scalars : List Nat) : List Nat := scalars.flatMap (partsOf depth)

/-! ## 2. Order -/

/-- Puts a scalar before others, but behind marks of smaller classes. -/
def place (n : Nat) : List Nat → List Nat
  | [] => [n]
  | m :: r =>
    if combiningClass m != 0 && combiningClass m < combiningClass n then m :: place n r
    else n :: m :: r

/-- Scalars whose marks stand in the order of their classes. -/
def order (scalars : List Nat) : List Nat := scalars.foldr place []

/-! ## 3. Composed characters -/

/-- Whether a mark is kept from the character that it belongs to by the marks between them, the
    last one first. -/
def isBlocked (between : List Nat) (n : Nat) : Bool :=
  match between with
  | [] => false
  | m :: _ => combiningClass n ≤ combiningClass m

/-- Puts scalars together behind a character and the marks that stay behind it, the last one
    first. -/
def composeBehind (character : Nat) (behind : List Nat) : List Nat → List Nat
  | [] => character :: behind.reverse
  | n :: rest =>
    match if isBlocked behind n then none else join? character n with
    | some whole => composeBehind whole behind rest
    | none =>
      if combiningClass n == 0 then character :: (behind.reverse ++ composeBehind n [] rest)
      else composeBehind character (n :: behind) rest

/-- Puts scalars together. -/
def compose : List Nat → List Nat
  | [] => []
  | n :: rest =>
    if combiningClass n == 0 then composeBehind n [] rest else n :: compose rest

/-- The one writing of a text. -/
def normal (scalars : List Nat) : List Nat := compose (order (decompose scalars))

end CitationFusion.Text.Canonical
