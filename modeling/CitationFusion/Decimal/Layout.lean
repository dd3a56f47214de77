import CitationFusion.Decimal.Shortest

/-!
# How doubles are written

A layout says what a text of a double looks like; `Layout.write` follows it.

* `Layout.json` is the layout of doubles in JSON documents and in messages about them.
* `Layout.plain` never uses an exponent and writes integers without a point.
-/

namespace CitationFusion

/-- The decisions of a text format for doubles. -/
structure Layout where
  /-- The leading exponents that are written without an exponent part; `none` means all. -/
  positional : Option (Int × Int)
  /-- Whether an integer gets `.0`. -/
  pointZero : Bool
  /-- Which of two equally near shortest decimals is written. -/
  tie : Tie

namespace Layout

/-- JSON: positional for leading exponents from -5 to 15, a mark of being a double always. -/
def json : Layout := ⟨some (-5, 15), true, .even⟩

/-- Positional always, integers without a point. -/
def plain : Layout := ⟨none, false, .up⟩

/-- The decimal digits of a number. -/
def digitsOf (n : Nat) : List Char := Nat.toDigits 10 n

/-- A decimal without an exponent part. -/
def writePositional (pointZero : Bool) (d : Decimal) : List Char :=
  let ds := digitsOf d.digits
  if 0 ≤ d.exp then
    ds ++ List.replicate d.exp.toNat '0' ++ (if pointZero then ['.', '0'] else [])
  else
    let places := (-d.exp).toNat
    if places < ds.length then ds.take (ds.length - places) ++ '.' :: ds.drop (ds.length - places)
    else '0' :: '.' :: (List.replicate (places - ds.length) '0' ++ ds)

/-- A decimal with an exponent part: one digit, the others after a point, and a signed
    exponent. -/
def writeScientific (d : Decimal) : List Char :=
  let e := d.leading
  let mantissa :=
    match digitsOf d.digits with
    | [] => []
    | [c] => [c]
    | c :: r => c :: '.' :: r
  mantissa ++ 'e' :: (if 0 ≤ e then '+' else '-') :: digitsOf e.natAbs

/-- The text of a decimal. -/
def writeDecimal (l : Layout) (d : Decimal) : List Char :=
  match l.positional with
  | none => writePositional l.pointZero d
  | some (least, greatest) =>
    if d.digits == 0 || (least ≤ d.leading && d.leading ≤ greatest) then
      writePositional l.pointZero d
    else writeScientific d

/-- The text of a double. -/
def write (l : Layout) (x : Binary64) : List Char :=
  (if x.negative then ['-'] else []) ++ l.writeDecimal (Decimal.shortest l.tie x)

end Layout

end CitationFusion
