/-!
# Finite doubles, exactly

A double of 64 bits as what it denotes: a sign and a magnitude `mant * 2 ^ exp`. Every
operation forms the exact quotient of two natural numbers and rounds it once, to the nearest
double and at a tie to the even one; a result past the largest double is `none`. Nothing here
touches the machine's own floating point, so every value and every text of it can be computed
by the kernel.
-/

namespace CitationFusion

/-- A finite double: its sign, and its magnitude `mant * 2 ^ exp`. -/
structure Binary64 where
  negative : Bool
  mant : Nat
  exp : Int
  deriving DecidableEq, Repr, Inhabited

namespace Binary64

/-- The least exponent: that of the subnormal doubles, and of zero. -/
def minExp : Int := -1074

/-- The greatest exponent of a finite double. -/
def maxExp : Int := 971

/-- The least number of 53 binary digits. -/
def leastNormal : Nat := 4503599627370496

/-- Positive zero. -/
def zero : Binary64 := ⟨false, 0, minExp⟩

/-- `num / (den * 2 ^ e)` as a quotient of two natural numbers. -/
def scaled (num den : Nat) (e : Int) : Nat × Nat :=
  (num * Nat.pow 2 (-e).toNat, den * Nat.pow 2 e.toNat)

/-- A quotient rounded to the nearest integer, at a tie to the even one. -/
def nearest (num den : Nat) : Nat :=
  let q := num / den
  let r := 2 * (num % den)
  if r < den || (r == den && q % 2 == 0) then q else q + 1

/-- The exponent at which `num / den` has 53 binary digits, or the least one. -/
def exponentOf (num den : Nat) : Int :=
  let e : Int := (num.log2 : Int) - (den.log2 : Int) - 52
  let s := scaled num den e
  max minExp (if s.1 < leastNormal * s.2 then e - 1 else e)

/-- The double nearest to `num / den`, with the given sign; `none` past the largest. -/
def round (negative : Bool) (num den : Nat) : Option Binary64 :=
  if num == 0 then some ⟨negative, 0, minExp⟩
  else
    let e := exponentOf num den
    let s := scaled num den e
    let m := nearest s.1 s.2
    let (m, e) := if m == 2 * leastNormal then (leastNormal, e + 1) else (m, e)
    if maxExp < e then none else some ⟨negative, m, e⟩

/-- The numerator of the magnitude. -/
def num (x : Binary64) : Nat := x.mant * Nat.pow 2 x.exp.toNat

/-- The denominator of the magnitude. -/
def den (x : Binary64) : Nat := Nat.pow 2 (-x.exp).toNat

/-- The double nearest to a natural number. -/
def ofNat (n : Nat) : Option Binary64 := round false n 1

/-- The double nearest to `10 ^ n`. -/
def tenPow (n : Nat) : Option Binary64 := ofNat (Nat.pow 10 n)

/-- Multiplication. -/
def mul (x y : Binary64) : Option Binary64 :=
  round (x.negative != y.negative) (x.num * y.num) (x.den * y.den)

/-- Division by a double that is not zero. -/
def div (x y : Binary64) : Option Binary64 :=
  round (x.negative != y.negative) (x.num * y.den) (x.den * y.num)

/-- The sum of two doubles that are not negative. -/
def addMagnitudes (x y : Binary64) : Option Binary64 :=
  round false (x.num * y.den + y.num * x.den) (x.den * y.den)

/-- The opposite. -/
def neg (x : Binary64) : Binary64 := { x with negative := !x.negative }

/-- Whether this is one of the two zeros. -/
def isZero (x : Binary64) : Bool := x.mant == 0

end Binary64

end CitationFusion
