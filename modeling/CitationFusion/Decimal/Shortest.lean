import CitationFusion.Decimal.Binary64

/-!
# The shortest decimal of a double

Of all decimals that read back as a given double, the one with the fewest digits, and of those
the nearest to the double. A grid of decimals with `n` digits has a point among them just when
one of the double's two neighbours on that grid is one, so it is enough to look at those two,
for one digit, two digits, and so on up to seventeen.
-/

namespace CitationFusion

/-- The number `digits * 10 ^ exp`. -/
structure Decimal where
  digits : Nat
  exp : Int
  deriving DecidableEq, Repr, Inhabited

/-- Which of two equally near decimals is taken. -/
inductive Tie where
  /-- The greater one. -/
  | up
  /-- The one whose last digit is even. -/
  | even
  deriving DecidableEq, Repr

namespace Decimal

/-- How many decimal digits a number has. -/
def width (n : Nat) : Nat := (Nat.toDigits 10 n).length

/-- The exponent of the leading digit of a decimal that is not zero. -/
def leading (d : Decimal) : Int := d.exp + width d.digits - 1

/-- The same number without zeros at the end of its digits. -/
def trimZeros (digits : Nat) (exp : Int) : Decimal :=
  if h : digits ≠ 0 ∧ digits % 10 = 0 then trimZeros (digits / 10) (exp + 1)
  else ⟨digits, exp⟩
  termination_by digits
  decreasing_by exact Nat.div_lt_self (Nat.pos_of_ne_zero h.1) (by decide)

/-- The numbers that read back as `num / den`: from `low / den` to `high / den`, with the ends
    when `closed`. -/
structure Reach where
  num : Nat
  den : Nat
  low : Nat
  high : Nat
  closed : Bool

/-- The numbers that read back as the double `mant * 2 ^ exp`: half a step to either side, but
    only a quarter below a power of two, where the steps get shorter. An even double keeps the
    ends. -/
def Reach.ofBinary (mant : Nat) (exp : Int) : Reach :=
  let up := Nat.pow 2 (exp - 2).toNat
  let below := if mant == Binary64.leastNormal && Binary64.minExp < exp then 1 else 2
  { num := 4 * mant * up
    den := Nat.pow 2 (2 - exp).toNat
    low := (4 * mant - below) * up
    high := (4 * mant + 2) * up
    closed := mant % 2 == 0 }

/-- The exponent of the leading decimal digit of `num / den`. -/
def Reach.leading (r : Reach) : Int :=
  let k : Int := (width r.num : Int) - (width r.den : Int)
  if r.den * Nat.pow 10 k.toNat ≤ r.num * Nat.pow 10 (-k).toNat then k else k - 1

/-- The nearer of the two neighbours on the grid of multiples of `10 ^ p` that read back. -/
def Reach.onGrid (r : Reach) (tie : Tie) (p : Int) : Option Nat :=
  let shift := Nat.pow 10 (-p).toNat
  let step := r.den * Nat.pow 10 p.toNat
  let num := r.num * shift
  let lower := num / step
  let upper := lower + 1
  let rest := num - lower * step
  let lowFits := r.low * shift < lower * step || (r.closed && r.low * shift == lower * step)
  let highFits := upper * step < r.high * shift || (r.closed && upper * step == r.high * shift)
  let preferLower :=
    2 * rest < step || (2 * rest == step && tie == .even && lower % 2 == 0)
  match lowFits, highFits with
  | true, true => some (if preferLower then lower else upper)
  | true, false => some lower
  | false, true => some upper
  | false, false => none

/-- The first grid, from `n` digits on, with a number that reads back; `fuel` more grids are
    tried before the finest one answers. -/
def Reach.search (r : Reach) (tie : Tie) (top : Int) : (fuel n : Nat) → Decimal
  | 0, n => trimZeros ((r.onGrid tie (top + 1 - n)).getD 0) (top + 1 - n)
  | fuel + 1, n =>
    match r.onGrid tie (top + 1 - n) with
    | some d => trimZeros d (top + 1 - n)
    | none => search r tie top fuel (n + 1)

/-- The shortest decimal that reads back as the magnitude of `x`. -/
def shortest (tie : Tie) (x : Binary64) : Decimal :=
  if x.isZero then ⟨0, 0⟩
  else
    let r := Reach.ofBinary x.mant x.exp
    r.search tie r.leading 16 1

end Decimal

end CitationFusion
