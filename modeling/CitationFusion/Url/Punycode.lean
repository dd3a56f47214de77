import CitationFusion.Words

/-!
# Labels in ASCII

A label of other characters is written in ASCII: first its ASCII characters, then a hyphen if
there are any, then numbers that say which characters are missing and where. The scalars come in
ascending order, and each number counts the places that are skipped on the way to the next one,
going through the label once for every scalar. Numbers are written in base 36, the least digit
first, and the digit that ends a number is known by being below a threshold, which adapts to the
numbers before (`threshold`, `adapt`).
-/

namespace CitationFusion.Url.Punycode

/-! ## 1. Digits -/

/-- The digit of a value. -/
def digit (d : Nat) : Nat := if d < 26 then 0x61 + d else 0x30 + (d - 26)

/-- The value of a digit. -/
def digitValue? (c : Nat) : Option Nat :=
  if 0x61 ≤ c && c ≤ 0x7A then some (c - 0x61)
  else if 0x41 ≤ c && c ≤ 0x5A then some (c - 0x41)
  else if 0x30 ≤ c && c ≤ 0x39 then some (c - 0x30 + 26)
  else none

/-- The threshold of the digit at a place, 36 being the first place and 72 the next: how far the
    place lies behind the bias, but from 1 to 26. -/
def threshold (place bias : Nat) : Nat := max 1 (min 26 (place - bias))

/-- The bias for numbers of a size, `place` being the places that are already passed. -/
def biasFor (delta place : Nat) : Nat :=
  if 455 < delta then biasFor (delta / 35) (place + 36) else place + 36 * delta / (delta + 38)
termination_by delta
decreasing_by omega

/-- The bias behind a number, where a label has some scalars. -/
def adapt (delta scalars : Nat) (isFirst : Bool) : Nat :=
  let delta := if isFirst then delta / 700 else delta / 2
  biasFor (delta + delta / scalars) 0

/-- The bias before the first number. -/
def startBias : Nat := 72

/-- The first scalar that is not ASCII. -/
def startScalar : Nat := 0x80

/-! ## 2. Writing -/

/-- The digits of a number from a place on. -/
def writeNumber (n place bias : Nat) : List Nat :=
  let t := threshold place bias
  if n < t then [digit n]
  else digit (t + (n - t) % (36 - t)) :: writeNumber ((n - t) / (36 - t)) (place + 36) bias
termination_by n
decreasing_by
  rename_i atLeast
  have positive : 0 < threshold place bias := Nat.le_max_left ..
  have isLess : n - threshold place bias < n :=
    Nat.sub_lt (Nat.lt_of_lt_of_le positive (Nat.le_of_not_lt atLeast)) positive
  exact Nat.lt_of_le_of_lt (Nat.div_le_self _ _) isLess

/-- How far a label is written. -/
structure Progress where
  /-- The places that are skipped since the last number. -/
  skipped : Nat
  bias : Nat
  /-- How many scalars are written. -/
  written : Nat
  /-- Whether no number is written. -/
  isFirst : Bool
  digits : List Nat

/-- Passes the place of a scalar on the way through a label for the scalar `m`. -/
def Progress.pass (m : Nat) (p : Progress) (n : Nat) : Progress :=
  if n < m then { p with skipped := p.skipped + 1 }
  else if n == m then
    ⟨0, adapt p.skipped (p.written + 1) p.isFirst, p.written + 1, false,
      p.digits ++ writeNumber p.skipped 36 p.bias⟩
  else p

/-- Goes through a label for each of some scalars, which ascend from `next` on. -/
def Progress.passAll (label : List Nat) (p : Progress) (next : Nat) : List Nat → List Nat
  | [] => p.digits
  | m :: rest =>
    let ready := { p with skipped := p.skipped + (m - next) * (p.written + 1) }
    let done := label.foldl (Progress.pass m) ready
    passAll label { done with skipped := done.skipped + 1 } (m + 1) rest

/-- Puts a scalar into an ascending list, unless it is there. -/
def insertScalar (n : Nat) : List Nat → List Nat
  | [] => [n]
  | m :: r => if n < m then n :: m :: r else if n == m then m :: r else m :: insertScalar n r

/-- A label in ASCII. -/
def encode (label : List Nat) : List Nat :=
  let basic := label.filter (· < startScalar)
  let others := (label.filter (startScalar ≤ ·)).foldr insertScalar []
  let head := if basic.isEmpty then [] else basic ++ [0x2D]
  head ++ Progress.passAll label ⟨0, startBias, basic.length, true, []⟩ startScalar others

/-! ## 3. Reading -/

/-- How far a label is read. -/
structure Reading where
  label : List Nat
  /-- The scalar that is added next. -/
  scalar : Nat
  /-- The place at which the number in reading began to count. -/
  start : Nat
  /-- The place to which it has counted. -/
  place : Nat
  bias : Nat
  /-- What the next digit counts for. -/
  weight : Nat
  /-- The place of the next digit; 36 is the first one. -/
  digitPlace : Nat

/-- Whether a number is a scalar. -/
def isScalar (n : Nat) : Bool := n < 0xD800 || (0xE000 ≤ n && n ≤ 0x10FFFF)

/-- Ends a number: a scalar is added. -/
def Reading.finish (r : Reading) (place : Nat) : Option Reading :=
  let room := r.label.length + 1
  let scalar := r.scalar + place / room
  let here := place % room
  if isScalar scalar then
    some ⟨r.label.take here ++ scalar :: r.label.drop here, scalar, here + 1, here + 1,
      adapt (place - r.start) room (r.start == 0), 1, 36⟩
  else none

/-- Reads digits. -/
def Reading.readAll (r : Reading) : List Nat → Option (List Nat)
  | [] => if r.digitPlace == 36 then some r.label else none
  | c :: rest =>
    match digitValue? c with
    | none => none
    | some d =>
      let place := r.place + d * r.weight
      let t := threshold r.digitPlace r.bias
      if word32 ≤ place then none
      else if d < t then
        match r.finish place with
        | none => none
        | some next => next.readAll rest
      else
        { r with
          place
          weight := r.weight * (36 - t)
          digitPlace := r.digitPlace + 36 }.readAll rest

/-- The label that is written in ASCII. A hyphen at its beginning parts nothing. -/
def decode? (text : List Nat) : Option (List Nat) :=
  let digits := (text.reverse.takeWhile (· != 0x2D)).reverse
  let basic := text.take (text.length - digits.length - 1)
  let isParted := !basic.isEmpty || digits.length == text.length
  if isParted && text.all (· < startScalar) then
    Reading.readAll ⟨basic, startScalar, 0, 0, startBias, 1, 36⟩ digits
  else none

end CitationFusion.Url.Punycode
