/-!
# Numbers of so many bits

How many numbers there are of a size, so that each of them is below, and how a setting writes one
below a limit: in decimal digits, perhaps with a plus sign before them. Of several things that are
wrong with it the first one counts.
-/

namespace CitationFusion

/-! ## 1. Sizes -/

/-- The numbers of 31 bits. -/
def word31 : Nat := 2147483648

/-- The numbers of 32 bits. -/
def word32 : Nat := 4294967296

/-- The numbers of 63 bits. -/
def word63 : Nat := 9223372036854775808

/-- The numbers of 64 bits. -/
def word64 : Nat := 18446744073709551616

/-- The numbers of 127 bits. -/
def word127 : Nat := 170141183460469231731687303715884105728

/-- The numbers of 128 bits. -/
def word128 : Nat := 340282366920938463463374607431768211456

namespace Text

/-! ## 2. Numbers in settings -/

/-- What is wrong with a number. -/
inductive UnsignedFault where
  | empty
  | invalidDigit
  | tooLarge
  deriving DecidableEq, Repr

/-- The wording of a fault. -/
def UnsignedFault.message : UnsignedFault → String
  | .empty => "cannot parse integer from empty string"
  | .invalidDigit => "invalid digit found in string"
  | .tooLarge => "number too large to fit in target type"

/-- Reads digits behind a value; every value stays below the limit. -/
def unsignedDigits (limit value : Nat) : List Char → Except UnsignedFault Nat
  | [] => .ok value
  | c :: r =>
    if c.isDigit then
      let value := value * 10 + (c.toNat - '0'.toNat)
      if value < limit then unsignedDigits limit value r else .error .tooLarge
    else .error .invalidDigit

/-- The number below a limit that a text writes. -/
def unsigned (limit : Nat) (text : String) : Except UnsignedFault Nat :=
  match text.toList with
  | [] => .error .empty
  | ['+'] => .error .invalidDigit
  | '+' :: digits => unsignedDigits limit 0 digits
  | digits => unsignedDigits limit 0 digits

end Text

end CitationFusion
