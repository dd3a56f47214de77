import CitationFusion.Decimal.Binary64
import CitationFusion.Toml.Text

/-!
# Numbers and times in a TOML document

Which texts without quotes are integers, floats, or times. Digits may have single underscores
between them. An integer has no leading zeros, and no sign if it is hexadecimal, octal or binary.
A float must not be larger than the largest double. A time has to exist, but for leap seconds,
and its seconds may be left out.
-/

namespace CitationFusion.Toml

/-! ## 1. Digits -/

/-- Whether a character is a decimal digit. -/
def isDecimal (c : Char) : Bool := '0' ≤ c && c ≤ '9'

/-- The digits that follow a digit, and what follows them. -/
def moreDigits (ok : Char → Bool) : List Char → List Char × List Char
  | [] => ([], [])
  | [c] => if ok c then ([c], []) else ([], [c])
  | c :: d :: r =>
    if ok c then
      let (ds, rest) := moreDigits ok (d :: r)
      (c :: ds, rest)
    else if c == '_' && ok d then moreDigits ok (d :: r)
    else ([], c :: d :: r)

/-- Reads digits with single underscores between them. -/
def readDigits (ok : Char → Bool) : Scan (List Char)
  | [] => none
  | c :: r => if ok c then some (moreDigits ok (c :: r)) else none

/-- The number that some digits write. -/
def valueOf (base : Nat) (digits : List Char) : Nat :=
  digits.foldl (fun n d => n * base + (hexValue? d).getD 0) 0

/-! ## 2. Numbers -/

/-- A number. -/
inductive Number where
  | integer (n : Int)
  | float
  deriving DecidableEq, Repr

/-- Whether `digits * 10 ^ exp` is not past the largest double. -/
def fitsDouble (digits : List Char) (exp : Int) : Bool :=
  let significant := digits.dropWhile (· == '0')
  let top := exp + significant.length
  if significant.isEmpty || top < -400 then true
  else if 400 < top then false
  else
    let n := valueOf 10 significant
    (Binary64.round false (n * Nat.pow 10 exp.toNat) (Nat.pow 10 (-exp).toNat)).isSome

/-- Reads an exponent behind its letter. -/
def readExponent (cs : List Char) : Option (Int × List Char) :=
  let (negative, cs) := match cs with
    | '+' :: r => (false, r)
    | '-' :: r => (true, r)
    | _ => (false, cs)
  (readDigits isDecimal cs).map fun (ds, rest) =>
    let n : Int := valueOf 10 ds
    (if negative then -n else n, rest)

/-- The float with the given digits, `places` of them behind the point, if what follows them is
    nothing or an exponent. -/
def floatEnd (digits : List Char) (places : Nat) (rest : List Char) : Option Number :=
  let settle (exp : Int) : Option Number :=
    if fitsDouble digits (exp - places) then some .float else none
  match rest with
  | [] => settle 0
  | c :: r =>
    if c == 'e' || c == 'E' then
      match readExponent r with
      | some (exp, []) => settle exp
      | _ => none
    else none

/-- The decimal number of a text without a sign. -/
def decimal? (negative : Bool) (cs : List Char) : Option Number :=
  match readDigits isDecimal cs with
  | none => none
  | some (ds, rest) =>
    if ds.head? == some '0' && 1 < ds.length then none
    else
      match rest with
      | [] =>
        let n : Int := valueOf 10 ds
        some (.integer (if negative then -n else n))
      | '.' :: r =>
        match readDigits isDecimal r with
        | none => none
        | some (fraction, rest) => floatEnd (ds ++ fraction) fraction.length rest
      | rest => floatEnd ds 0 rest

/-- The number of a text in another base. -/
def based? (base : Nat) (cs : List Char) : Option Number :=
  let ok (c : Char) : Bool := (hexValue? c).any (· < base)
  match readDigits ok cs with
  | some (ds, []) => some (.integer (valueOf base ds))
  | _ => none

/-- Whether a text stands for infinity or for no number. -/
def isSpecial (cs : List Char) : Bool := cs == ['i', 'n', 'f'] || cs == ['n', 'a', 'n']

/-- The number that a text writes. -/
def number? : List Char → Option Number
  | '+' :: r => if isSpecial r then some .float else decimal? false r
  | '-' :: r => if isSpecial r then some .float else decimal? true r
  | '0' :: 'x' :: r => based? 16 r
  | '0' :: 'o' :: r => based? 8 r
  | '0' :: 'b' :: r => based? 2 r
  | cs => if isSpecial cs then some .float else decimal? false cs

/-! ## 3. Times -/

/-- Reads a number of exactly two digits, up to a bound. -/
def readTwo (least greatest : Nat) : List Char → Option (Nat × List Char)
  | a :: b :: r =>
    if isDecimal a && isDecimal b then
      let n := valueOf 10 [a, b]
      if least ≤ n && n ≤ greatest then some (n, r) else none
    else none
  | _ => none

/-- What follows a character at the head of a text. -/
def expect (c : Char) : List Char → Option (List Char)
  | d :: r => if c == d then some r else none
  | [] => none

/-- How many days a month has. -/
def daysIn (year month : Nat) : Nat :=
  if month == 2 then
    if year % 4 == 0 && (year % 100 != 0 || year % 400 == 0) then 29 else 28
  else if month == 4 || month == 6 || month == 9 || month == 11 then 30
  else 31

/-- What follows a date at the head of a text. -/
def date? : List Char → Option (List Char)
  | a :: b :: c :: d :: '-' :: r =>
    if [a, b, c, d].all isDecimal then do
      let (month, r) ← readTwo 1 12 r
      let r ← expect '-' r
      let (_, r) ← readTwo 1 (daysIn (valueOf 10 [a, b, c, d]) month) r
      return r
    else none
  | _ => none

/-- What follows a time of day at the head of a text. -/
def timeOfDay? (cs : List Char) : Option (List Char) := do
  let (_, cs) ← readTwo 0 23 cs
  let cs ← expect ':' cs
  let (_, cs) ← readTwo 0 59 cs
  match cs with
  | ':' :: r =>
    let (_, r) ← readTwo 0 60 r
    match r with
    | '.' :: f => if f.head?.any isDecimal then some (f.dropWhile isDecimal) else none
    | _ => some r
  | _ => some cs

/-- Whether a text is an offset from universal time, or nothing. -/
def isOffset : List Char → Bool
  | [] => true
  | [c] => c == 'Z' || c == 'z'
  | c :: r =>
    (c == '+' || c == '-') &&
      (do
        let (_, r) ← readTwo 0 23 r
        let r ← expect ':' r
        let (_, r) ← readTwo 0 59 r
        return r.isEmpty).getD false

/-- Whether a text is a date, a time of day, or both with a `T` or a space between them and
    perhaps an offset behind. -/
def isTime (cs : List Char) : Bool :=
  match date? cs with
  | some [] => true
  | some (c :: r) =>
    (c == 'T' || c == 't' || c == ' ') && ((timeOfDay? r).map isOffset).getD false
  | none => timeOfDay? cs == some []

end CitationFusion.Toml
