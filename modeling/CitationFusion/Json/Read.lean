import CitationFusion.Json.Skim
import CitationFusion.Words

/-!
# Reading JSON values

A reader takes a value off the front of a text. Strings must be UTF-8 and their surrogates come
in pairs. Numbers are read as the integers they are, up to 64 bits, or as doubles; a double is
the product, or the quotient, of its digits and a power of ten, each rounded.

* A value of another kind than the one expected is read and named in the fault, unless it is a
  list or an object (`refuse`).
* Behind a list or an object that is refused as a whole, the closing bracket is still read.
-/

namespace CitationFusion.Json

open Ascii

/-- Takes a value off the front of a text. -/
abbrev Reader (α : Type) := Bytes → Except Stop (α × Bytes)

/-! ## 1. Strings -/

/-- The character of an escape of one letter. -/
def shortEscape? (b : UInt8) : Option Char :=
  if b == quote then some '"'
  else if b == backslash then some '\\'
  else if b == 0x2F then some '/'
  else if b == 0x62 then some '\x08'
  else if b == 0x66 then some '\x0c'
  else if b == 0x6E then some '\n'
  else if b == 0x72 then some '\r'
  else if b == 0x74 then some '\t'
  else none

/-- Reads the second half of a surrogate pair, the first half being `high`. -/
def readPair (high : Nat) (bs : Bytes) : Except Stop (Char × Bytes) :=
  match bs with
  | [] => .error (.after .endInString [])
  | b :: r =>
    if b == backslash then
      match r with
      | [] => .error (.after .endInString [])
      | u :: r =>
        if u == 0x75 then
          match hexQuad r with
          | .error stop => .error stop
          | .ok (low, r) =>
            if low < 0xDC00 || 0xDFFF < low then .error (.after .loneSurrogate r)
            else .ok (Char.ofNat ((high - 0xD800) * 1024 + (low - 0xDC00) + 0x10000), r)
        else .error (.after .halfSurrogatePair r)
    else .error (.after .halfSurrogatePair r)

/-- Reads an escape behind its backslash. -/
def readEscape (bs : Bytes) : Except Stop (Char × Bytes) :=
  match bs with
  | [] => .error (.after .endInString [])
  | e :: r =>
    match shortEscape? e with
    | some c => .ok (c, r)
    | none =>
      if e == 0x75 then
        match hexQuad r with
        | .error stop => .error stop
        | .ok (n, r) =>
          if 0xDC00 ≤ n && n ≤ 0xDFFF then .error (.after .loneSurrogate r)
          else if 0xD800 ≤ n && n ≤ 0xDBFF then readPair n r
          else .ok (Char.ofNat n, r)
      else .error (.after .badEscape r)

theorem readPair_shrinks {high : Nat} {bs rest : Bytes} {c : Char}
    (h : readPair high bs = .ok (c, rest)) : rest.length < bs.length := by
  unfold readPair at h
  split at h
  · cases h
  · split at h
    · split at h
      · cases h
      · split at h
        · split at h
          · cases h
          · rename_i hq
            have := hexQuad_shrinks hq
            split at h
            · cases h
            · obtain ⟨-, rfl⟩ := Prod.mk.inj (Except.ok.inj h)
              simp only [List.length_cons]
              omega
        · cases h
    · cases h

theorem readEscape_shrinks {bs rest : Bytes} {c : Char}
    (h : readEscape bs = .ok (c, rest)) : rest.length < bs.length := by
  unfold readEscape at h
  split at h
  · cases h
  · split at h
    · cases h
      simp
    · split at h
      · split at h
        · cases h
        · rename_i hq
          have := hexQuad_shrinks hq
          split at h
          · cases h
          · split at h
            · have := readPair_shrinks h
              simp only [List.length_cons]
              omega
            · cases h
              simp only [List.length_cons]
              omega
      · cases h

/-- Reads the rest of a string: `seen` are the characters read so far, the last first, and
    `bad` is how many octets followed the first one that no character can hold. -/
def readChars (seen : List Char) (bad : Option Nat) (bs : Bytes) :
    Except Stop (String × Bytes) :=
  match bs with
  | [] => .error (.after .endInString [])
  | b :: r =>
    if b == quote then
      match bad with
      | none => .ok (String.ofList seen.reverse, r)
      | some unread => .error ⟨.badCodePoint, unread⟩
    else if b == backslash then
      match h : readEscape r with
      | .error stop => .error stop
      | .ok (c, r') =>
        have := readEscape_shrinks h
        readChars (c :: seen) bad r'
    else if b < 0x20 then .error (.after .controlCharacter r)
    else
      match h : Utf8.head b r with
      | .char c r' =>
        have := Utf8.head_shrinks h
        readChars (c :: seen) bad r'
      -- the first such octet counts, but the string is read up to its end
      | _ => readChars seen (bad.or (some r.length)) r
  termination_by bs.length

/-- Reads a string behind its opening quote. -/
def readString : Reader String := readChars [] none

/-! ## 2. Numbers -/

/-- A number as it was written: an integer of 64 bits, or a double. -/
inductive Number where
  | natural (n : Nat)
  /-- The integer `-n`. -/
  | negative (n : Nat)
  | float (x : Binary64)
  deriving DecidableEq, Repr

/-- A number as a value of the wrong kind. -/
def Number.found : Number → Found
  | .natural n => .integer n
  | .negative n => .integer (-n)
  | .float x => .float x

/-- The double of a number that was written. -/
def Number.toDouble : Number → Binary64
  | .natural n => (Binary64.ofNat n).getD .zero
  | .negative n => ((Binary64.ofNat n).getD .zero).neg
  | .float x => x

/-- The bound of natural numbers of 64 bits. -/
def natLimit : Nat := word64

/-- Divides by a power of ten, in steps that are doubles. -/
def divTenPow (x : Binary64) (e : Nat) : Binary64 :=
  if e ≤ 308 then (do x.div (← Binary64.tenPow e)).getD .zero
  else if x.isZero then x
  else divTenPow ((do x.div (← Binary64.tenPow 308)).getD .zero) (e - 308)
  termination_by e

/-- The double of some digits and a power of ten; `none` past the largest double. -/
def doubleOf (negative : Bool) (digits : Nat) (exp : Int) : Option Binary64 := do
  let x ← Binary64.ofNat digits
  let magnitude ←
    if exp < 0 then some (divTenPow x exp.natAbs)
    else if exp ≤ 308 then x.mul (← Binary64.tenPow exp.natAbs)
    else if x.isZero then some x
    else none
  return if negative then magnitude.neg else magnitude

/-- Settles a double whose last octet was read. -/
def settle (negative : Bool) (digits : Nat) (exp : Int) (rest : Bytes) :
    Except Stop (Number × Bytes) :=
  match doubleOf negative digits exp with
  | some x => .ok (.float x, rest)
  | none => .error (.after .numberOutOfRange rest)

/-- Reads the digits of an exponent. An exponent past 31 bits is a fault as soon as it is, unless
    the number is zero or tiny. -/
def readExponentDigits (negative : Bool) (digits : Nat) (exp : Int) (minus : Bool) (e : Nat)
    (bs : Bytes) : Except Stop (Number × Bytes) :=
  match bs with
  | [] => settle negative digits (if minus then exp - e else exp + e) []
  | d :: r =>
    if isDigit d then
      let e := e * 10 + digitValue d
      if e < word31 then readExponentDigits negative digits exp minus e r
      else if digits != 0 && !minus then .error (.after .numberOutOfRange r)
      else .ok (.float (if negative then Binary64.zero.neg else .zero), skipDigits r)
    else settle negative digits (if minus then exp - e else exp + e) (d :: r)

/-- Reads an exponent part behind its letter. -/
def readExponent (negative : Bool) (digits : Nat) (exp : Int) (bs : Bytes) :
    Except Stop (Number × Bytes) :=
  match skipSign bs with
  | [] => .error (.after .endInValue [])
  | d :: r =>
    if isDigit d then
      readExponentDigits negative digits exp (bs.head? == some minus) (digitValue d) r
    else .error (.after .badNumber r)

/-- Reads an exponent part, if there is one. -/
def readExponentPart (negative : Bool) (digits : Nat) (exp : Int) (bs : Bytes) :
    Except Stop (Number × Bytes) :=
  match bs with
  | [] => settle negative digits exp []
  | e :: r =>
    if e == 0x65 || e == 0x45 then readExponent negative digits exp r
    else settle negative digits exp (e :: r)

/-- Reads the digits of a fraction. Digits past 64 bits are passed over. -/
def readFractionDigits (negative : Bool) (digits : Nat) (exp : Int) (bs : Bytes) :
    Except Stop (Number × Bytes) :=
  match bs with
  | [] => settle negative digits exp []
  | d :: r =>
    if isDigit d then
      let more := digits * 10 + digitValue d
      if more < natLimit then readFractionDigits negative more (exp - 1) r
      else readExponentPart negative digits exp (skipDigits r)
    else readExponentPart negative digits exp (d :: r)

/-- Reads a fraction behind its point. -/
def readFraction (negative : Bool) (digits : Nat) (exp : Int) (bs : Bytes) :
    Except Stop (Number × Bytes) :=
  match bs with
  | [] => .error (.onNext .endInValue [])
  | d :: r =>
    if isDigit d then readFractionDigits negative digits exp (d :: r)
    else .error (.onNext .badNumber (d :: r))

/-- The integer of some digits; below the least one of 64 bits, and for `-0`, a double. -/
def integer (negative : Bool) (digits : Nat) : Number :=
  if !negative then .natural digits
  else if digits == 0 || word63 < digits then
    .float ((Binary64.ofNat digits).getD .zero).neg
  else .negative digits

/-- Reads what follows the digits of an integer. -/
def readIntegerEnd (negative : Bool) (digits : Nat) (bs : Bytes) :
    Except Stop (Number × Bytes) :=
  match bs with
  | [] => .ok (integer negative digits, [])
  | b :: r =>
    if b == point then readFraction negative digits 0 r
    else if b == 0x65 || b == 0x45 then readExponent negative digits 0 r
    else .ok (integer negative digits, b :: r)

/-- Reads what follows the digits of an integer that does not fit 64 bits; `exp` of them were
    left out. -/
def readLongInteger (negative : Bool) (digits exp : Nat) (bs : Bytes) :
    Except Stop (Number × Bytes) :=
  match bs with
  | [] => settle negative digits exp []
  | b :: r =>
    if isDigit b then readLongInteger negative digits (exp + 1) r
    else if b == point then readFraction negative digits exp r
    else if b == 0x65 || b == 0x45 then readExponent negative digits exp r
    else settle negative digits exp (b :: r)

/-- Reads the further digits of an integer. -/
def readIntegerDigits (negative : Bool) (digits : Nat) (bs : Bytes) :
    Except Stop (Number × Bytes) :=
  match bs with
  | [] => readIntegerEnd negative digits []
  | d :: r =>
    if isDigit d then
      let more := digits * 10 + digitValue d
      if more < natLimit then readIntegerDigits negative more r
      else readLongInteger negative digits 1 r
    else readIntegerEnd negative digits (d :: r)

/-- Reads a number behind its sign. -/
def readUnsigned (negative : Bool) (bs : Bytes) : Except Stop (Number × Bytes) :=
  match bs with
  | [] => .error (.after .endInValue [])
  | d :: r =>
    if d == zero then
      match r with
      | [] => .ok (integer negative 0, [])
      | c :: t =>
        if isDigit c then .error (.onNext .badNumber (c :: t))
        else readIntegerEnd negative 0 (c :: t)
    else if isDigit d then readIntegerDigits negative (digitValue d) r
    else .error (.after .badNumber r)

/-- Reads a number that begins with the octet `b`. -/
def readNumber (b : UInt8) (r : Bytes) : Except Stop (Number × Bytes) :=
  if b == minus then readUnsigned true r else readUnsigned false (b :: r)

/-! ## 3. Values of the wrong kind -/

/-- What a fault says of the value `b :: r`, and what follows the part of it that is read. -/
def findKind (b : UInt8) (r : Bytes) : Except Stop (Found × Bytes) :=
  if b == 0x6E then (skimLiteral nullTail r).map (.null, ·)
  else if b == 0x74 then (skimLiteral trueTail r).map (.boolean true, ·)
  else if b == 0x66 then (skimLiteral falseTail r).map (.boolean false, ·)
  else if b == minus || isDigit b then (readNumber b r).map fun (n, rest) => (n.found, rest)
  else if b == quote then (readString r).map fun (s, rest) => (.text s, rest)
  else if b == openBracket then .ok (.list, b :: r)
  else if b == openBrace then .ok (.object, b :: r)
  else .error (.onNext .expectedValue (b :: r))

/-- The fault of the value `b :: r` where something else was expected. -/
def refuse (expected : String) (b : UInt8) (r : Bytes) : Stop :=
  match findKind b r with
  | .error stop => stop
  | .ok (found, rest) => .after (.badType found expected) rest

/-! ## 4. Values of one kind -/

/-- Reads a string value. -/
def readText : Reader String := fun bs =>
  match skipSpace bs with
  | [] => .error (.onNext .endInValue [])
  | b :: r => if b == quote then readString r else .error (refuse "a string" b r)

/-- Reads a number value. -/
def readNumberValue (expected : String) : Reader Number := fun bs =>
  match skipSpace bs with
  | [] => .error (.onNext .endInValue [])
  | b :: r =>
    if b == minus || isDigit b then readNumber b r else .error (refuse expected b r)

/-- Reads a double. -/
def readDouble : Reader Binary64 := fun bs =>
  (readNumberValue "f64" bs).map fun (n, rest) => (n.toDouble, rest)

/-- Reads a natural number of 64 bits; `expected` names its kind. -/
def readNat (expected : String) : Reader Nat := fun bs =>
  match readNumberValue expected bs with
  | .error stop => .error stop
  | .ok (.natural n, rest) => .ok (n, rest)
  | .ok (.negative n, rest) => .error (.after (.badValue (.integer (-n)) expected) rest)
  | .ok (.float x, rest) => .error (.after (.badType (.float x) expected) rest)

/-- Reads a boolean. -/
def readBool : Reader Bool := fun bs =>
  match skipSpace bs with
  | [] => .error (.onNext .endInValue [])
  | b :: r =>
    if b == 0x74 then (skimLiteral trueTail r).map (true, ·)
    else if b == 0x66 then (skimLiteral falseTail r).map (false, ·)
    else .error (refuse "a boolean" b r)

/-- Reads a value that may be `null`. -/
def readOptional {α : Type} (item : Reader α) : Reader (Option α) := fun bs =>
  match skipSpace bs with
  | [] => (item []).map fun (a, rest) => (some a, rest)
  | b :: r =>
    if b == 0x6E then (skimLiteral nullTail r).map (none, ·)
    else (item (b :: r)).map fun (a, rest) => (some a, rest)

/-- Reads any value and keeps its text, which must be UTF-8. -/
def readVerbatim : Reader Bytes := fun bs =>
  let start := skipSpace bs
  match skim start with
  | .error stop => .error stop
  | .ok rest =>
    let text := start.take (start.length - rest.length)
    match Utf8.decode text with
    | .ok _ => .ok (text, rest)
    | .error fault => .error ⟨.badCodePoint, start.length - (fault.good + 1)⟩

/-! ## 5. Lists -/

/-- Goes to the next item of a list, if there is one. `none` stands before the closing bracket. -/
def nextItem (first : Bool) (bs : Bytes) : Except Stop (Option Bytes) :=
  match skipSpace bs with
  | [] => .error (.onNext .endInList [])
  | b :: r =>
    if b == closeBracket then .ok none
    else if first then .ok (some (b :: r))
    else if b == comma then
      match skipSpace r with
      | [] => .error (.onNext .endInValue [])
      | c :: t =>
        if c == closeBracket then .error (.onNext .trailingComma (c :: t)) else .ok (some (c :: t))
    else .error (.onNext .expectedListEnd (b :: r))

/-- Reads the closing bracket of a list that has no more items. -/
def closeList (bs : Bytes) : Except Stop Bytes :=
  match skipSpace bs with
  | [] => .error (.onNext .endInList [])
  | b :: r =>
    if b == closeBracket then .ok r
    else if b == comma then
      match skipSpace r with
      | [] => .error (.onNext .trailingCharacters [])
      | c :: t =>
        if c == closeBracket then .error (.onNext .trailingComma (c :: t))
        else .error (.onNext .trailingCharacters (c :: t))
    else .error (.onNext .trailingCharacters (b :: r))

/-- Reads at most `fuel` items of a list; every item takes an octet at least. -/
def readItems {α : Type} (item : Reader α) :
    (fuel : Nat) → (seen : List α) → Bytes → Except Stop (List α × Bytes)
  | 0, _, bs => .error (.onNext .endInList bs)
  | fuel + 1, seen, bs =>
    match nextItem seen.isEmpty bs with
    | .error stop => .error stop
    | .ok none => (closeList bs).map (seen.reverse, ·)
    | .ok (some start) =>
      match item start with
      | .error stop => .error stop
      | .ok (a, rest) => readItems item fuel (a :: seen) rest

/-- Reads a list. -/
def readList {α : Type} (item : Reader α) : Reader (List α) := fun bs =>
  match skipSpace bs with
  | [] => .error (.onNext .endInValue [])
  | b :: r =>
    if b == openBracket then readItems item (r.length + 1) [] r
    else .error (refuse "a sequence" b r)

/-- Reads a whole text. -/
def readDocument {α : Type} (value : Reader α) (bs : Bytes) : Except Stop α :=
  match value bs with
  | .error stop => .error stop
  | .ok (a, rest) => (finish rest).map fun _ => a

end CitationFusion.Json
