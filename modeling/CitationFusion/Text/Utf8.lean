/-!
# Text as octets

A byte string is a list of octets. `Utf8.encode` writes characters as UTF-8 and `Utf8.decode`
reads them back; where the octets are no UTF-8, `decode` says how many octets were good and
whether the sequence that follows is wrong or merely cut short.

* An octet sequence is refused at the first octet that no character can hold at its place, so
  a `Fault` names the longest prefix that is text.
* Overlong forms, surrogates and scalars past U+10FFFF are no characters.
-/

namespace CitationFusion

/-- A byte string. -/
abbrev Bytes := List UInt8

namespace Utf8

/-! ## 1. Writing -/

/-- The octets of a list of characters. -/
def encode (cs : List Char) : Bytes :=
  cs.flatMap String.utf8EncodeChar

/-- The octets of a text. -/
def ofString (s : String) : Bytes :=
  encode s.toList

/-! ## 2. Reading -/

/-- Where octets stop being text: `good` octets are, and the sequence after them is wrong in its
    first `width` octets, or (`none`) is cut short by the end of the input. -/
structure Fault where
  good : Nat
  width : Option Nat
  deriving DecidableEq, Repr

/-- The wording of a fault. -/
def Fault.message (f : Fault) : String :=
  match f.width with
  | some n => s!"invalid utf-8 sequence of {n} bytes from index {f.good}"
  | none => s!"incomplete utf-8 byte sequence from index {f.good}"

/-- What stands at the head of some octets. -/
inductive Head where
  /-- A character, and what follows it. -/
  | char (c : Char) (rest : Bytes)
  /-- A sequence that is wrong in its first `width` octets. -/
  | wrong (width : Nat)
  /-- The beginning of a character, and then the end of the input. -/
  | short

/-- Whether an octet continues a character: `10xxxxxx`. -/
def isTail (b : UInt8) : Bool := 0x80 ≤ b && b ≤ 0xBF

/-- The payload of a continuation octet. -/
def tailBits (b : UInt8) : Nat := b.toNat % 64

/-- A character of two octets, the first being `a`. -/
def twoOctets (a : UInt8) : Bytes → Head
  | [] => .short
  | b :: r =>
    if isTail b then .char (Char.ofNat (a.toNat % 32 * 64 + tailBits b)) r else .wrong 1

/-- A character of three octets, the first being `a` and the second lying in `lo`..`hi`. -/
def threeOctets (a lo hi : UInt8) : Bytes → Head
  | [] => .short
  | b :: r =>
    if lo ≤ b && b ≤ hi then
      match r with
      | [] => .short
      | c :: r =>
        if isTail c then
          .char (Char.ofNat ((a.toNat % 16 * 64 + tailBits b) * 64 + tailBits c)) r
        else .wrong 2
    else .wrong 1

/-- A character of four octets, the first being `a` and the second lying in `lo`..`hi`. -/
def fourOctets (a lo hi : UInt8) : Bytes → Head
  | [] => .short
  | b :: r =>
    if lo ≤ b && b ≤ hi then
      match r with
      | [] => .short
      | c :: r =>
        if isTail c then
          match r with
          | [] => .short
          | d :: r =>
            if isTail d then
              .char (Char.ofNat
                (((a.toNat % 8 * 64 + tailBits b) * 64 + tailBits c) * 64 + tailBits d)) r
            else .wrong 3
        else .wrong 2
    else .wrong 1

/-- What stands at the head of the octets `a :: r`. -/
def head (a : UInt8) (r : Bytes) : Head :=
  if a < 0x80 then .char (Char.ofNat a.toNat) r
  else if a < 0xC2 then .wrong 1
  else if a < 0xE0 then twoOctets a r
  else if a = 0xE0 then threeOctets a 0xA0 0xBF r
  else if a = 0xED then threeOctets a 0x80 0x9F r
  else if a < 0xF0 then threeOctets a 0x80 0xBF r
  else if a = 0xF0 then fourOctets a 0x90 0xBF r
  else if a < 0xF4 then fourOctets a 0x80 0xBF r
  else if a = 0xF4 then fourOctets a 0x80 0x8F r
  else .wrong 1

theorem twoOctets_shrinks {a : UInt8} {r rest : Bytes} {c : Char}
    (h : twoOctets a r = .char c rest) : rest.length < r.length := by
  unfold twoOctets at h
  repeat' split at h
  all_goals first | (cases h; simp) | cases h

theorem threeOctets_shrinks {a lo hi : UInt8} {r rest : Bytes} {c : Char}
    (h : threeOctets a lo hi r = .char c rest) : rest.length < r.length := by
  unfold threeOctets at h
  repeat' split at h
  all_goals first | (cases h; grind) | cases h

theorem fourOctets_shrinks {a lo hi : UInt8} {r rest : Bytes} {c : Char}
    (h : fourOctets a lo hi r = .char c rest) : rest.length < r.length := by
  unfold fourOctets at h
  repeat' split at h
  all_goals first | (cases h; grind) | cases h

/-- **A character takes at least its first octet.** -/
theorem head_shrinks {a : UInt8} {r rest : Bytes} {c : Char} (h : head a r = .char c rest) :
    rest.length ≤ r.length := by
  unfold head at h
  repeat' split at h
  all_goals first
    | (cases h; exact Nat.le_refl _)
    | exact Nat.le_of_lt (twoOctets_shrinks h)
    | exact Nat.le_of_lt (threeOctets_shrinks h)
    | exact Nat.le_of_lt (fourOctets_shrinks h)
    | cases h

/-- The characters of `bs`, put after those of `seen` (read so far, the last first); `good`
    counts the octets read so far. -/
def decodeFrom (seen : List Char) (good : Nat) (bs : Bytes) : Except Fault (List Char) :=
  match bs with
  | [] => .ok seen.reverse
  | a :: r =>
    match h : head a r with
    | .char c rest =>
      have := head_shrinks h
      decodeFrom (c :: seen) (good + c.utf8Size) rest
    | .wrong width => .error ⟨good, some width⟩
    | .short => .error ⟨good, none⟩
  termination_by bs.length

/-- The characters that some octets write, or where they stop being text. -/
def decode (bs : Bytes) : Except Fault (List Char) :=
  decodeFrom [] 0 bs

/-- The text that some octets write, or where they stop being text. -/
def text (bs : Bytes) : Except Fault String :=
  (decode bs).map String.ofList

/-- The text that some octets write, if they do. -/
def text? (bs : Bytes) : Option String :=
  (text bs).toOption

/-- The characters that some octets write, each stretch of octets that is not text standing for
    one replacement character. -/
def lossy (bs : Bytes) : List Char :=
  match bs with
  | [] => []
  | a :: r =>
    match h : head a r with
    | .char c rest =>
      have := head_shrinks h
      c :: lossy rest
    | .wrong width => '\uFFFD' :: lossy (r.drop (width - 1))
    | .short => ['\uFFFD']
  termination_by bs.length

end Utf8

end CitationFusion
