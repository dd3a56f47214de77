import CitationFusion.Text.Ascii
import CitationFusion.Text.Parts

/-!
# Addresses in URLs

An IPv4 address has up to four numbers, each decimal, octal (`0`) or hexadecimal (`0x`); the last
number fills what the others leave. A domain whose last label is a number is such an address or
none at all.

An IPv6 address has eight pieces of up to four hexadecimal digits. One run of zero pieces may be
left out between two colons, and the last two pieces may be written as an IPv4 address.
-/

namespace CitationFusion.Url

open Ascii Text

/-! ## 1. Addresses of four numbers -/

/-- The number that some digits of a base write. -/
def valueIn (base : Nat) (digits : Bytes) : Option Nat :=
  digits.foldl
    (fun n d => do
      let n ← n
      let v ← hexValue? d
      if v < base then some (n * base + v) else none)
    (some 0)

/-- The number that a part of an address writes. -/
def partValue? (part : Bytes) : Option Nat :=
  match part with
  | [] => none
  | 0x30 :: 0x78 :: r => valueIn 16 r
  | 0x30 :: 0x58 :: r => valueIn 16 r
  | [d] => valueIn 10 [d]
  | 0x30 :: r => valueIn 8 r
  | part => valueIn 10 part

/-- The parts between the points of a domain, without an empty one at the end. -/
def domainParts (domain : Bytes) : List Bytes :=
  let parts := splitAt (· == point) domain
  if parts.getLast? == some [] then parts.dropLast else parts

/-- Whether the last part of a domain is a number. -/
def endsInNumber (domain : Bytes) : Bool :=
  match (domainParts domain).getLast? with
  | none => false
  | some last => (!last.isEmpty && last.all isDigit) || (partValue? last).isSome

/-- The address of some numbers. -/
def ipv4Of : (place : Nat) → List Nat → Option Nat
  | _, [] => none
  | place, [n] => if n < Nat.pow 256 (4 - place) then some n else none
  | place, n :: m :: rest =>
    if n < 256 then (ipv4Of (place + 1) (m :: rest)).map (n * Nat.pow 256 (3 - place) + ·) else none

/-- The address that a domain writes. -/
def ipv4? (domain : Bytes) : Option Nat := do
  let parts := domainParts domain
  if 4 < parts.length then none
  else ipv4Of 0 (← parts.mapM partValue?)

/-! ## 2. Addresses of eight pieces -/

/-- Reads the hexadecimal digits at the head of a text, at most `count` of them. -/
def readPiece : (count : Nat) → (value : Nat) → Bytes → Nat × Bytes
  | count + 1, value, b :: r =>
    match hexValue? b with
    | some d => readPiece count (value * 16 + d) r
    | none => (value, b :: r)
  | _, value, bs => (value, bs)

/-- Reads a number of an IPv4 address inside: at most 255, without leading zeros. -/
def readByte (value : Option Nat) : Bytes → Option (Nat × Bytes)
  | [] => value.map (·, [])
  | b :: r =>
    if isDigit b then
      match value with
      | none => readByte (some (digitValue b)) r
      | some 0 => none
      | some v =>
        let v := v * 10 + digitValue b
        if v < 256 then readByte (some v) r else none
    else value.map (·, b :: r)

/-- The two pieces of an IPv4 address that is all of a text. -/
def embedded? (bs : Bytes) : Option (List Nat) := do
  let (a, r) ← readByte none bs
  let b ← match r with
    | 0x2E :: r => some r
    | _ => none
  let (b, r) ← readByte none b
  let c ← match r with
    | 0x2E :: r => some r
    | _ => none
  let (c, r) ← readByte none c
  let d ← match r with
    | 0x2E :: r => some r
    | _ => none
  let (d, r) ← readByte none d
  if r.isEmpty then some [a * 256 + b, c * 256 + d] else none

/-- The pieces of an address: `seen` are those before, and `gap` is how many of them stand before
    the run of zeros that was left out; at most `fuel` steps. -/
def readPieces : (fuel : Nat) → (seen : List Nat) → (gap : Option Nat) → Bytes →
    Option (List Nat × Option Nat)
  | 0, _, _, _ => none
  | _ + 1, seen, gap, [] => some (seen, gap)
  | fuel + 1, seen, gap, b :: r =>
    if seen.length == 8 then none
    else if b == colon then
      if gap.isSome then none
      else readPieces fuel (seen ++ [0]) (some (seen.length + 1)) r
    else
      let (value, rest) := readPiece 4 0 (b :: r)
      match rest with
      | [] => some (seen ++ [value], gap)
      | c :: t =>
        if c == point then
          -- the last two pieces may be written as four numbers with points between them
          if rest.length == (b :: r).length || 6 < seen.length then none
          else (embedded? (b :: r)).map fun pieces => (seen ++ pieces, gap)
        else if c == colon then
          if t.isEmpty then none else readPieces fuel (seen ++ [value]) gap t
        else none

/-- The address that a text writes. -/
def ipv6? (bs : Bytes) : Option (List Nat) := do
  let (seen, gap) ←
    match bs with
    | [] => none
    | [_] => none
    | a :: b :: r =>
      if a == colon then
        if b == colon then readPieces (r.length + 1) [0] (some 1) r else none
      else readPieces (bs.length + 1) [] none bs
  match gap with
  | none => if seen.length == 8 then some seen else none
  | some g =>
    if seen.length ≤ 8 then
      some (seen.take g ++ List.replicate (8 - seen.length) 0 ++ seen.drop g)
    else none

end CitationFusion.Url
