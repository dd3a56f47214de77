import CitationFusion.Url
import CitationFusion.Words

/-!
# Addresses to listen at

An address is an IP address and a port. IPv4 addresses have four decimal numbers without leading
zeros, IPv6 addresses stand in brackets, perhaps with a number for the network they belong to
(`[fe80::1%3]:80`). There are no names, no blanks and no default port.

The readers of this module take the head of a text and answer what is left of it.
`SocketAddress.text` writes an address in its one short form.
-/

namespace CitationFusion

/-- An IP address. -/
inductive IpAddress where
  | v4 (a b c d : Nat)
  /-- The eight pieces of an address. -/
  | v6 (pieces : List Nat)
  deriving DecidableEq, Repr

/-- An IP address and a port. -/
structure SocketAddress where
  ip : IpAddress
  /-- The network that an address of limited reach belongs to. -/
  scope : Nat
  port : Nat
  deriving DecidableEq, Repr

namespace IpAddress

/-- What reads the head of a text. -/
abbrev Reader (α : Type) : Type := List Char → Option (α × List Char)

/-- The value of a hexadecimal digit. -/
def digit? (base : Nat) (c : Char) : Option Nat :=
  let value :=
    if c.isDigit then c.toNat - '0'.toNat
    else if 'a' ≤ c && c ≤ 'f' then c.toNat - 'a'.toNat + 10
    else if 'A' ≤ c && c ≤ 'F' then c.toNat - 'A'.toNat + 10
    else base
  if value < base then some value else none

/-- Reads the digits at the head of a text behind a value: how many there are, and the value. -/
def readDigits (base count value : Nat) : List Char → (Nat × Nat) × List Char
  | [] => ((count, value), [])
  | c :: r =>
    match digit? base c with
    | some d => readDigits base (count + 1) (value * base + d) r
    | none => ((count, value), c :: r)

/-- Reads a number below a limit; `most` bounds its digits. -/
def readNumber (base : Nat) (most : Option Nat) (zeros : Bool) (limit : Nat) : Reader Nat :=
  fun cs =>
    let ((count, value), rest) := readDigits base 0 0 cs
    let tooMany := match most with
      | some m => m < count
      | none => false
    if count == 0 || tooMany || (!zeros && 1 < count && cs.head? == some '0') then none
    else if value < limit then some (value, rest)
    else none

/-- Reads one character. -/
def readMark (mark : Char) : Reader Unit
  | c :: r => if c == mark then some ((), r) else none
  | [] => none

/-- Reads four numbers with points between them. -/
def readV4 : Reader (Nat × Nat × Nat × Nat) := fun cs => do
  let byte := readNumber 10 (some 3) false 256
  let (a, cs) ← byte cs
  let ((), cs) ← readMark '.' cs
  let (b, cs) ← byte cs
  let ((), cs) ← readMark '.' cs
  let (c, cs) ← byte cs
  let ((), cs) ← readMark '.' cs
  let (d, cs) ← byte cs
  return ((a, b, c, d), cs)

/-- Reads up to `room` pieces with colons between them, behind a colon unless they are the first
    ones. The last two may be an IPv4 address; the flag says so. -/
def readPieces : (room : Nat) → (first : Bool) → List Char → (List Nat × Bool) × List Char
  | 0, _, cs => (([], false), cs)
  | room + 1, first, cs =>
    match if first then some ((), cs) else readMark ':' cs with
    | none => (([], false), cs)
    | some ((), behind) =>
      match if room == 0 then none else readV4 behind with
      | some ((a, b, c, d), rest) => (([a * 256 + b, c * 256 + d], true), rest)
      | none =>
        match readNumber 16 (some 4) true 65536 behind with
        | none => (([], false), cs)
        | some (piece, rest) =>
          let ((pieces, embedded), rest) := readPieces room false rest
          ((piece :: pieces, embedded), rest)

/-- Reads eight pieces, of which a run of zeros may be left out between two colons. -/
def readV6 : Reader (List Nat) := fun cs => do
  let ((before, embedded), cs) := readPieces 8 true cs
  if before.length == 8 then return (before, cs)
  else if embedded then none
  else
    let ((), cs) ← readMark ':' cs
    let ((), cs) ← readMark ':' cs
    let ((behind, _), cs) := readPieces (7 - before.length) true cs
    return (before ++ List.replicate (8 - before.length - behind.length) 0 ++ behind, cs)

/-- The address that a text writes. -/
def parse? (text : String) : Option IpAddress :=
  match readV4 text.toList with
  | some ((a, b, c, d), []) => some (.v4 a b c d)
  | _ =>
    match readV6 text.toList with
    | some (pieces, []) => some (.v6 pieces)
    | _ => none

end IpAddress

namespace SocketAddress

open IpAddress

/-- The wording for a text that is no address. -/
def invalidText : String := "invalid socket address syntax"

/-- Reads a colon and a port. -/
def readPort : Reader Nat := fun cs => do
  let ((), cs) ← readMark ':' cs
  readNumber 10 none true 65536 cs

/-- Reads the number of a network, if there is one. -/
def readScope (cs : List Char) : Nat × List Char :=
  match readMark '%' cs with
  | none => (0, cs)
  | some ((), behind) => (readNumber 10 none true word32 behind).getD (0, cs)

/-- Reads an IPv4 address and a port. -/
def readPlain : Reader SocketAddress := fun cs => do
  let ((a, b, c, d), cs) ← readV4 cs
  let (port, cs) ← readPort cs
  return (⟨.v4 a b c d, 0, port⟩, cs)

/-- Reads an IPv6 address in brackets and a port. -/
def readBracketed : Reader SocketAddress := fun cs => do
  let ((), cs) ← readMark '[' cs
  let (pieces, cs) ← readV6 cs
  let (scope, cs) := readScope cs
  let ((), cs) ← readMark ']' cs
  let (port, cs) ← readPort cs
  return (⟨.v6 pieces, scope, port⟩, cs)

/-- The address that a text writes. -/
def parse? (text : String) : Option SocketAddress :=
  match readPlain text.toList with
  | some (address, []) => some address
  | _ =>
    match readBracketed text.toList with
    | some (address, []) => some address
    | _ => none

end SocketAddress

/-! ## Writing -/

/-- The text of an IP address; an IPv4 address inside an IPv6 address keeps its points. -/
def IpAddress.text : IpAddress → String
  | .v4 a b c d => asciiText (writeIpv4 (((a * 256 + b) * 256 + c) * 256 + d))
  | .v6 [0, 0, 0, 0, 0, 0xFFFF, x, y] => "::ffff:" ++ asciiText (writeIpv4 (x * 65536 + y))
  | .v6 pieces => asciiText (writeIpv6 pieces)

/-- The text of an address to listen at. -/
def SocketAddress.text (a : SocketAddress) : String :=
  let host := match a.ip with
    | .v4 .. => a.ip.text
    | .v6 _ =>
      "[" ++ a.ip.text ++ (if a.scope == 0 then "" else "%" ++ toString a.scope) ++ "]"
  host ++ ":" ++ toString a.port

end CitationFusion
