import CitationFusion.Text.Ascii

/-!
# URLs

A URL as its parts. All of them are ASCII, what else stood in them being percent-encoded. The path
is a list of segments, but for URLs that cannot be a base (`mailto:x`), whose path is one text.

`Url.write` puts the parts together again. A path whose first segment is empty would look like an
authority where there is none, so it then begins with `/.`.
-/

namespace CitationFusion

open Ascii

/-- The host of a URL. -/
inductive Host where
  /-- No host, or an empty one. -/
  | empty
  | domain (name : Bytes)
  | ipv4 (address : Nat)
  /-- The eight pieces of an address. -/
  | ipv6 (pieces : List Nat)
  deriving DecidableEq, Repr

/-- What stands between the two slashes and the path. -/
structure Authority where
  username : Bytes
  password : Option Bytes
  host : Host
  /-- The port, unless it is the one of the scheme. -/
  port : Option Nat
  deriving DecidableEq, Repr

/-- The path of a URL. -/
inductive UrlPath where
  | segments (list : List Bytes)
  /-- The path of a URL that cannot be a base. -/
  | whole (text : Bytes)
  deriving DecidableEq, Repr

/-- A URL. -/
structure Url where
  scheme : Bytes
  authority : Option Authority
  path : UrlPath
  query : Option Bytes
  fragment : Option Bytes
  deriving DecidableEq, Repr

/-! ## 1. Schemes -/

/-- The kinds of schemes that URLs treat differently. -/
inductive SchemeKind where
  /-- `http`, `https`, `ws`, `wss`, and `ftp`. -/
  | special
  | file
  | other
  deriving DecidableEq, Repr

/-- The port of a scheme. -/
def defaultPort? (scheme : Bytes) : Option Nat :=
  if scheme = Utf8.ofString "http" || scheme = Utf8.ofString "ws" then some 80
  else if scheme = Utf8.ofString "https" || scheme = Utf8.ofString "wss" then some 443
  else if scheme = Utf8.ofString "ftp" then some 21
  else none

/-- The kind of a scheme. -/
def SchemeKind.of (scheme : Bytes) : SchemeKind :=
  if (defaultPort? scheme).isSome then .special
  else if scheme = Utf8.ofString "file" then .file
  else .other

/-- Whether a scheme has a backslash for a slash. -/
def SchemeKind.isSpecial : SchemeKind → Bool
  | .special | .file => true
  | .other => false

/-! ## 2. Writing -/

/-- The decimal digits of a number. -/
def decimalOctets (n : Nat) : Bytes := octets (Nat.toDigits 10 n)

/-- An address of four numbers. -/
def writeIpv4 (address : Nat) : Bytes :=
  let part (shift : Nat) : Bytes := decimalOctets (address / Nat.pow 2 shift % 256)
  part 24 ++ point :: part 16 ++ point :: part 8 ++ point :: part 0

/-- How many pieces at the head of some are zero. -/
def zeroRun (pieces : List Nat) : Nat := (pieces.takeWhile (· == 0)).length

/-- Where the longest run of zeros is, the first one of several, and how long: `best` is the
    longest one before `index`. -/
def longestZeros (best : Nat × Nat) (index : Nat) : List Nat → Nat × Nat
  | [] => best
  | p :: rest =>
    let run := zeroRun (p :: rest)
    longestZeros (if best.2 < run then (index, run) else best) (index + 1) rest

/-- Pieces in hexadecimal with colons between them. -/
def writePieces : List Nat → Bytes
  | [] => []
  | [p] => octets (Nat.toDigits 16 p)
  | p :: q :: rest => octets (Nat.toDigits 16 p) ++ colon :: writePieces (q :: rest)

/-- An address of eight pieces, with the longest run of at least two zeros left out. -/
def writeIpv6 (pieces : List Nat) : Bytes :=
  let (start, length) := longestZeros (0, 1) 0 pieces
  if length < 2 then writePieces pieces
  else
    writePieces (pieces.take start) ++ colon :: colon ::
      writePieces (pieces.drop (start + length))

/-- A host. -/
def Host.write : Host → Bytes
  | .empty => []
  | .domain name => name
  | .ipv4 address => writeIpv4 address
  | .ipv6 pieces => openBracket :: (writeIpv6 pieces ++ [closeBracket])

/-- What stands before the host. -/
def Authority.writeUser (a : Authority) : Bytes :=
  let password := match a.password with
    | none => []
    | some p => colon :: p
  if a.username.isEmpty && password.isEmpty then [] else a.username ++ password ++ [0x40]

/-- What stands behind the host. -/
def Authority.writePort (a : Authority) : Bytes :=
  match a.port with
  | none => []
  | some p => colon :: decimalOctets p

/-- What stands between the two slashes and the path. -/
def Authority.write (a : Authority) : Bytes := a.writeUser ++ a.host.write ++ a.writePort

/-- A path. -/
def UrlPath.write : UrlPath → Bytes
  | .segments list => list.flatMap fun s => 0x2F :: s
  | .whole text => text

/-- A part behind a mark, if there is one. -/
def writeMarked (mark : UInt8) : Option Bytes → Bytes
  | none => []
  | some text => mark :: text

/-- What stands between the scheme and the path. -/
def Url.writeAuthority (u : Url) : Bytes :=
  match u.authority with
  | some a => 0x2F :: 0x2F :: a.write
  | none =>
    match u.path with
    | .segments ([] :: _ :: _) => [0x2F, 0x2E]
    | _ => []

/-- The path and the query. -/
def Url.writeTarget (u : Url) : Bytes := u.path.write ++ writeMarked 0x3F u.query

/-- A URL. -/
def Url.write (u : Url) : Bytes :=
  u.scheme ++ colon :: u.writeAuthority ++ u.writeTarget ++ writeMarked 0x23 u.fragment

/-- Some ASCII octets as a text. -/
def asciiText (bs : Bytes) : String := String.ofList (bs.map fun b => Char.ofNat b.toNat)

/-- The text of a URL. -/
def Url.text (u : Url) : String := asciiText u.write

/-- Whether other URLs can be formed from this one. -/
def Url.isBase (u : Url) : Bool :=
  match u.path with
  | .segments _ => true
  | .whole _ => false

end CitationFusion
