import CitationFusion.Url
import CitationFusion.Url.Ip
import CitationFusion.Url.Domain

/-!
# Reading URLs

A URL is read as the web reads it. Control characters and spaces at both ends are dropped, and so
are tabs and line ends anywhere. What may not stand in a part is percent-encoded. A special
scheme has a host, takes a backslash for a slash, and always has a path.

Segments of a path that are `.` or `..`, also with escapes, stand for the place itself and the
one above it (`pushSegment`).
-/

namespace CitationFusion.Url

open Ascii

/-! ## 1. What can be wrong -/

/-- What is wrong with a URL. -/
inductive Fault where
  /-- There is no scheme. -/
  | relative
  | emptyHost
  | invalidPort
  | invalidIpv4
  | invalidIpv6
  /-- The domain of a special scheme is no domain. -/
  | invalidInternationalName
  /-- The host of another scheme has a forbidden character. -/
  | invalidDomainCharacter
  deriving DecidableEq, Repr

/-- The wording of a fault. -/
def Fault.text : Fault → String
  | .relative => "relative URL without a base"
  | .emptyHost => "empty host"
  | .invalidPort => "invalid port number"
  | .invalidIpv4 => "invalid IPv4 address"
  | .invalidIpv6 => "invalid IPv6 address"
  | .invalidInternationalName => "invalid international domain name"
  | .invalidDomainCharacter => "invalid domain character"

/-! ## 2. What is encoded -/

/-- Whether an octet is a control character, or not ASCII. -/
def isControl (b : UInt8) : Bool := b < 0x20 || 0x7E < b

/-- What is encoded in a fragment. -/
def inFragment (b : UInt8) : Bool :=
  isControl b || b == 0x20 || b == 0x22 || b == 0x3C || b == 0x3E || b == 0x60

/-- What is encoded in a query. -/
def inQuery (special : Bool) (b : UInt8) : Bool :=
  isControl b || b == 0x20 || b == 0x22 || b == 0x23 || b == 0x3C || b == 0x3E ||
    (special && b == 0x27)

/-- What is encoded in a path. -/
def inPath (b : UInt8) : Bool :=
  inFragment b || b == 0x23 || b == 0x3F || b == 0x7B || b == 0x7D

/-- What is encoded in a segment that is added to a path. -/
def inSegment (special : Bool) (b : UInt8) : Bool :=
  inPath b || b == 0x2F || b == 0x25 || (special && b == 0x5C)

/-- What is encoded in a user's name and password. -/
def inUser (b : UInt8) : Bool :=
  inPath b || b == 0x2F || b == 0x3A || b == 0x3B || b == 0x3D || b == 0x40 || b == 0x5B ||
    b == 0x5C || b == 0x5D || b == 0x5E || b == 0x7C

/-- Some characters, encoded where a class says so. -/
def encodeChars (inClass : UInt8 → Bool) (cs : List Char) : Bytes :=
  Percent.encode (fun b => !inClass b) (Utf8.encode cs)

/-! ## 3. Segments -/

/-- The segment for the place itself. -/
def isDot (s : Bytes) : Bool :=
  s == [0x2E] || s == [0x25, 0x32, 0x65] || s == [0x25, 0x32, 0x45]

/-- Whether a segment stands for the place above: two dots, each perhaps escaped. -/
def isDotDot (s : Bytes) : Bool :=
  (s.length == 2 && s == [0x2E, 0x2E]) ||
  (s.length == 4 &&
    ((isDot (s.take 1) && isDot (s.drop 1)) || (isDot (s.take 3) && isDot (s.drop 3)))) ||
  (s.length == 6 && isDot (s.take 3) && isDot (s.drop 3))

/-- Whether an octet is a letter. -/
def isLetter (b : UInt8) : Bool := (0x41 ≤ b && b ≤ 0x5A) || (0x61 ≤ b && b ≤ 0x7A)

/-- Whether a segment is the letter of a drive: a letter and a colon or a bar. -/
def isDrive : Bytes → Bool
  | [a, b] => isLetter a && (b == colon || b == 0x7C)
  | _ => false

/-- The segments above; the letter of a drive is never left. -/
def above (list : List Bytes) : List Bytes :=
  match list.getLast? with
  | some s => if isDrive s then list else list.dropLast
  | none => []

/-- The first segment of a file's path: the letter of a drive gets its colon, and what follows it
    is a segment of its own. -/
def fileSegment (s : Bytes) : List Bytes :=
  match s with
  | [a, b] => if isDrive [a, b] then [[a, colon]] else [s]
  | a :: b :: r => if isLetter a && b == colon then [[a, b], r] else [s]
  | _ => [s]

/-- Adds a segment to a path; `last` says that no other follows. -/
def pushSegment (kind : SchemeKind) (list : List Bytes) (last : Bool) (s : Bytes) : List Bytes :=
  if isDotDot s then
    if last then above list ++ [[]] else above list
  else if isDot s then
    if last then list ++ [[]] else list
  else if kind == .file && list.isEmpty then fileSegment s
  else list ++ [s]

/-- Adds segments to a path in order. -/
def pushSegments (kind : SchemeKind) (list : List Bytes) : List Bytes → List Bytes
  | [] => list
  | [s] => pushSegment kind list true s
  | s :: t :: rest => pushSegments kind (pushSegment kind list false s) (t :: rest)

/-- Whether adding segments makes the letter of a drive the first one. -/
def entersDrive (list : List Bytes) : List Bytes → Bool
  | [] => false
  | s :: rest =>
    (list.isEmpty && isDrive s) || entersDrive (pushSegment .file list rest.isEmpty s) rest

/-- A file's path has no empty segments at its beginning. -/
def settleFile (kind : SchemeKind) (list : List Bytes) : List Bytes :=
  if kind == .file then
    match list.dropWhile List.isEmpty with
    | [] => [[]]
    | rest => rest
  else list

/-! ## 4. Parts -/

/-- The parts of a text between slashes. -/
def splitSlashes (special : Bool) (cs : List Char) : List (List Char) :=
  Text.splitAt (fun c => c == '/' || (special && c == '\\')) cs

/-- The written segments of a path behind its first slash. -/
def writtenSegments (special : Bool) (cs : List Char) : List Bytes :=
  (splitSlashes special cs).map (encodeChars inPath)

/-- The segments of a path behind its first slash. -/
def pathSegments (kind : SchemeKind) (cs : List Char) : List Bytes :=
  settleFile kind (pushSegments kind [] (writtenSegments kind.isSpecial cs))

/-- Whether a character ends a path. -/
def endsPath (c : Char) : Bool := c == '?' || c == '#'

/-- A text up to a query or a fragment, and the rest of it. -/
def splitPath (cs : List Char) : List Char × List Char :=
  (cs.takeWhile (!endsPath ·), cs.dropWhile (!endsPath ·))

/-- The query and the fragment that follow a path. -/
def readTail (special : Bool) (cs : List Char) : Option Bytes × Option Bytes :=
  let fragmentOf (cs : List Char) : Option Bytes :=
    match cs with
    | '#' :: r => some (encodeChars inFragment r)
    | _ => none
  match cs with
  | '?' :: r =>
    let query := r.takeWhile (· != '#')
    (some (encodeChars (inQuery special) query), fragmentOf (r.dropWhile (· != '#')))
  | _ => (none, fragmentOf cs)

/-- Whether a character ends an authority. -/
def endsAuthority (special : Bool) (c : Char) : Bool :=
  c == '/' || c == '?' || c == '#' || (special && c == '\\')

/-- The part of a text before the last of a character, and the part behind it. -/
def splitLast (mark : Char) (cs : List Char) : Option (List Char × List Char) :=
  match cs.reverse.dropWhile (· != mark) with
  | [] => none
  | _ :: before => some (before.reverse, (cs.reverse.takeWhile (· != mark)).reverse)

/-- A user's name and password; an empty password is none. -/
def userOf (cs : List Char) : Bytes × Option Bytes :=
  let name := cs.takeWhile (· != ':')
  let password := (cs.dropWhile (· != ':')).drop 1
  (encodeChars inUser name,
    if password.isEmpty then none else some (encodeChars inUser password))

/-- The host at the head of an authority, and what follows it. A colon inside brackets belongs to
    the host. -/
def splitHost (inside : Bool) : List Char → List Char × List Char
  | [] => ([], [])
  | c :: r =>
    if c == ':' && !inside then ([], c :: r)
    else
      let inside := if c == '[' then true else if c == ']' then false else inside
      let (host, rest) := splitHost inside r
      (c :: host, rest)

/-- An address between brackets. -/
def bracketed (cs : List Char) : Except Fault Host :=
  if cs.getLast? == some ']' then
    match ipv6? (Utf8.encode (cs.drop 1).dropLast) with
    | some pieces => .ok (.ipv6 pieces)
    | none => .error .invalidIpv6
  else .error .invalidIpv6

/-- Whether a character may not stand in the host of a scheme that is not special. -/
def isForbiddenInHost (c : Char) : Bool :=
  c == '\x00' || c == '\t' || c == '\n' || c == '\r' || c == ' ' || c == '#' || c == '/' ||
    c == ':' || c == '<' || c == '>' || c == '?' || c == '@' || c == '[' || c == '\\' ||
    c == ']' || c == '^' || c == '|'

/-- The host of a scheme that is not special. -/
def plainHost (cs : List Char) : Except Fault Host :=
  match cs with
  | [] => .ok .empty
  | '[' :: _ => bracketed cs
  | _ =>
    if cs.any isForbiddenInHost then .error .invalidDomainCharacter
    else .ok (.domain (encodeChars isControl cs))

/-- The host of a special scheme. -/
def specialHost (cs : List Char) : Except Fault Host :=
  match cs with
  | [] => .error .emptyHost
  | '[' :: _ => bracketed cs
  | _ =>
    match Domain.toAscii? (Percent.decode (Utf8.encode cs)) with
    | none => .error .invalidInternationalName
    | some [] => .error .emptyHost
    | some name =>
      if endsInNumber name then
        match ipv4? name with
        | some address => .ok (.ipv4 address)
        | none => .error .invalidIpv4
      else .ok (.domain name)

/-- The port behind a host, unless it is the one of the scheme. -/
def readPort (scheme : Bytes) (cs : List Char) : Except Fault (Option Nat) :=
  match cs with
  | [] => .ok none
  | _ :: digits =>
    match valueIn 10 (Utf8.encode digits) with
    | none => .error .invalidPort
    | some port =>
      if digits.isEmpty then .ok none
      else if 65535 < port then .error .invalidPort
      else .ok (if defaultPort? scheme == some port then none else some port)

/-- An authority, as far as its text goes; `followed` says that a path, a query or a fragment
    comes behind it. -/
def readAuthority (scheme : Bytes) (followed : Bool) (cs : List Char) : Except Fault Authority := do
  let special := (SchemeKind.of scheme).isSpecial
  let (user, rest) := (splitLast '@' cs).getD ([], cs)
  let seen := rest.length != cs.length
  if seen && followed && user.isEmpty && rest.isEmpty then .error .emptyHost
  else
    let (username, password) := userOf user
    let named := !username.isEmpty || password.isSome
    let (hostText, portText) := splitHost false rest
    let host ← if special then specialHost hostText else plainHost hostText
    if host == .empty && !portText.isEmpty then .error .emptyHost
    else
      let port ← readPort scheme portText
      if host == .empty && named then .error .emptyHost
      else return ⟨username, password, host, port⟩

/-! ## 5. URLs -/

/-- An authority and what follows it. A backslash always ends the digits of a port. -/
def splitAuthority (special : Bool) (cs : List Char) : List Char × List Char :=
  let whole := cs.takeWhile (!endsAuthority special ·)
  let behindUser := ((splitLast '@' whole).getD ([], whole)).2
  let port := (splitHost false behindUser).2
  cs.splitAt (whole.length - (port.dropWhile (· != '\\')).length)

/-- The rest of a URL behind two slashes. -/
def readBehindSlashes (scheme : Bytes) (cs : List Char) : Except Fault Url := do
  let kind := SchemeKind.of scheme
  let (text, rest) := splitAuthority kind.isSpecial cs
  let authority ← readAuthority scheme (!rest.isEmpty) text
  let (path, tail) := splitPath rest
  let (query, fragment) := readTail kind.isSpecial tail
  let segments :=
    match path with
    | [] => if kind.isSpecial then [[]] else []
    | c :: r => pathSegments kind (if c == '/' || kind.isSpecial then r else path)
  return ⟨scheme, some authority, .segments segments, query, fragment⟩

/-- The rest of a URL that has no authority. -/
def readWithoutAuthority (scheme : Bytes) (cs : List Char) : Url :=
  let (path, tail) := splitPath cs
  let (query, fragment) := readTail false tail
  match path with
  | '/' :: r => ⟨scheme, none, .segments (pathSegments .other r), query, fragment⟩
  | _ => ⟨scheme, none, .whole (encodeChars isControl path), query, fragment⟩

/-- Whether a character is a slash of either kind. -/
def isSlash (c : Char) : Bool := c == '/' || c == '\\'

/-- Whether some characters are the letter of a drive. -/
def isDriveText (cs : List Char) : Bool := isDrive (encodeChars inPath cs)

/-- The host of a file; the local one is left out. -/
def fileHost (cs : List Char) : Except Fault Host := do
  if cs.isEmpty then return .empty
  else
    let host ← specialHost cs
    return if host == .domain (Utf8.ofString "localhost") then .empty else host

/-- The rest of a URL of a file. A host before the letter of a drive is left out. -/
def readFile (scheme : Bytes) (cs : List Char) : Except Fault Url := do
  let finish (host : Host) (rest : List Char) : Url :=
    let (path, tail) := splitPath rest
    let (query, fragment) := readTail true tail
    let path := match path with
      | c :: r => if isSlash c then r else path
      | [] => []
    let host := if entersDrive [] (writtenSegments true path) then Host.empty else host
    ⟨scheme, some ⟨[], none, host, none⟩, .segments (pathSegments .file path), query, fragment⟩
  match cs with
  | a :: b :: r =>
    if isSlash a && isSlash b then
      let hostText := r.takeWhile (!endsAuthority true ·)
      if isDriveText hostText then return finish .empty r
      else
        let host ← fileHost hostText
        return finish host (r.drop hostText.length)
    else return finish .empty cs
  | _ => return finish .empty cs

/-- Whether a character is a letter of ASCII. -/
def isAsciiLetter (c : Char) : Bool := c.isAlpha

/-- The scheme at the head of a text, in lower case, and what follows its colon. -/
def splitScheme (cs : List Char) : Option (Bytes × List Char) :=
  let inScheme (c : Char) : Bool := c.isAlphanum || c == '+' || c == '-' || c == '.'
  let name := cs.takeWhile inScheme
  match name, cs.dropWhile inScheme with
  | first :: _, ':' :: rest =>
    if isAsciiLetter first then some (octets (name.map Char.toLower), rest) else none
  | _, _ => none

/-- Whether a character is dropped wherever it stands. -/
def isIgnored (c : Char) : Bool := c == '\t' || c == '\n' || c == '\r'

/-- Whether a character is dropped at both ends. -/
def isTrimmed (c : Char) : Bool := c.toNat ≤ 0x20

/-- A text without what is dropped. -/
def clean (text : String) : List Char :=
  let cs := text.toList.dropWhile isTrimmed
  ((cs.reverse.dropWhile isTrimmed).reverse).filter (!isIgnored ·)

end Url

/-- The URL that a text writes. -/
def Url.parse (text : String) : Except Url.Fault Url :=
  match Url.splitScheme (Url.clean text) with
  | none => .error .relative
  | some (scheme, rest) =>
    match SchemeKind.of scheme with
    | .special => Url.readBehindSlashes scheme (rest.dropWhile Url.isSlash)
    | .file => Url.readFile scheme rest
    | .other =>
      match rest with
      | '/' :: '/' :: r => Url.readBehindSlashes scheme r
      | _ => .ok (Url.readWithoutAuthority scheme rest)

/-! ## 6. One more segment -/

open Url

/-- The segments without an empty one at the end, unless it is the only one. -/
def UrlPath.dropEmptyLast (list : List Bytes) : List Bytes :=
  match list.getLast? with
  | some [] => if list.length ≤ 1 then list else list.dropLast
  | _ => list

/-- The segments behind which another one is added: a lone empty one is replaced. -/
def UrlPath.beforePush (list : List Bytes) : List Bytes :=
  if list == [[]] then [] else list

/-- The URL with a text as one more segment. -/
def Url.extend (u : Url) (text : String) : Url :=
  match u.path with
  | .whole _ => u
  | .segments list =>
    let kind := SchemeKind.of u.scheme
    let list := UrlPath.dropEmptyLast list
    if text == "." || text == ".." then { u with path := .segments list }
    else
      let s := encodeChars (inSegment kind.isSpecial) (text.toList.filter (!isIgnored ·))
      let added := pushSegment kind (UrlPath.beforePush list) true s
      { u with path := .segments (settleFile kind added) }

end CitationFusion
