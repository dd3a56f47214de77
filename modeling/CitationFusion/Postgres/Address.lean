import CitationFusion.Postgres.Failure
import CitationFusion.SocketAddress
import CitationFusion.Words
import CitationFusion.Url.Parse

/-!
# Where a database is

The address of a database is a URL: its user, host, port and path say who logs in where, and its
query says what else matters or overrides that. Parts of a URL are escaped, so user, password
and name of the database are unescaped and have to be UTF-8. Parameters without a meaning here
are ignored; of those with one, the first that is wrong makes the address wrong.
-/

namespace CitationFusion.Postgres

/-- Whether a connection is encrypted. -/
inductive Encryption where
  | never
  | ifOffered
  | always
  deriving DecidableEq, Repr

/-- The encryption that a name stands for, whatever the case of its letters. -/
def Encryption.ofName? (name : String) : Option Encryption :=
  let name := String.ofList (name.toList.map Char.toLower)
  if name == "disable" || name == "allow" then some .never
  else if name == "prefer" then some .ifOffered
  else if name == "require" || name == "verify-ca" || name == "verify-full" then some .always
  else none

/-- Where a database is, and who logs in. -/
structure Address where
  host : String
  port : Nat
  user : String
  /-- The name of the database; without one, the server decides. -/
  database : String
  encryption : Encryption
  deriving DecidableEq, Repr

/-- The port on which databases are found. -/
def standardPort : Nat := 5432

/-- Where a database is unless its address says so. -/
def Address.standard : Address := ⟨"localhost", standardPort, "root", "", .ifOffered⟩

/-- A login as it is listed. -/
def Address.login (a : Address) : String := a.user ++ "/" ++ a.database

/-! ## 1. Parameters -/

/-- Splits a text at the first octet that is a mark. -/
def cutAt (mark : UInt8) (bs : Bytes) : Bytes × Bytes :=
  (bs.takeWhile (· != mark), (bs.dropWhile (· != mark)).drop 1)

/-- A name or a value in a query: a plus sign is a space, and escapes are undone. -/
def unescapeParameter (bs : Bytes) : String :=
  String.ofList (Utf8.lossy (Percent.decode
    (bs.map fun b => if b == Ascii.plus then Ascii.space else b)))

/-- The names and values in a query. -/
def parameters (query : Bytes) : List (String × String) :=
  ((Text.splitAt (· == 0x26) query).filter (!·.isEmpty)).map fun part =>
    let (name, value) := cutAt 0x3D part
    (unescapeParameter name, unescapeParameter value)

/-- A fault in an address. -/
def wrong (message : String) : Fault := .configuration message

/-- A number below a limit in an address. -/
def numberBelow (limit : Nat) (value : String) : Except Fault Nat :=
  match Text.unsigned limit value with
  | .ok n => .ok n
  | .error fault => .error (wrong fault.message)

/-- The wording for an unknown encryption; it names its own kind of fault. -/
def unknownEncryption (value : String) : Fault :=
  wrong (wrong ("unknown value " ++ Text.quote value ++ " for `ssl_mode`")).text

/-- What one parameter changes. -/
def Address.adjust (a : Address) (name value : String) : Except Fault Address :=
  match name with
  | "sslmode" | "ssl-mode" =>
    match Encryption.ofName? value with
    | some encryption => .ok { a with encryption }
    | none => .error (unknownEncryption value)
  | "statement-cache-capacity" => (numberBelow word64 value).map fun _ => a
  | "host" => .ok { a with host := value }
  | "hostaddr" =>
    match IpAddress.parse? value with
    | some _ => .ok { a with host := value }
    | none => .error (wrong "invalid IP address syntax")
  | "port" => (numberBelow 65536 value).map fun port => { a with port }
  | "dbname" => .ok { a with database := value }
  | "user" => .ok { a with user := value }
  | _ => .ok a

/-- What parameters change, in order. -/
def Address.adjustAll (a : Address) : List (String × String) → Except Fault Address
  | [] => .ok a
  | (name, value) :: rest => do (← a.adjust name value).adjustAll rest

/-! ## 2. URLs -/

/-- An escaped part of a URL. -/
def unescapePart (part : Bytes) : Except Fault String :=
  match Utf8.text (Percent.decode part) with
  | .ok s => .ok s
  | .error fault => .error (wrong fault.message)

/-- An escaped part of a URL, unless it is empty. -/
def partOr (standard : String) (part : Bytes) : Except Fault String :=
  if part.isEmpty then .ok standard else unescapePart part

/-- What stands between the two slashes and the path of a URL, as far as it matters here. -/
def Address.ofAuthority (a : Address) : Option Authority → Except Fault Address
  | none => .ok a
  | some authority => do
    let host := match authority.host with
      | .empty => a.host
      | host => asciiText host.write
    let user ← partOr a.user authority.username
    let _ ← partOr "" (authority.password.getD [])
    return { a with host, port := authority.port.getD a.port, user }

/-- The address that a URL stands for. -/
def Address.ofUrl (u : Url) : Except Fault Address := do
  let a ← Address.standard.ofAuthority u.authority
  let database ← partOr a.database (u.path.write.dropWhile (· == 0x2F))
  { a with database }.adjustAll (parameters (u.query.getD []))

/-- The address that a text writes. -/
def Address.parse (dsn : String) : Except Fault Address :=
  match Url.parse dsn with
  | .ok url => Address.ofUrl url
  | .error fault => .error (wrong fault.text)

end CitationFusion.Postgres
