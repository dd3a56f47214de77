import CitationFusion.Config
import CitationFusion.Text.Utf8
import CitationFusion.Toml.Document
import CitationFusion.Words

/-!
# Reading a configuration

A configuration is written in TOML. A part of it is a table, of which unknown keys are passed
over, or a list of its fields in order, of which surplus items are. Numbers are not negative and
fit 64 bits, the number of connections 32.

A store of metadata says by `kind` what it is; in a list that is the first item, and there are no
surplus items. All its values are looked at, so all its integers must fit 64 bits; elsewhere 128
are enough.
-/

namespace CitationFusion.Config

open Toml

/-! ## 1. Fields -/

/-- The fields of a part, by name and by place. -/
inductive Fields where
  | named (members : Members)
  | ordered (items : List Item)

/-- The fields of a part. A time counts as a table without any of them. -/
def fieldsOf : Item → Option Fields
  | .table _ members => some (.named members)
  | .list items => some (.ordered items)
  | .tables items => some (.ordered (items.reverse.map (.table .header ·)))
  | .time => some (.named [])
  | _ => none

/-- The value of a field, if it is given. -/
def Fields.get? (f : Fields) (place : Nat) (name : String) : Option Item :=
  match f with
  | .named members => members.get? name
  | .ordered items => items[place]?

/-- A text. -/
def readText : Item → Option String
  | .text s => some s
  | _ => none

/-- A boolean. -/
def readBool : Item → Option Bool
  | .boolean b => some b
  | _ => none

/-- A number below a bound. -/
def readBelow (limit : Nat) : Item → Option Nat
  | .integer n => if 0 ≤ n && n < limit then some n.toNat else none
  | _ => none

/-- A number of 64 bits. -/
def readWord64 : Item → Option Nat := readBelow word64

/-- A field that has to be given. -/
def Fields.need {α : Type} (f : Fields) (place : Nat) (name : String) (read : Item → Option α) :
    Option α := do
  read (← f.get? place name)

/-- A field with a default. -/
def Fields.orElse {α : Type} (f : Fields) (place : Nat) (name : String)
    (read : Item → Option α) (default : α) : Option α :=
  match f.get? place name with
  | none => some default
  | some item => read item

/-! ## 2. The range of integers -/

mutual

/-- Whether all integers in a value are at least `least` and below `limit`. -/
def integersFit (least limit : Int) : Item → Bool
  | .integer n => least ≤ n && n < limit
  | .list items => allFit least limit items
  | .tables items => allTablesFit least limit items
  | .table _ members => membersFit least limit members
  | .text _ | .float | .boolean _ | .time => true

/-- Whether all integers in some values do. -/
def allFit (least limit : Int) : List Item → Bool
  | [] => true
  | item :: rest => integersFit least limit item && allFit least limit rest

/-- Whether all integers in some tables do. -/
def allTablesFit (least limit : Int) : List (List (String × Item)) → Bool
  | [] => true
  | members :: rest => membersFit least limit members && allTablesFit least limit rest

/-- Whether all integers in a table do. -/
def membersFit (least limit : Int) : List (String × Item) → Bool
  | [] => true
  | (_, item) :: rest => integersFit least limit item && membersFit least limit rest

end

/-! ## 3. Parts -/

/-- How the service itself behaves. -/
def readServing (item : Item) : Option Serving := do
  let f ← fieldsOf item
  return {
    httpBind := ← f.need 0 "http_bind" readText
    logLevel := ← f.need 1 "log_level" readText
    requestTimeoutMs := ← f.orElse 2 "request_timeout_ms" readWord64 30000
    stopwatch := ← f.orElse 3 "stopwatch" readBool false }

/-- The fields of a database, the first being at the given place. -/
def databaseOf (f : Fields) (place : Nat) : Option Database := do
  return {
    dsn := ← f.need place "dsn" readText
    poolMaxConns := ← f.need (place + 1) "pool_max_conns" (readBelow word32) }

/-- A database. -/
def readDatabase (item : Item) : Option Database := do
  databaseOf (← fieldsOf item) 0

/-- The databases of the identifiers and of the citations. -/
def readStorage (item : Item) : Option Storage := do
  let f ← fieldsOf item
  return {
    identifiers := ← f.need 0 "identifiers" readDatabase
    citations := ← f.need 1 "citations" readDatabase }

/-- Whether a list has no more than some items; a table always passes. -/
def Fields.atMost (f : Fields) (count : Nat) : Bool :=
  match f with
  | .named _ => true
  | .ordered items => items.length ≤ count

/-- A store of metadata. -/
def readBackend (item : Item) : Option Backend := do
  let f ← fieldsOf item
  if !integersFit (-word63) word64 item then none
  else
    match (← f.need 0 "kind" readText) with
    | "http" => if f.atMost 2 then return .http (← f.need 1 "url" readText) else none
    | "postgres" => if f.atMost 3 then return .postgres (← databaseOf f 1) else none
    | _ => none

/-- The items of a list. -/
def itemsOf : Item → Option (List Item)
  | .list items => some items
  | .tables items => some (items.reverse.map (.table .header ·))
  | _ => none

/-- The stores of metadata. -/
def readIndexData (item : Item) : Option IndexData := do
  let f ← fieldsOf item
  return {
    timeoutMs := ← f.need 0 "timeout_ms" readWord64
    backends := ← f.need 1 "backends" fun items => do (← itemsOf items).mapM readBackend }

/-- The result cache. -/
def readCaching (item : Item) : Option Caching := do
  let f ← fieldsOf item
  let d := Caching.standard
  return {
    enabled := ← f.orElse 0 "enabled" readBool d.enabled
    triggerMs := ← f.orElse 1 "trigger_ms" readWord64 d.triggerMs
    ttlSecs := ← f.orElse 2 "ttl_secs" readWord64 d.ttlSecs
    sweepIntervalSecs := ← f.orElse 3 "sweep_interval_secs" readWord64 d.sweepIntervalSecs }

/-- The configuration of a document, as it is written. -/
def ofMembers (members : Members) : Option Config := do
  let f : Fields := .named members
  if !membersFit (-word127) word128 members then none
  else
    return {
      service := ← f.need 0 "service" readServing
      storage := ← f.need 1 "storage" readStorage
      indexData := ← f.need 2 "index_data" readIndexData
      cache := ← f.orElse 3 "cache" readCaching .standard }

/-! ## 4. Configurations -/

/-- Why there is no configuration. -/
inductive Fault where
  /-- The file cannot be read. -/
  | unreadable (path : String)
  /-- The text is no configuration. -/
  | malformed (path : String)
  | invalid (problem : Problem)
  deriving DecidableEq, Repr

/-- The wording of a fault. -/
def Fault.text : Fault → String
  | .unreadable path => "Failed to read config file at " ++ Text.quote path ++ "."
  | .malformed path => "Failed to parse config file at " ++ Text.quote path ++ "."
  | .invalid problem => problem.text

/-- The configuration of a text from a file. -/
def parseFrom (path text : String) : Except Fault Config :=
  match (Toml.parse text).bind ofMembers with
  | none => .error (.malformed path)
  | some c =>
    let c := c.normalize
    match c.validate with
    | .error problem => .error (.invalid problem)
    | .ok () => .ok c

/-- The configuration of a text. -/
def parse (text : String) : Except Fault Config := parseFrom "" text

/-- The configuration of a file, `content` being what it holds, if it can be read. -/
def load (path : String) (content : Option Bytes) : Except Fault Config :=
  match content.bind Utf8.text? with
  | none => .error (.unreadable path)
  | some text => parseFrom path text

end CitationFusion.Config
