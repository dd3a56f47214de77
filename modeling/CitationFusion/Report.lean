import CitationFusion.Json.Record
import CitationFusion.Json.Write
import CitationFusion.Response.Read

/-!
# Reports on the stores

Whether the stores answer, and how much they hold.
-/

namespace CitationFusion

open Json

/-- What is known of a store. -/
inductive StoreStatus where
  | ok
  /-- The store does not tell. -/
  | unknown
  deriving DecidableEq, Repr

/-- The name of a status. -/
def StoreStatus.name : StoreStatus → String
  | .ok => "ok"
  | .unknown => "unknown"

/-- What events call a status. -/
def StoreStatus.label : StoreStatus → String
  | .ok => "Ok"
  | .unknown => "Unknown"

/-- Whether the stores answer. -/
structure HealthReport where
  identifiers : StoreStatus
  citations : StoreStatus
  indexData : StoreStatus
  deriving DecidableEq, Repr

/-- How much the stores hold. -/
structure StoreSizes where
  identifiers : Nat
  citations : Nat
  /-- `none` when no part of the index data store can count. -/
  indexData : Option Nat
  deriving DecidableEq, Repr

/-! ## 1. Writing -/

/-- A status as a JSON text. -/
def StoreStatus.write (s : StoreStatus) : Bytes := writeString s.name

/-- A health report as a JSON text. -/
def HealthReport.write (h : HealthReport) : Bytes :=
  writeObject
    [ writeMember "identifiers" h.identifiers.write,
      writeMember "citations" h.citations.write,
      writeMember "index_data" h.indexData.write ]

/-- A number or `null`. -/
def writeOptional : Option Nat → Bytes
  | some n => writeNat n
  | none => writeNull

/-- Store sizes as a JSON text. -/
def StoreSizes.write (s : StoreSizes) : Bytes :=
  writeObject
    [ writeMember "identifier_database_count" (writeNat s.identifiers),
      writeMember "oci_database_count" (writeNat s.citations),
      writeMember "index_data_count" (writeOptional s.indexData) ]

/-- Store sizes as a JSON text over several lines. -/
def StoreSizes.pretty (s : StoreSizes) : String :=
  let value : Option Nat → String
    | some n => toString n
    | none => "null"
  "\x7b\n  \"identifier_database_count\": " ++ toString s.identifiers ++
    ",\n  \"oci_database_count\": " ++ toString s.citations ++
    ",\n  \"index_data_count\": " ++ value s.indexData ++ "\n\x7d"

/-! ## 2. Reading -/

/-- The status of a name that was read. -/
def StoreStatus.ofName (name : String) (rest : Bytes) : Except Stop StoreStatus :=
  if name == "ok" then .ok .ok
  else if name == "unknown" then .ok .unknown
  else .error (.after (.unknownVariant name ["ok", "unknown"]) rest)

/-- Reads `null`, where a name stands as the key of an object. -/
def readUnit : Reader Unit := fun bs =>
  match skipSpace bs with
  | [] => .error (.onNext .endInValue [])
  | b :: r =>
    if b == 0x6E then (skimLiteral nullTail r).map ((), ·) else .error (refuse "unit" b r)

/-- Reads a status behind the brace of an object: its name is the key and `null` the value. -/
def StoreStatus.readKeyed : Reader StoreStatus := fun bs =>
  match skipSpace bs with
  | [] => .error (.onNext .endInValue [])
  | b :: r => do
    if b == Ascii.quote then
      let (name, rest) ← readString r
      let status ← ofName name rest
      let rest ← readColon rest
      let (_, rest) ← readUnit rest
      match skipSpace rest with
      | [] => .error (.after .endInObject [])
      | c :: t =>
        if c == Ascii.closeBrace then .ok (status, t)
        else .error (.after .expectedValue (c :: t))
    else .error (refuse "variant identifier" b r)

/-- Reads a status: its name, alone or as the key of an object. -/
def StoreStatus.read : Reader StoreStatus := fun bs =>
  match skipSpace bs with
  | [] => .error (.onNext .endInValue [])
  | b :: r =>
    if b == Ascii.openBrace then readKeyed r
    else if b == Ascii.quote then do
      let (name, rest) ← readString r
      let status ← ofName name rest
      return (status, rest)
    else .error (.onNext .expectedValue (b :: r))

/-- A health report, as far as given. -/
structure HealthDraft where
  identifiers : Option StoreStatus
  citations : Option StoreStatus
  indexData : Option StoreStatus

/-- How a health report is read. -/
def HealthReport.shape : Shape HealthDraft HealthReport :=
  { name := "HealthReport"
    slots :=
      [ .required "identifiers" (·.identifiers) (fun d v => { d with identifiers := some v })
          StoreStatus.read,
        .required "citations" (·.citations) (fun d v => { d with citations := some v })
          StoreStatus.read,
        .required "index_data" (·.indexData) (fun d v => { d with indexData := some v })
          StoreStatus.read ]
    draft := ⟨none, none, none⟩
    build := fun d => do
      let identifiers ← required "identifiers" d.identifiers
      let citations ← required "citations" d.citations
      let indexData ← required "index_data" d.indexData
      return ⟨identifiers, citations, indexData⟩ }

/-- Store sizes, as far as given. -/
structure SizesDraft where
  identifiers : Option Nat
  citations : Option Nat
  indexData : Option (Option Nat)

/-- How store sizes are read. -/
def StoreSizes.shape : Shape SizesDraft StoreSizes :=
  { name := "StoreInfo"
    slots :=
      [ .required "identifier_database_count" (·.identifiers)
          (fun d v => { d with identifiers := some v }) (readNat "u64"),
        .required "oci_database_count" (·.citations)
          (fun d v => { d with citations := some v }) (readNat "u64"),
        .required "index_data_count" (·.indexData) (fun d v => { d with indexData := some v })
          (readOptional (readNat "u64")) ]
    draft := ⟨none, none, none⟩
    build := fun d => do
      let identifiers ← required "identifier_database_count" d.identifiers
      let citations ← required "oci_database_count" d.citations
      return ⟨identifiers, citations, d.indexData.getD none⟩ }

end CitationFusion
