import CitationFusion.Direction
import CitationFusion.Text.Parts
import CitationFusion.Wire

/-!
# The tables, and asking them

The tables are filled elsewhere and only read here; a start creates those that are missing. A
script is a list of statements with semicolons between them: the pieces between the semicolons,
trimmed, as far as they are not empty.

What is asked of the identifiers, the citations and the metadata is a statement each, or two, on
a pool of connections. A result is handed on as it comes: it is neither sorted nor cut here.

`Pool.bootstrap` creates the tables of a script in one transaction. Statements run in order and
the first that fails ends it, so nothing is committed unless all of them succeed.
-/

namespace CitationFusion.Postgres

/-! ## 1. Scripts -/

/-- The pieces of a text between semicolons. -/
def pieces (script : List Char) : List (List Char) := Text.splitAt (· == ';') script

/-- The statements of a script, as characters. -/
def statementChars (script : List Char) : List (List Char) :=
  ((pieces script).map Text.trim).filter (fun p => !p.isEmpty)

/-- The statements of a script. -/
def statements (script : String) : List String :=
  (statementChars script.toList).map String.ofList

/-- Local identifier (`k`) to DOI (`v`). Several local records may share a DOI. -/
def identifierMap : String :=
  "CREATE TABLE IF NOT EXISTS identifier_map (\n\tk TEXT PRIMARY KEY,\n\tv TEXT NOT NULL\n);\n" ++
  "CREATE INDEX IF NOT EXISTS identifier_map_v_idx ON identifier_map (v)"

/-- Citing DOI (`k`) to cited DOI (`v`), looked up from either end. -/
def citationMap : String :=
  "CREATE TABLE IF NOT EXISTS citation_map (\n\tk TEXT NOT NULL,\n\tv TEXT NOT NULL\n);\n" ++
  "CREATE INDEX IF NOT EXISTS citation_map_k_idx ON citation_map (k);\n" ++
  "CREATE INDEX IF NOT EXISTS citation_map_v_idx ON citation_map (v)"

/-- Local identifier (`k`) to metadata (`v`). -/
def indexData : String :=
  "CREATE TABLE IF NOT EXISTS index_data (\n\tk TEXT PRIMARY KEY,\n\tv TEXT NOT NULL\n)"

/-! ## 2. Rows -/

/-- A text in a column. -/
def Row.text (row : Row) (place : Nat) (name : String) : Except Fault String :=
  match row[place]? with
  | some (.text s) => .ok s
  | some (.number _) => .error (.columnMismatch name)
  | none => .error (.columnNotFound name)

/-- A number in a column. -/
def Row.number (row : Row) (place : Nat) (name : String) : Except Fault Int :=
  match row[place]? with
  | some (.number n) => .ok n
  | some (.text _) => .error (.columnMismatch name)
  | none => .error (.columnNotFound name)

/-- The text that is all of a row. -/
def Row.only (row : Row) : Except Fault String := row.text 0 "0"

/-- The row of a local record and its DOI. -/
def Row.mapping (row : Row) : Except Fault Mapping := do
  return ⟨← row.text 0 "\"k\"", ← row.text 1 "\"v\""⟩

/-! ## 3. Statements -/

/-- A plan of calls on a database. -/
abbrev Asking (α : Type) : Type := WirePlan (Except Failure α)

namespace Pool

variable {α : Type}

/-- Runs a statement and goes on with its rows. -/
def query (p : Pool) (sql : String) (values : List Value) (next : List Row → Asking α) :
    Asking α :=
  .call (.execute p ⟨sql, values⟩) fun (answer : Except Fault (List Row)) =>
    match answer with
    | .error fault => .done (.error (.database fault))
    | .ok rows => next rows

/-- The answer that was read from rows. -/
def reading (read : Except Fault α) : Asking α :=
  .done (match read with
    | .ok a => .ok a
    | .error fault => .error (.database fault))

/-- Runs a statement and reads all of its rows. -/
def all (p : Pool) (sql : String) (values : List Value) (read : Row → Except Fault α) :
    Asking (List α) :=
  p.query sql values fun rows => reading (rows.mapM read)

/-- Runs a statement and reads the first of its rows, if there is one. -/
def first (p : Pool) (sql : String) (value : String) (missing : String) : Asking String :=
  p.query sql [.text value] fun
    | [] => .done (.error (.notFound missing))
    | row :: _ => reading row.only

/-- Counts the rows of a table. -/
def count (p : Pool) (table : String) : Asking Nat :=
  p.query ("SELECT count(*) FROM " ++ table) [] fun
    | [] => .done (.error (.database .rowNotFound))
    | row :: _ => reading ((row.number 0 "0").map Int.toNat)

/-- The number of local records with a DOI. -/
def countIdentifiers (p : Pool) : Asking Nat := p.count "identifier_map"

/-- The number of citations. -/
def countCitations (p : Pool) : Asking Nat := p.count "citation_map"

/-- The number of records with metadata. -/
def countIndexData (p : Pool) : Asking Nat := p.count "index_data"

/-- Whether the database answers. -/
def ping (p : Pool) : Asking Unit := p.query "SELECT 1" [] fun _ => .done (.ok ())

/-! ## 4. What is asked -/

/-- The DOI of a local record. -/
def doiForId (p : Pool) (id : String) : Asking String :=
  p.first "SELECT v FROM identifier_map WHERE k = $1" id
    ("no DOI for identifier " ++ Text.quote id)

/-- The local record of a DOI, the lowest one of several. -/
def idForDoi (p : Pool) (doi : String) : Asking String :=
  p.first "SELECT k FROM identifier_map WHERE v = $1 ORDER BY k LIMIT 1" doi
    ("no identifier for DOI " ++ Text.quote doi)

/-- The local records of many DOIs; nothing is asked for none. -/
def idsForDois (p : Pool) (dois : List String) : Asking (List Mapping) :=
  if dois.isEmpty then .done (.ok [])
  else
    p.all "SELECT k, v\nFROM identifier_map\nWHERE v = ANY($1)\nORDER BY k" [.texts dois]
      Row.mapping

/-- The documents next to one: first those that it cites, then those that cite it. -/
def edges (p : Pool) (doi : String) : Asking Edges :=
  (p.all "SELECT v FROM citation_map WHERE k = $1 ORDER BY v" [.text doi] Row.only).bind fun
    | .error failure => .done (.error failure)
    | .ok citing =>
      (p.all "SELECT k FROM citation_map WHERE v = $1 ORDER BY k" [.text doi] Row.only).bind fun
        | .error failure => .done (.error failure)
        | .ok cited => .done (.ok ⟨citing, cited⟩)

/-- The metadata of a record. -/
def blob (p : Pool) (id : String) : Asking Bytes :=
  (p.first "SELECT v FROM index_data WHERE k = $1" id
    ("no index data for identifier " ++ Text.quote id)).map (·.map Utf8.ofString)

/-! ## 5. Connecting -/

/-- Makes a pool and opens its first connection. -/
def connect (number : Nat) (dsn : String) (size : Nat) : Asking Pool :=
  match Address.parse dsn with
  | .error fault => .done (.error (.database fault))
  | .ok address =>
    .call (.login ⟨number, address, size⟩) fun (answer : Except Fault Unit) =>
      .done (match answer with
        | .ok () => .ok ⟨number, address, size⟩
        | .error fault => .error (.database fault))

/-- Runs statements in order, up to the first that fails. -/
def runAll (p : Pool) : List Statement → Asking Unit
  | [] => .done (.ok ())
  | s :: rest => p.query s.sql s.values fun _ => p.runAll rest

/-- The key of the lock that keeps two starts from creating tables at the same time. -/
def lockKey : Int := 4210771

/-- The statements of a transaction that creates the tables of a script. The lock lasts as long
    as the transaction. -/
def transaction (script : String) : List Statement :=
  ⟨"BEGIN", []⟩ :: ⟨"SELECT pg_advisory_xact_lock($1)", [.number lockKey]⟩ ::
    ((statements script).map (⟨·, []⟩) ++ [⟨"COMMIT", []⟩])

/-- Creates the tables of a script. -/
def bootstrap (p : Pool) (script : String) : Asking Unit := p.runAll (transaction script)

end Pool

end CitationFusion.Postgres
