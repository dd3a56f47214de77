import CitationFusion.Service

/-!
# Stores in memory

Stores that hold what they were given, count what they are asked, and can be made slow or
unavailable. The rows of identifiers are kept in the order of their identifiers, rows with the
same identifier in the order in which they came, and the first row that fits answers.

A delay holds up single look-ups and the fetching of metadata, and an unavailable store says so
only after it; joins of many DOIs, pings and counts are not held up.
-/

namespace CitationFusion.Memory

/-! ## 1. The stores -/

/-- What makes a store slow or unavailable. -/
structure Trouble where
  delay : Duration
  unavailable : Bool
  deriving DecidableEq, Repr

/-- Identifiers. -/
structure Identifiers where
  rows : List Mapping
  /-- Answered by every join, asked for or not. -/
  stray : List Mapping
  pointCalls : Nat
  batchCalls : Nat
  trouble : Trouble
  deriving Repr

/-- Citations, from the citing DOI to the cited one. -/
structure Citations where
  edges : List (String × String)
  calls : Nat
  trouble : Trouble
  deriving Repr

/-- Metadata by identifier. -/
structure IndexData where
  blobs : List (String × Bytes)
  /-- Identifiers for which fetching fails. -/
  broken : List String
  calls : Nat
  /-- Whether the store is well; `none` if it can neither be pinged nor count. -/
  healthy : Option Bool
  delay : Duration
  deriving Repr

/-- All stores. -/
structure Stores where
  identifiers : Identifiers
  citations : Citations
  indexData : List IndexData
  deriving Repr

/-- No trouble. -/
def Trouble.none : Trouble := ⟨.zero, false⟩

/-- An index data store without metadata. -/
def IndexData.start (healthy : Option Bool) : IndexData := ⟨[], [], 0, healthy, .zero⟩

/-- Empty stores, one index data store for each member of the list. -/
def Stores.start (healthy : List (Option Bool)) : Stores :=
  ⟨⟨[], [], 0, 0, .none⟩, ⟨[], 0, .none⟩, healthy.map .start⟩

/-! ## 2. Filling them -/

/-- Puts a row behind those whose identifiers do not come after its own. -/
def insertRow (row : Mapping) : List Mapping → List Mapping
  | [] => [row]
  | r :: rest => if row.id < r.id then row :: r :: rest else r :: insertRow row rest

/-- The store with another row. -/
def Identifiers.insert (s : Identifiers) (row : Mapping) : Identifiers :=
  { s with rows := insertRow row s.rows }

/-- The store with another row that every join answers. -/
def Identifiers.insertStray (s : Identifiers) (row : Mapping) : Identifiers :=
  { s with stray := s.stray ++ [row] }

/-- The store with another edge. -/
def Citations.cite (s : Citations) (source target : String) : Citations :=
  { s with edges := s.edges ++ [(source, target)] }

/-- The store with the metadata of a record. -/
def IndexData.insert (s : IndexData) (id : String) (blob : Bytes) : IndexData :=
  { s with blobs := (id, blob) :: s.blobs.filter (fun b => b.1 != id) }

/-- The store, failing for a record. -/
def IndexData.breakId (s : IndexData) (id : String) : IndexData :=
  { s with broken := id :: s.broken }

/-- The store, well or not; no change if it cannot be pinged. -/
def IndexData.setHealthy (s : IndexData) (healthy : Bool) : IndexData :=
  { s with healthy := s.healthy.map fun _ => healthy }

/-- A number with at least five digits. -/
def fiveDigits (n : Nat) : String :=
  let digits := Nat.toDigits 10 n
  String.ofList (List.replicate (5 - digits.length) '0' ++ digits)

/-- The stores with one more document around a DOI, the `n`th of a cluster: the DOI cites it, and
    if `every` divides `n` a local record with metadata stands for it. -/
def Stores.clusterOne (s : Stores) (leaf : Nat) (doi start : String) (every n : Nat) : Stores :=
  let target := start ++ fiveDigits n
  let s := { s with citations := s.citations.cite doi target }
  if every != 0 && n % every == 0 then
    let id := "L" ++ fiveDigits n
    { s with
      identifiers := s.identifiers.insert ⟨id, target⟩
      indexData := s.indexData.modify leaf
        (·.insert id (Utf8.ofString ("\x7b\"id\":\"" ++ id ++ "\"\x7d"))) }
  else s

/-- The stores with a cluster of documents around a DOI. -/
def Stores.cluster (s : Stores) (leaf : Nat) (doi start : String) (every count : Nat) : Stores :=
  (List.range count).foldl (fun s n => s.clusterOne leaf doi start every n) s

/-! ## 3. Their answers -/

/-- Refuses an answer of a store that is unavailable. -/
def Trouble.guard {α : Type} (t : Trouble) (store : String) (answer : Except Failure α) :
    Except Failure α :=
  if t.unavailable then .error (.storage (store ++ " is unavailable.")) else answer

/-- The first value, or that there is none. -/
def orNotFound {α : Type} (message : String) : Option α → Except Failure α
  | some a => .ok a
  | none => .error (.notFound message)

namespace Identifiers

/-- What messages call the store. -/
def label : String := "Identifier store"

/-- The DOI of an identifier. -/
def doiForId (s : Identifiers) (id : String) : Except Failure String :=
  s.trouble.guard label <|
    orNotFound ("No DOI for id " ++ Text.quote id ++ ".")
      ((s.rows.find? (fun r => r.id == id)).map Mapping.doi)

/-- The first identifier of a DOI. -/
def idForDoi (s : Identifiers) (doi : String) : Except Failure String :=
  s.trouble.guard label <|
    orNotFound ("No id for DOI " ++ Text.quote doi ++ ".")
      ((s.rows.find? (fun r => r.doi == doi)).map Mapping.id)

/-- The rows of many DOIs, and the stray rows. -/
def idsForDois (s : Identifiers) (dois : List String) : Except Failure (List Mapping) :=
  if dois.isEmpty then .ok []
  else
    s.trouble.guard label (.ok (s.rows.filter (fun r => dois.contains r.doi) ++ s.stray))

end Identifiers

namespace Citations

/-- What messages call the store. -/
def label : String := "Citation store"

/-- The documents next to one, in the order in which the edges came. -/
def edgesOf (s : Citations) (doi : String) : Except Failure Edges :=
  s.trouble.guard label <|
    .ok
      ⟨(s.edges.filter (fun e => e.1 == doi)).map Prod.snd,
       (s.edges.filter (fun e => e.2 == doi)).map Prod.fst⟩

end Citations

namespace IndexData

/-- The metadata of a record. -/
def blob (s : IndexData) (id : String) : Except FetchFailure Bytes :=
  if s.broken.contains id then .error (.backend ("Backend failed for " ++ Text.quote id ++ "."))
  else
    match s.blobs.find? (fun b => b.1 == id) with
    | some (_, blob) => .ok blob
    | none => .error (.notFound id)

/-- Whether the store is well. -/
def ping (s : IndexData) : Except Failure Unit :=
  if s.healthy == some false then .error (.indexData "Index data store is unavailable.")
  else .ok ()

end IndexData

/-! ## 4. Calls -/

/-- A single index data store: one in memory, by number, or one without metadata that answers
    pings and counts as told. -/
inductive Leaf where
  | stored (number : Nat)
  | fixed (ping : Option (Except Failure Unit)) (count : Option (Except Failure Nat))

/-- What an index data store can do. -/
def Leaf.abilities (s : Stores) : Leaf → Abilities
  | .stored number =>
    let able := ((s.indexData[number]?).bind (·.healthy)).isSome
    ⟨able, able⟩
  | .fixed ping count => ⟨ping.isSome, count.isSome⟩

/-- What an index data store answers; fetching is counted. -/
def Leaf.respond (s : Stores) :
    (leaf : Leaf) → (call : IndexCall) → Stores × Plan.Delivery call.Answer
  | .stored number, call =>
    match s.indexData[number]?, call with
    | some d, .fetch id =>
      ({ s with indexData := s.indexData.set number { d with calls := d.calls + 1 } },
        ⟨some d.delay, d.blob id⟩)
    | some d, .ping => (s, ⟨some .zero, d.ping⟩)
    | some d, .count => (s, ⟨some .zero, .ok d.blobs.length⟩)
    | none, .fetch id => (s, ⟨some .zero, .error (.notFound id)⟩)
    | none, .ping => (s, ⟨some .zero, .ok ()⟩)
    | none, .count => (s, ⟨some .zero, .ok 0⟩)
  | .fixed _ _, .fetch id => (s, ⟨some .zero, .error (.notFound id)⟩)
  | .fixed ping _, .ping => (s, ⟨some .zero, ping.getD (.ok ())⟩)
  | .fixed _ count, .count => (s, ⟨some .zero, count.getD (.ok 0)⟩)

/-- What the stores answer; look-ups, joins and edges are counted. -/
def Stores.respond (s : Stores) :
    (call : LeafCall Leaf) → Stores × Plan.Delivery (LeafAnswer Leaf call)
  | .doiForId id =>
    ({ s with identifiers.pointCalls := s.identifiers.pointCalls + 1 },
      ⟨some s.identifiers.trouble.delay, s.identifiers.doiForId id⟩)
  | .idForDoi doi =>
    ({ s with identifiers.pointCalls := s.identifiers.pointCalls + 1 },
      ⟨some s.identifiers.trouble.delay, s.identifiers.idForDoi doi⟩)
  | .idsForDois dois =>
    ({ s with
        identifiers.batchCalls := s.identifiers.batchCalls + (if dois.isEmpty then 0 else 1) },
      ⟨some .zero, s.identifiers.idsForDois dois⟩)
  | .edges doi =>
    ({ s with citations.calls := s.citations.calls + 1 },
      ⟨some s.citations.trouble.delay, s.citations.edgesOf doi⟩)
  | .pingIdentifiers =>
    (s, ⟨some .zero, s.identifiers.trouble.guard Identifiers.label (.ok ())⟩)
  | .pingCitations => (s, ⟨some .zero, s.citations.trouble.guard Citations.label (.ok ())⟩)
  | .countIdentifiers =>
    (s, ⟨some .zero,
      s.identifiers.trouble.guard Identifiers.label (.ok s.identifiers.rows.length)⟩)
  | .countCitations =>
    (s, ⟨some .zero, s.citations.trouble.guard Citations.label (.ok s.citations.edges.length)⟩)
  | .index (leaf, call) => leaf.respond s call

/-- The stores as a world of calls. -/
def world : Plan.World (LeafCall Leaf) (LeafAnswer Leaf) Stores := ⟨Stores.respond⟩

/-- How plans are followed on the stores, `f` being the index data store. -/
def executor (s : Stores) (f : Fetcher Leaf) : Executor Stores :=
  .ofFetcher (Leaf.abilities s) f world

end CitationFusion.Memory
