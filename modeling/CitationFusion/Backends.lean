import CitationFusion.Config
import CitationFusion.IndexService
import CitationFusion.Postgres.Tables

/-!
# The stores behind the network

Identifiers and citations are in databases, and so is metadata, unless a service over HTTP has
it. `Backends.connect` connects what a configuration names, in a fixed order and up to the first
failure, and `Backends.answer` says what a call on the stores is over the network.
-/

namespace CitationFusion

/-- A store of metadata that is connected. -/
inductive Backend where
  | http (service : IndexService)
  | postgres (pool : Postgres.Pool)
  deriving DecidableEq, Repr

/-- The stores that are connected. -/
structure Backends where
  identifiers : Postgres.Pool
  citations : Postgres.Pool
  /-- Asked in order. -/
  indexData : List Backend
  deriving DecidableEq, Repr

namespace Postgres

/-- A plan whose failure is that of the request that asked. -/
def Asking.lift {α : Type} (plan : Asking α) : WirePlan (Except CitationFusion.Failure α) :=
  plan.map fun
    | .ok a => .ok a
    | .error failure => .error failure.toFailure

end Postgres

namespace Backend

/-- The metadata of a record. -/
def fetch (b : Backend) (id : String) : WirePlan (Except FetchFailure Bytes) :=
  match b with
  | .http service =>
    (service.fetch id).map fun
      | .ok bytes => .ok bytes
      | .error failure => .error failure.toFetchFailure
  | .postgres pool =>
    (pool.blob id).map fun
      | .ok bytes => .ok bytes
      | .error failure => .error (failure.toFetchFailure id)

/-- Whether the store answers. -/
def ping (b : Backend) : WirePlan (Except Failure Unit) :=
  match b with
  | .http service =>
    service.ping.map fun
      | .ok () => .ok ()
      | .error failure => .error (service.unreachable failure)
  | .postgres pool => pool.ping.lift

/-- How many records it has. -/
def count (b : Backend) : WirePlan (Except Failure Nat) :=
  match b with
  | .http service =>
    service.count.map fun
      | .ok n => .ok n
      | .error failure => .error failure.toFailure
  | .postgres pool => pool.countIndexData.lift

/-- What a call on the store is. -/
def answer (b : Backend) : (call : IndexCall) → WirePlan call.Answer
  | .fetch id => b.fetch id
  | .ping => b.ping
  | .count => b.count

/-- Every store can be pinged and counts its records. -/
def abilities (_ : Backend) : Abilities := ⟨true, true⟩

/-- What a call on the stores is where there is nothing but metadata. -/
def answerAlone : (call : LeafCall Backend) → WirePlan (LeafAnswer Backend call)
  | .doiForId id => .done (.error (.notFound ("no DOI for identifier " ++ Text.quote id)))
  | .idForDoi doi => .done (.error (.notFound ("no identifier for DOI " ++ Text.quote doi)))
  | .idsForDois _ => .done (.ok [])
  | .edges _ => .done (.ok ⟨[], []⟩)
  | .pingIdentifiers | .pingCitations => .done (.ok ())
  | .countIdentifiers | .countCitations => .done (.ok 0)
  | .index (store, call) => store.answer call

end Backend

namespace Backends

/-! ## 1. Asking -/

/-- The stores of metadata as one. -/
def fetcher (s : Backends) : Fetcher Backend := .group (s.indexData.map .leaf)

/-- What the stores of metadata can do together. -/
def abilities (s : Backends) : Abilities := s.fetcher.abilities Backend.abilities

/-- What a call on the stores is. -/
def answer (s : Backends) : (call : LeafCall Backend) → WirePlan (LeafAnswer Backend call)
  | .doiForId id => (s.identifiers.doiForId id).lift
  | .idForDoi doi => (s.identifiers.idForDoi doi).lift
  | .idsForDois dois => (s.identifiers.idsForDois dois).lift
  | .edges doi => (s.citations.edges doi).lift
  | .pingIdentifiers => s.identifiers.ping.lift
  | .pingCitations => s.citations.ping.lift
  | .countIdentifiers => s.identifiers.countIdentifiers.lift
  | .countCitations => s.citations.countCitations.lift
  | .index (store, call) => store.answer call

/-- A plan of calls on the stores as a plan of calls over the network. -/
def wire {α : Type} (s : Backends) (plan : StorePlan α) : WirePlan α :=
  (plan.refine (s.fetcher.expand Backend.abilities)).refine s.answer

/-- How plans are followed over a network. -/
def executor {σ : Type} (s : Backends) (w : Plan.World WireCall WireCall.Answer σ) : Executor σ :=
  ⟨fun deadline plan => Plan.run w deadline (s.wire plan)⟩

/-! ## 2. Connecting -/

/-- Connects a database and creates the tables of a script in it. -/
def connectDatabase (number : Nat) (d : Config.Database) (script : String) :
    WirePlan (Except Failure Postgres.Pool) :=
  (Postgres.Pool.connect number d.dsn d.poolMaxConns).lift.bind fun
    | .error failure => .done (.error failure)
    | .ok pool =>
      (pool.bootstrap script).lift.map fun
        | .error failure => .error failure
        | .ok () => .ok pool

/-- Connects a store of metadata. A service over HTTP is not asked anything yet. -/
def connectBackend (number : Nat) : Config.Backend → WirePlan (Except Failure Backend)
  | .http url =>
    .done (match IndexService.ofText url with
      | .ok service => .ok (.http service)
      | .error failure => .error (.indexData failure.text))
  | .postgres d =>
    (connectDatabase number d Postgres.indexData).map fun
      | .ok pool => .ok (.postgres pool)
      | .error failure => .error failure

/-- Connects stores of metadata in order, behind those that are connected. -/
def connectAll (connected : List Backend) (number : Nat) :
    List Config.Backend → WirePlan (Except Failure (List Backend))
  | [] => .done (.ok connected)
  | b :: rest =>
    (connectBackend number b).bind fun
      | .error failure => .done (.error failure)
      | .ok backend => connectAll (connected ++ [backend]) (number + 1) rest

/-- Connects the stores of a configuration: identifiers, citations, then metadata. -/
def connect (c : Config) : WirePlan (Except Failure Backends) :=
  (connectDatabase 0 c.storage.identifiers Postgres.identifierMap).bind fun
    | .error failure => .done (.error failure)
    | .ok identifiers =>
      (connectDatabase 1 c.storage.citations Postgres.citationMap).bind fun
        | .error failure => .done (.error failure)
        | .ok citations =>
          (connectAll [] 2 c.indexData.backends).map fun
            | .error failure => .error failure
            | .ok indexData => .ok ⟨identifiers, citations, indexData⟩

end Backends

end CitationFusion
