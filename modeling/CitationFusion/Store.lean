import CitationFusion.Direction
import CitationFusion.Plan

/-!
# Calls on the stores

Three stores answer a request: identifiers (local record to DOI, and back), citations, and index
data (the metadata of local records). What is asked of the index data store is told apart from
the rest, because several stores may stand behind it.
-/

namespace CitationFusion

/-- What is asked of an index data store. -/
inductive IndexCall where
  /-- The metadata of a record. -/
  | fetch (id : String)
  /-- Whether the store answers. -/
  | ping
  /-- How many records it has. -/
  | count
  deriving DecidableEq, Repr

/-- What an index data store answers. -/
abbrev IndexCall.Answer : IndexCall → Type
  | .fetch _ => Except FetchFailure Bytes
  | .ping => Except Failure Unit
  | .count => Except Failure Nat

/-- What is asked of the stores; `I` are the calls on index data. -/
inductive StoreCall (I : Type) where
  /-- The DOI of a local record. -/
  | doiForId (id : String)
  /-- The local record of a DOI. -/
  | idForDoi (doi : String)
  /-- The local records of many DOIs. -/
  | idsForDois (dois : List String)
  /-- The documents next to one. -/
  | edges (doi : String)
  | pingIdentifiers
  | pingCitations
  | countIdentifiers
  | countCitations
  | index (call : I)
  deriving DecidableEq, Repr

/-- What the stores answer. -/
abbrev StoreCall.Answer {I : Type} (A : I → Type) : StoreCall I → Type
  | .doiForId _ => Except Failure String
  | .idForDoi _ => Except Failure String
  | .idsForDois _ => Except Failure (List Mapping)
  | .edges _ => Except Failure Edges
  | .pingIdentifiers | .pingCitations => Except Failure Unit
  | .countIdentifiers | .countCitations => Except Failure Nat
  | .index call => A call

/-- A plan of calls on the stores. -/
abbrev StorePlan (α : Type) : Type :=
  Plan (StoreCall IndexCall) (StoreCall.Answer IndexCall.Answer) α

end CitationFusion
