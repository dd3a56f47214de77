import CitationFusion.Text.Unprintable

/-!
# Why a request fails

Each layer has its own causes, and each cause is carried into the layer above it: what the
metadata store or a database says becomes a `Failure` of the request.
-/

namespace CitationFusion

/-- Why a request fails. -/
inductive Failure where
  /-- Something that was asked for is not there. -/
  | notFound (message : String)
  /-- The request outlived its deadline. -/
  | canceled
  /-- A store of identifiers or citations failed. -/
  | storage (message : String)
  /-- The index data store failed, or answered something unusable. -/
  | indexData (message : String)
  /-- The stores contradict each other. -/
  | invariant (message : String)
  /-- An answer could not be written. -/
  | encoding (message : String)
  deriving DecidableEq, Repr

/-- The wording of a failure. -/
def Failure.text : Failure → String
  | .notFound message => "Not found: " ++ message
  | .canceled => "Request canceled."
  | .storage message => "Storage error: " ++ message
  | .indexData message => "Index data error: " ++ message
  | .invariant message => "Invariant violated: " ++ message
  | .encoding message => "Failed to encode response: " ++ message

/-- A failure with the name of a store before what the store said. -/
def Failure.labelled (store : String) : Failure → Failure
  | .storage message => .storage (store ++ ": " ++ message)
  | .indexData message => .indexData (store ++ ": " ++ message)
  | other => other

/-- That the metadata of a record is not there. -/
def noIndexData (id : String) : String := "No index data for " ++ Text.quote id ++ "."

/-- Why the metadata of a record is not answered. -/
inductive FetchFailure where
  /-- There is none. -/
  | notFound (id : String)
  /-- The store failed. -/
  | backend (message : String)
  deriving DecidableEq, Repr

namespace FetchFailure

/-- The wording of a failure. -/
def text : FetchFailure → String
  | .notFound id => noIndexData id
  | .backend message => message

/-- Whether there just is no metadata. -/
def isNotFound : FetchFailure → Bool
  | .notFound _ => true
  | .backend _ => false

/-- The failure of the request that asked. -/
def toFailure (f : FetchFailure) : Failure := .indexData f.text

end FetchFailure

end CitationFusion
