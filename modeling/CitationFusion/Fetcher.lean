import CitationFusion.Store
import CitationFusion.Words

/-!
# Several index data stores as one

A fetcher is an index data store or a group of fetchers, to any depth. A group asks its members
in order, a miss goes on to the next one, and any other answer is the answer of the group. It
can be pinged if a member can, and is then well if all of those are; it can count if a member
can, and then has as many records as those have together, up to a bound.

The plans of this module call the single stores, the leaves of the tree.
-/

namespace CitationFusion

/-- An index data store or a group of fetchers; `L` are the single stores. -/
inductive Fetcher (L : Type) where
  | leaf (store : L)
  | group (members : List (Fetcher L))

/-- What a single store can do besides answering metadata. -/
structure Abilities where
  pings : Bool
  counts : Bool
  deriving DecidableEq, Repr

/-- A call on a single index data store. -/
abbrev LeafCall (L : Type) : Type := StoreCall (L × IndexCall)

/-- What a call on a single index data store answers. -/
abbrev LeafAnswer (L : Type) : LeafCall L → Type := StoreCall.Answer fun call => call.2.Answer

/-- A plan of calls in which every index data store is called by itself. -/
abbrev LeafPlan (L α : Type) : Type := Plan (LeafCall L) (LeafAnswer L) α

/-- The greatest number of records that is reported. -/
def countLimit : Nat := word64 - 1

namespace Fetcher

variable {L : Type}

/-! ## 1. What a fetcher can do -/

mutual

/-- What a fetcher can do. -/
def abilities (of : L → Abilities) : Fetcher L → Abilities
  | .leaf store => of store
  | .group members => abilitiesOfAny of members

/-- What some member of a group can do. -/
def abilitiesOfAny (of : L → Abilities) : List (Fetcher L) → Abilities
  | [] => ⟨false, false⟩
  | m :: rest =>
    let a := abilities of m
    let b := abilitiesOfAny of rest
    ⟨a.pings || b.pings, a.counts || b.counts⟩

end

/-! ## 2. Asking it -/

mutual

/-- Asks for the metadata of a record. -/
def fetch (id : String) : Fetcher L → LeafPlan L (Except FetchFailure Bytes)
  | .leaf store =>
    .call (.index (store, .fetch id)) fun (answer : Except FetchFailure Bytes) => .done answer
  | .group members => fetchFirst id members

/-- Asks members in order until one has an answer. -/
def fetchFirst (id : String) : List (Fetcher L) → LeafPlan L (Except FetchFailure Bytes)
  | [] => .done (.error (.notFound id))
  | m :: rest => (fetch id m).bind fun
    | .error (.notFound _) => fetchFirst id rest
    | other => .done other

end

mutual

/-- Pings every store that can be pinged, up to the first that fails. -/
def ping (of : L → Abilities) : Fetcher L → LeafPlan L (Except Failure Unit)
  | .leaf store =>
    if (of store).pings then
      .call (.index (store, .ping)) fun (answer : Except Failure Unit) => .done answer
    else .done (.ok ())
  | .group members => pingAll of members

/-- Pings members in order, up to the first that fails. -/
def pingAll (of : L → Abilities) : List (Fetcher L) → LeafPlan L (Except Failure Unit)
  | [] => .done (.ok ())
  | m :: rest => (ping of m).bind fun
    | .error failure => .done (.error failure)
    | .ok () => pingAll of rest

end

mutual

/-- Adds the records of every store that can count to those of the stores before, up to the
    first store that fails. -/
def count (of : L → Abilities) : Fetcher L → LeafPlan L (Except Failure Nat)
  | .leaf store =>
    if (of store).counts then
      .call (.index (store, .count)) fun (answer : Except Failure Nat) => .done answer
    else .done (.ok 0)
  | .group members => countAll of 0 members

/-- Adds the records of the members to `total`, up to the first that fails. -/
def countAll (of : L → Abilities) (total : Nat) :
    List (Fetcher L) → LeafPlan L (Except Failure Nat)
  | [] => .done (.ok total)
  | m :: rest => (count of m).bind fun
    | .error failure => .done (.error failure)
    | .ok n => countAll of (min (total + n) countLimit) rest

end

/-- The plan of a call on the fetcher. -/
def answer (of : L → Abilities) (f : Fetcher L) :
    (call : IndexCall) → LeafPlan L call.Answer
  | .fetch id => f.fetch id
  | .ping => f.ping of
  | .count => f.count of

/-- The plan of a call on the stores, the fetcher being the index data store. -/
def expand (of : L → Abilities) (f : Fetcher L) :
    (call : StoreCall IndexCall) → LeafPlan L (StoreCall.Answer IndexCall.Answer call)
  | .doiForId id => .call (.doiForId id) .done
  | .idForDoi doi => .call (.idForDoi doi) .done
  | .idsForDois dois => .call (.idsForDois dois) .done
  | .edges doi => .call (.edges doi) .done
  | .pingIdentifiers => .call .pingIdentifiers .done
  | .pingCitations => .call .pingCitations .done
  | .countIdentifiers => .call .countIdentifiers .done
  | .countCitations => .call .countCitations .done
  | .index call => f.answer of call

end Fetcher

end CitationFusion
