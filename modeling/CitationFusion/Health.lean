import CitationFusion.Store

/-!
# Asking how the stores are

The stores are well when all of them answer; an index data store that cannot be pinged counts as
unknown. Their sizes are reported together or not at all.
-/

namespace CitationFusion

/-- Pings the stores in order; `pings` says whether the index data store can be pinged. -/
def checkHealth (pings : Bool) : StorePlan (Except Failure HealthReport) :=
  .call .pingIdentifiers fun (answer : Except Failure Unit) =>
    match answer with
    | .error failure => .done (.error (failure.labelled "identifier store"))
    | .ok () =>
      .call .pingCitations fun (answer : Except Failure Unit) =>
        match answer with
        | .error failure => .done (.error (failure.labelled "citation store"))
        | .ok () =>
          if pings then
            .call (.index .ping) fun (answer : Except Failure Unit) =>
              match answer with
              | .error failure => .done (.error (failure.labelled "index data store"))
              | .ok () => .done (.ok ⟨.ok, .ok, .ok⟩)
          else .done (.ok ⟨.ok, .ok, .unknown⟩)

/-- Counts what the stores hold; `counts` says whether the index data store can count.

    The service asks all three together and answers the first failure that comes in; here one is
    asked after the other. The answer is the same where no store waits, and where at most one of
    them fails. How long they take together is not said: the sum of the times here, the longest of
    them there. -/
def measure (counts : Bool) : StorePlan (Except Failure StoreSizes) :=
  .call .countIdentifiers fun (answer : Except Failure Nat) =>
    match answer with
    | .error failure => .done (.error failure)
    | .ok identifiers =>
      .call .countCitations fun (answer : Except Failure Nat) =>
        match answer with
        | .error failure => .done (.error failure)
        | .ok citations =>
          if counts then
            .call (.index .count) fun (answer : Except Failure Nat) =>
              match answer with
              | .error failure => .done (.error failure)
              | .ok n => .done (.ok ⟨identifiers, citations, some n⟩)
          else .done (.ok ⟨identifiers, citations, none⟩)

end CitationFusion
