import CitationFusion.StringSet

/-!
# Scripts over named sets

A script works on any number of sets, each under a name; a name that was never set stands for
the empty set. Every step changes at most the set it names and answers what it observed. Where a
step answers members, their order is no part of what it promises.
-/

namespace CitationFusion.StringSet

/-- Sets by name. -/
abbrev Names := String → StringSet

/-- One step on the set `target`. -/
inductive Step where
  /-- The set becomes empty. -/
  | clear
  /-- The set becomes that of the given values. -/
  | assign (values : List String)
  /-- The values become members. -/
  | extend (values : List String)
  /-- The value becomes a member; observes whether it was none before. -/
  | add (value : String)
  /-- Observes whether the value is a member. -/
  | contains (value : String)
  /-- The set becomes the union of two sets. -/
  | union (left right : String)
  /-- The set becomes the difference of two sets. -/
  | difference (left right : String)
  /-- Observes whether the set equals another. -/
  | equals (right : String)
  /-- Observes the members. -/
  | members
  /-- Observes the octet lengths of the members, ascending. -/
  | lengths
  /-- Observes the members; the set becomes empty. -/
  | drain
  deriving Repr

/-- What a step observes. -/
inductive Observation where
  | nothing
  | flag (b : Bool)
  | texts (values : List String)
  | numbers (values : List Nat)
  deriving DecidableEq, Repr

/-- The names with one set replaced. -/
def Names.put (names : Names) (target : String) (s : StringSet) : Names :=
  fun n => if n = target then s else names n

/-- What a step makes of the named sets, and what it observes. -/
def Step.run (target : String) (names : Names) : Step → Names × Observation
  | .clear => (names.put target .empty, .nothing)
  | .assign values => (names.put target (.ofList values), .nothing)
  | .extend values => (names.put target ((names target).insertMany values), .nothing)
  | .add value =>
    (names.put target ((names target).insert value), .flag (!(names target).contains value))
  | .contains value => (names, .flag ((names target).contains value))
  | .union left right => (names.put target ((names left).union (names right)), .nothing)
  | .difference left right =>
    (names.put target ((names left).difference (names right)), .nothing)
  | .equals right => (names, .flag (names target == names right))
  | .members => (names, .texts (names target).toList)
  | .lengths =>
    (names, .numbers (((names target).toList.map String.utf8ByteSize).mergeSort (· ≤ ·)))
  | .drain => (names.put target .empty, .texts (names target).toList)

/-- Runs steps in order; answers what each observed and the set it named afterwards. -/
def runScript (names : Names) : List (String × Step) → List (Observation × StringSet)
  | [] => []
  | (target, step) :: rest =>
    let (after, seen) := step.run target names
    (seen, after target) :: runScript after rest

end CitationFusion.StringSet
