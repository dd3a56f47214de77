import CitationFusion.Resolve
import CitationFusion.Health
import CitationFusion.Fetcher

/-!
# The service

A service answers requests one after the other. Between requests it keeps the cache and the
clock; the stores are a state of their own, and an `Executor` says how plans are followed on it.

A request that outlives its deadline is canceled. A request that would keep its answer for longer
than the clock can express is broken off (`Verdict.clockOverflow`).
-/

namespace CitationFusion

/-- How plans of calls on the stores are followed, the stores being in a state `σ`. -/
structure Executor (σ : Type) where
  run : {α : Type} → Option Instant → StorePlan α → Plan.Scene σ → Plan.Ending α × Plan.Scene σ

/-- Plans are followed call by call. -/
def Executor.direct {σ : Type}
    (w : Plan.World (StoreCall IndexCall) (StoreCall.Answer IndexCall.Answer) σ) : Executor σ :=
  ⟨fun deadline plan => plan.run w deadline⟩

/-- Every call on the index data store is a plan of calls on the stores of a fetcher. -/
def Executor.ofFetcher {L σ : Type} (of : L → Abilities) (f : Fetcher L)
    (w : Plan.World (LeafCall L) (LeafAnswer L) σ) : Executor σ :=
  ⟨fun deadline plan => (plan.refine (f.expand of)).run w deadline⟩

/-- What becomes of a request. -/
inductive Verdict (α : Type) where
  | answered (answer : Except Failure α)
  /-- The clock cannot express when an entry expires. -/
  | clockOverflow
  deriving Repr

/-- The wording of a request that is broken off. -/
def clockOverflowText : String := "overflow when adding duration to instant"

/-- A service: how it treats requests, and what its index data store can do. -/
structure Service where
  settings : Settings
  useCache : Bool
  abilities : Abilities

/-- A service at some time. -/
structure Session (σ : Type) where
  service : Service
  now : Instant
  world : σ
  cache : Cache

namespace Session

variable {α σ : Type}

/-- A service that starts with an empty cache. -/
def start (service : Service) (now : Instant) (world : σ) : Session σ :=
  ⟨service, now, world, .empty⟩

/-- What a request begins with. -/
def scene (s : Session σ) : Plan.Scene σ :=
  ⟨s.now, s.world, s.cache, .start s.service.settings.stopwatch s.now, []⟩

/-- The service after a request. -/
def afterwards (s : Session σ) (scene : Plan.Scene σ) : Session σ :=
  { s with now := scene.now, world := scene.world, cache := scene.cache }

/-- The end of the time that a request has. -/
def deadline (s : Session σ) : Instant := s.now.advance s.service.settings.requestTimeout

/-- What becomes of a request whose plan ends. -/
def verdict : Plan.Ending (Except Failure α) → Verdict α
  | .finished answer => .answered answer
  | .cutOff => .answered (.error .canceled)
  | .overflowed => .clockOverflow

/-- Follows a plan that has no deadline. -/
def ask (x : Executor σ) (plan : StorePlan (Except Failure α)) (s : Session σ) :
    Verdict α × Session σ :=
  let (ending, scene) := x.run none plan s.scene
  (verdict ending, s.afterwards scene)

/-! ## 1. Requests -/

/-- Resolves a record. The checkpoints are reported when the request ends, also when it is
    canceled. -/
def resolve (x : Executor σ) (id : String) (s : Session σ) :
    Verdict Resolution × Session σ × List Event :=
  let plan := CitationFusion.resolve s.service.settings s.service.useCache id
  let (ending, scene) := x.run (some s.deadline) plan s.scene
  let laps :=
    match ending with
    | .overflowed => []
    | _ => scene.watch.events id
  (verdict ending, s.afterwards scene, scene.events ++ laps)

/-- Finds the local record of a DOI. -/
def resolveDoi (x : Executor σ) (doi : String) (s : Session σ) : Verdict String × Session σ :=
  let (ending, scene) := x.run (some s.deadline) (CitationFusion.resolveDoi doi) s.scene
  (verdict ending, s.afterwards scene)

/-- Asks the index data store for the metadata of a record, without a deadline. -/
def fetch (x : Executor σ) (id : String) (s : Session σ) :
    Option (Except FetchFailure Bytes) × Session σ :=
  let plan : StorePlan (Except FetchFailure Bytes) :=
    .call (.index (.fetch id)) fun (answer : Except FetchFailure Bytes) => .done answer
  let (ending, scene) := x.run none plan s.scene
  (match ending with
    | .finished answer => some answer
    | _ => none,
   s.afterwards scene)

/-- Whether the stores answer. -/
def ping (x : Executor σ) (s : Session σ) : Verdict HealthReport × Session σ :=
  s.ask x (checkHealth s.service.abilities.pings)

/-- How much the stores hold. -/
def info (x : Executor σ) (s : Session σ) : Verdict StoreSizes × Session σ :=
  s.ask x (measure s.service.abilities.counts)

/-! ## 2. The cache -/

/-- The number of living entries; `none` without a cache. -/
def cacheSize (s : Session σ) : Option Nat :=
  if s.service.useCache then some (s.cache.size s.now) else none

/-- Empties the cache; whether there is one. -/
def flushCache (s : Session σ) : Bool × Session σ × List Event :=
  if s.service.useCache then (true, { s with cache := .empty }, [.flushed]) else (false, s, [])

end Session

end CitationFusion
