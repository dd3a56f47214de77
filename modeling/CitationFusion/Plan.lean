import CitationFusion.Cache
import CitationFusion.Stopwatch

/-!
# Plans

A plan is what a request does, step by step, up to its answer: calls on stores, reading the
clock, the operations on the cache, checkpoints, and events. What a call answers is not known to
the plan, so it goes on with a function of the answer.

* `Plan.run` follows a plan on a clock. A call takes time; a plan whose call would end past the
  deadline is cut off at the deadline, and nothing of it happens afterwards.
* `Plan.refine` replaces every call by a plan of smaller calls.
-/

namespace CitationFusion

/-- What a request does: `C` are the calls, `A c` the answers to the call `c`, and `α` the
    answer of the request. -/
inductive Plan (C : Type) (A : C → Type) (α : Type) : Type where
  | done (answer : α)
  /-- Makes a call. -/
  | call (c : C) (next : A c → Plan C A α)
  /-- Reads the clock. -/
  | clock (next : Instant → Plan C A α)
  /-- Looks for the living text under a key of the cache. -/
  | lookup (key : String) (next : Option Bytes → Plan C A α)
  /-- Keeps a text in the cache. -/
  | store (key : String) (value : Bytes) (ttl : Duration) (next : Plan C A α)
  /-- Removes the entry under a key of the cache. -/
  | evict (key : String) (next : Plan C A α)
  /-- Reaches a checkpoint. -/
  | lap (message : String) (next : Plan C A α)
  /-- Logs an event. -/
  | note (event : Event) (next : Plan C A α)

namespace Plan

variable {C D : Type} {A : C → Type} {B : D → Type} {α β : Type}

/-! ## 1. Plans from plans -/

/-- Goes on with the answer of a plan. -/
def bind : Plan C A α → (α → Plan C A β) → Plan C A β
  | done a, f => f a
  | call c next, f => call c fun x => (next x).bind f
  | clock next, f => clock fun t => (next t).bind f
  | lookup key next, f => lookup key fun v => (next v).bind f
  | store key value ttl next, f => store key value ttl (next.bind f)
  | evict key next, f => evict key (next.bind f)
  | lap message next, f => lap message (next.bind f)
  | note event next, f => note event (next.bind f)

/-- The plan that makes one call and answers what it answers. -/
def ask (c : C) : Plan C A (A c) := call c done

/-- The plan with another answer. -/
def map (f : α → β) (p : Plan C A α) : Plan C A β := p.bind fun a => done (f a)

/-- Every call is replaced by a plan that answers it. -/
def refine (expand : (c : C) → Plan D B (A c)) : Plan C A α → Plan D B α
  | done a => done a
  | call c next => (expand c).bind fun x => (next x).refine expand
  | clock next => clock fun t => (next t).refine expand
  | lookup key next => lookup key fun v => (next v).refine expand
  | store key value ttl next => store key value ttl (next.refine expand)
  | evict key next => evict key (next.refine expand)
  | lap message next => lap message (next.refine expand)
  | note event next => note event (next.refine expand)

/-! ## 2. Following a plan -/

/-- How a call ends: the time it takes, `none` being that it never ends, and its answer. -/
structure Delivery (α : Type) where
  takes : Option Duration
  answer : α

/-- Who answers the calls, in a state `σ` that calls may change as they begin. -/
structure World (C : Type) (A : C → Type) (σ : Type) where
  respond : σ → (c : C) → σ × Delivery (A c)

/-- Where a request stands. -/
structure Scene (σ : Type) where
  now : Instant
  world : σ
  cache : Cache
  watch : Stopwatch
  /-- In the order in which they were logged. -/
  events : List Event

/-- How a plan ends. -/
inductive Ending (α : Type) where
  | finished (answer : α)
  /-- The deadline passed. -/
  | cutOff
  /-- The clock cannot express when an entry expires. -/
  | overflowed
  deriving DecidableEq, Repr

/-- When a call that begins now and takes some time ends, unless the deadline is earlier. -/
def arrival (deadline : Option Instant) (now : Instant) : Option Duration → Option Instant
  | none => none
  | some d =>
    if d.nanos == 0 then some now
    else
      match deadline with
      | none => some (now.advance d)
      | some limit => if now.nanos + d.nanos ≤ limit.nanos then some (now.advance d) else none

/-- When a plan that is cut off in a call that begins now is cut off. -/
def cutOffAt (deadline : Option Instant) (now : Instant) : Instant :=
  ⟨max now.nanos (deadline.getD now).nanos⟩

/-- Follows a plan to its end. -/
def run {σ : Type} (w : World C A σ) (deadline : Option Instant) :
    Plan C A α → Scene σ → Ending α × Scene σ
  | done a, s => (.finished a, s)
  | call c next, s =>
    let (world, delivery) := w.respond s.world c
    match arrival deadline s.now delivery.takes with
    | some now => (next delivery.answer).run w deadline { s with world, now }
    | none => (.cutOff, { s with world, now := cutOffAt deadline s.now })
  | clock next, s => (next s.now).run w deadline s
  | lookup key next, s =>
    let (found, cache) := s.cache.get s.now key
    (next found).run w deadline { s with cache }
  | store key value ttl next, s =>
    match s.cache.set? s.now key value ttl with
    | some cache => next.run w deadline { s with cache }
    | none => (.overflowed, s)
  | evict key next, s => next.run w deadline { s with cache := s.cache.delete key }
  | lap message next, s =>
    next.run w deadline { s with watch := s.watch.record s.now message }
  | note event next, s => next.run w deadline { s with events := s.events ++ [event] }

end Plan

end CitationFusion
