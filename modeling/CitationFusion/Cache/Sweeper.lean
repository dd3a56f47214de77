import CitationFusion.Cache
import CitationFusion.Event

/-!
# Sweeping a cache on a schedule

A sweeper ticks for the first time one interval after it was started, and then every interval.
A tick that comes more than five milliseconds late starts the schedule anew from that moment.
A sweeper ends when it ticks after the cache is gone; one whose interval is nothing, or whose
first tick the clock cannot express, ends at once.

Time passes in two ways: it jumps (`advance`), and then every tick that is due happens at the
new time; or it is slept through (`sleep`), and then every tick happens at its time.
-/

namespace CitationFusion

/-- A sweeper: its interval, and its next tick unless it has ended. -/
structure Sweeper where
  interval : Duration
  next : Option Instant
  deriving DecidableEq, Repr

/-- How late a tick may be without changing the schedule. -/
def tickTolerance : Duration := .ofMillis 5

namespace Sweeper

/-- A sweeper that starts now. -/
def start (now : Instant) (interval : Duration) : Sweeper :=
  ⟨interval, if interval.nanos == 0 then none else now.add? interval⟩

/-- Whether a sweeper has ended. -/
def finished (s : Sweeper) : Bool := s.next.isNone

/-- Whether a sweeper has a tick at `now` or before. -/
def due (s : Sweeper) (now : Instant) : Bool :=
  match s.next with
  | some t => t.nanos ≤ now.nanos
  | none => false

/-- The tick after the one that was due at `t` and happens at `now`. Ticks that are due by then,
    late as they are within the tolerance, happen at once too. -/
def nextTick (interval : Duration) (t now : Instant) : Option Instant :=
  if tickTolerance.nanos < (now.since t).nanos then now.add? interval
  else t.add? ⟨interval.nanos * ((now.since t).nanos / interval.nanos + 1)⟩

end Sweeper

/-- A cache that is swept, on a clock of its own. -/
structure SweptCache where
  now : Instant
  /-- `none` once the cache is gone. -/
  cache : Option Cache
  sweepers : List Sweeper

namespace SweptCache

/-- An empty cache without sweepers. -/
def start (now : Instant) : SweptCache := ⟨now, some .empty, []⟩

/-- Starts another sweeper. -/
def spawn (s : SweptCache) (interval : Duration) : SweptCache :=
  { s with sweepers := s.sweepers ++ [.start s.now interval] }

/-- The cache is gone. -/
def drop (s : SweptCache) : SweptCache := { s with cache := none }

/-- Removes the dead entries and reports their number, if there were any. -/
def sweepNow (now : Instant) (c : Cache) : Cache × List Event :=
  let (removed, left) := c.sweep now
  (left, if removed == 0 then [] else [.swept removed])

/-- The ticks that are due happen now. -/
def tick (s : SweptCache) : SweptCache × List Event :=
  if s.sweepers.any (·.due s.now) then
    let after (w : Sweeper) : Sweeper :=
      match w.next with
      | none => w
      | some t =>
        if !w.due s.now then w
        -- nobody holds the cache any more
        else if s.cache.isNone then { w with next := none }
        else { w with next := Sweeper.nextTick w.interval t s.now }
    let sweepers := s.sweepers.map after
    match s.cache with
    | none => ({ s with sweepers }, [])
    | some c =>
      let (left, events) := sweepNow s.now c
      ({ s with sweepers, cache := some left }, events)
  else (s, [])

/-- The clock jumps. -/
def advance (s : SweptCache) (d : Duration) : SweptCache × List Event :=
  tick { s with now := s.now.advance d }

/-- The earliest tick that is due by `limit`. -/
def earliest (sweepers : List Sweeper) (limit : Instant) : Option Instant :=
  sweepers.foldl
    (fun best w =>
      match w.next, best with
      | some t, none => if t.nanos ≤ limit.nanos then some t else none
      | some t, some b => if t.nanos < b.nanos then some t else some b
      | none, best => best)
    none

/-- Sleeps until `limit`, stopping at no more than `fuel` ticks on the way; `seen` was reported
    already. -/
def sleepUntil (limit : Instant) :
    (fuel : Nat) → (seen : List Event) → SweptCache → SweptCache × List Event
  | 0, seen, s => ({ s with now := limit }, seen)
  | fuel + 1, seen, s =>
    match earliest s.sweepers limit with
    | none => ({ s with now := limit }, seen)
    | some t =>
      let (s, events) := tick { s with now := ⟨max s.now.nanos t.nanos⟩ }
      sleepUntil limit fuel (seen ++ events) s

/-- A bound on the ticks of a sleep: each takes at least an interval from the end. -/
def tickBound (sweepers : List Sweeper) (limit : Instant) : Nat :=
  sweepers.foldr
    (fun w bound =>
      match w.next with
      | some t => (limit.since t).nanos / w.interval.nanos + 1 + bound
      | none => bound)
    0

/-- Time is slept through. -/
def sleep (s : SweptCache) (d : Duration) : SweptCache × List Event :=
  let limit := s.now.advance d
  sleepUntil limit (tickBound s.sweepers limit) [] s

end SweptCache

end CitationFusion
