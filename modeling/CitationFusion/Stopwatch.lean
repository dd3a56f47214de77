import CitationFusion.Event

/-!
# Checkpoints of a request

A stopwatch keeps the checkpoints of one request and reports them together when the request
ends. Switched off, it keeps nothing.
-/

namespace CitationFusion

/-- A checkpoint. -/
structure Lap where
  reached : Instant
  message : String
  deriving DecidableEq, Repr

/-- The checkpoints of one request. -/
structure Stopwatch where
  enabled : Bool
  started : Instant
  /-- In the order in which they were reached. -/
  laps : List Lap
  deriving DecidableEq, Repr

/-- What is reported of a checkpoint: the time since the one before it, and since the start. -/
structure LapTime where
  delta : Duration
  total : Duration
  message : String
  deriving DecidableEq, Repr

namespace Stopwatch

/-- A stopwatch that starts now. -/
def start (enabled : Bool) (now : Instant) : Stopwatch := ⟨enabled, now, []⟩

/-- Keeps a checkpoint, unless the stopwatch is off. -/
def record (w : Stopwatch) (now : Instant) (message : String) : Stopwatch :=
  if w.enabled then { w with laps := w.laps ++ [⟨now, message⟩] } else w

/-- The times of checkpoints, `previous` being the one before them. -/
def timesFrom (started previous : Instant) : List Lap → List LapTime
  | [] => []
  | lap :: rest =>
    ⟨lap.reached.since previous, lap.reached.since started, lap.message⟩ ::
      timesFrom started lap.reached rest

/-- The times of all checkpoints. -/
def times (w : Stopwatch) : List LapTime := timesFrom w.started w.started w.laps

/-- The events of some checkpoints, numbered from `step` on. -/
def eventsFrom (id : String) : (step : Nat) → List LapTime → List Event
  | _, [] => []
  | step, t :: rest =>
    .lap id step t.delta t.total t.message :: eventsFrom id (step + 1) rest

/-- The events that report the checkpoints of the request for `id`. -/
def events (w : Stopwatch) (id : String) : List Event :=
  if w.enabled then eventsFrom id 0 w.times else []

end Stopwatch

end CitationFusion
