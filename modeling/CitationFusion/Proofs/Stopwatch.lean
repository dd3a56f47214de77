import CitationFusion.Stopwatch
import Mathlib.Algebra.GroupWithZero.Nat

/-!
# The times of checkpoints

What is reported of the checkpoints of a request tells when they were reached, and adds up, if the
clock did not go back.

* `Line`, `Event.lines` : what a log says of checkpoints.
* `Faithful` : lines that are numbered, and whose times add up.
* `InOrder` : checkpoints that were reached one after the other.
* `Stopwatch.faithful_events` : the lines of those are faithful.
* `Clocked`, `Stopwatch.clocked_events` : lines give the times at which checkpoints were reached.
-/

namespace CitationFusion

/-! ## 1. Lines -/

/-- What is logged of a checkpoint. The times are the exact spans of which the log gives the
    milliseconds (`Duration.millis`) as its `delta_ms` and `total_ms`. -/
structure Line where
  id : String
  step : Nat
  delta : Duration
  total : Duration
  message : String
  deriving DecidableEq, Repr

namespace Event

variable {log : List Event}

/-- The line of a checkpoint. -/
def line? : Event → Option Line
  | .lap id step delta total message => some ⟨id, step, delta, total, message⟩
  | _ => none

/-- The lines of a log. -/
def lines (log : List Event) : List Line := log.filterMap line?

theorem lines_append (log log' : List Event) : lines (log ++ log') = lines log ++ lines log' :=
  List.filterMap_append

theorem lines_eq_nil_iff : lines log = [] ↔ ∀ e ∈ log, e.line? = none :=
  List.filterMap_eq_nil_iff

/-- The lines of a log that has nothing else say what the log says. -/
theorem messages_lines (h : ∀ e ∈ log, e.line?.isSome = true) :
    (lines log).map Line.message = log.map message := by
  induction log with
  | nil => rfl
  | cons e log ih =>
    obtain ⟨he, hlog⟩ := List.forall_mem_cons.1 h
    cases e with
    | lap id step delta total message => exact congrArg (message :: ·) (ih hlog)
    | evictedCorrupt | violated | flushed | swept | healthFailed | canceled | storeFailed
    | encodingFailed | storesReachable | listening => cases he

/-- What a log says beside lines. -/
def unlined (log : List Event) : List Event := log.filter fun e => e.line?.isNone

theorem unlined_append (log log' : List Event) :
    unlined (log ++ log') = unlined log ++ unlined log' := List.filter_append ..

theorem unlined_eq_self (h : lines log = []) : unlined log = log :=
  List.filter_eq_self.2 fun e he => by rw [lines_eq_nil_iff.1 h e he]; rfl

theorem unlined_eq_nil (h : ∀ e ∈ log, e.line?.isSome = true) : unlined log = [] :=
  List.filter_eq_nil_iff.2 fun e he => by simp [Option.isSome_iff_ne_none.1 (h e he)]

end Event

/-- Whether lines about one record are numbered from `step` on and add up, the first one following
    `offset` nanoseconds after the start. -/
structure Faithful (id : String) (step offset : Nat) (log : List Line) : Prop where
  about : ∀ l ∈ log, l.id = id
  steps : log.map Line.step = List.range' step log.length
  /-- The time since the start never decreases. -/
  totals : log.Pairwise fun l l' => l.total.nanos ≤ l'.total.nanos
  /-- It is the sum of the times since the line before, up to there. -/
  sums : ∀ before l after, log = before ++ l :: after →
    l.total.nanos = offset + ((before ++ [l]).map fun l => l.delta.nanos).sum

section Faithful

variable {id : String} {step offset : Nat} {l : Line} {log : List Line}

theorem faithful_nil : Faithful id step offset [] where
  about _ h := absurd h List.not_mem_nil
  steps := rfl
  totals := .nil
  sums before l after h := absurd h.symm (by simp)

/-- No line is earlier than the first one. -/
theorem Faithful.offset_le (h : Faithful id step offset log) (hl : l ∈ log) :
    offset ≤ l.total.nanos := by
  obtain ⟨before, after, hsplit⟩ := List.append_of_mem hl
  rw [h.sums before l after hsplit]
  exact Nat.le_add_right _ _

/-- Another line goes before them if they follow where it ends. -/
theorem Faithful.cons (h : Faithful id (step + 1) (offset + l.delta.nanos) log) (hid : l.id = id)
    (hstep : l.step = step) (htotal : l.total.nanos = offset + l.delta.nanos) :
    Faithful id step offset (l :: log) where
  about := List.forall_mem_cons.2 ⟨hid, h.about⟩
  steps := by rw [List.map_cons, h.steps, hstep, List.length_cons, List.range'_succ]
  totals := List.pairwise_cons.2 ⟨fun l' hl' => htotal ▸ h.offset_le hl', h.totals⟩
  sums before l' after hsplit := by
    cases before with
    | nil =>
      cases hsplit
      simpa using htotal
    | cons b before =>
      cases hsplit
      rw [h.sums before l' after rfl, List.cons_append, List.map_cons, List.sum_cons,
        Nat.add_assoc]

end Faithful

/-! ## 2. Checkpoints -/

/-- Whether checkpoints were reached one after the other, none of them before some time. -/
def InOrder : Instant → List Lap → Prop
  | _, [] => True
  | previous, lap :: laps => previous.nanos ≤ lap.reached.nanos ∧ InOrder lap.reached laps

theorem InOrder.mono {t t' : Instant} {laps : List Lap} (h : InOrder t laps)
    (hle : t'.nanos ≤ t.nanos) : InOrder t' laps := by
  cases laps with
  | nil => trivial
  | cons lap laps => exact ⟨Nat.le_trans hle h.1, h.2⟩

/-- Whether lines give the times of checkpoints, the one before them having been reached at some
    time: of each the span since the start, and the span since the one before it. -/
inductive Clocked (started : Instant) : Instant → List Lap → List Line → Prop where
  | nil (previous : Instant) : Clocked started previous [] []
  | cons {previous : Instant} {lap : Lap} {laps : List Lap} {l : Line} {log : List Line}
      (message : l.message = lap.message) (total : l.total = lap.reached.since started)
      (delta : l.delta = lap.reached.since previous) (rest : Clocked started lap.reached laps log) :
      Clocked started previous (lap :: laps) (l :: log)

namespace Stopwatch

/-- **The lines of checkpoints that were reached one after the other are faithful.** -/
theorem faithful_eventsFrom {id : String} {started previous : Instant} {laps : List Lap}
    {step : Nat} (h : InOrder previous laps) (hle : started.nanos ≤ previous.nanos) :
    Faithful id step (previous.nanos - started.nanos)
      (Event.lines (eventsFrom id step (timesFrom started previous laps))) := by
  induction laps generalizing previous step with
  | nil => exact faithful_nil
  | cons lap laps ih =>
    obtain ⟨hlater, hrest⟩ := h
    have hsum : lap.reached.nanos - started.nanos =
        previous.nanos - started.nanos + (lap.reached.nanos - previous.nanos) := by omega
    have rest : Faithful id (step + 1) _ _ := ih hrest (Nat.le_trans hle hlater)
    rw [hsum] at rest
    exact rest.cons rfl rfl hsum

theorem faithful_events {v : Stopwatch} (h : InOrder v.started v.laps) (id : String) :
    Faithful id 0 0 (Event.lines (v.events id)) := by
  unfold events
  split
  · have lines : Faithful id 0 _ _ := faithful_eventsFrom h (Nat.le_refl _)
    rw [Nat.sub_self] at lines
    exact lines
  · exact faithful_nil

/-- **A stopwatch that is on reports the times of all its checkpoints**, each from the start and
    from the one before. -/
theorem clocked_events {v : Stopwatch} (enabled : v.enabled = true) (id : String) :
    Clocked v.started v.started v.laps (Event.lines (v.events id)) := by
  have times : ∀ (laps : List Lap) (previous : Instant) (step : Nat),
      Clocked v.started previous laps
        (Event.lines (eventsFrom id step (timesFrom v.started previous laps))) := by
    intro laps
    induction laps with
    | nil => exact fun previous _ => .nil previous
    | cons lap laps ih => exact fun previous step => .cons rfl rfl rfl (ih lap.reached (step + 1))
  rw [events, if_pos enabled]
  exact times v.laps v.started 0

/-- All that is reported of checkpoints is lines. -/
theorem line_of_mem_events {v : Stopwatch} {id : String} {e : Event} (h : e ∈ v.events id) :
    e.line?.isSome = true := by
  have times : ∀ (ts : List LapTime) (step : Nat), ∀ e ∈ eventsFrom id step ts,
      e.line?.isSome = true := by
    intro ts
    induction ts with
    | nil => exact fun _ _ h => absurd h List.not_mem_nil
    | cons t ts ih => exact fun step => List.forall_mem_cons.2 ⟨rfl, ih (step + 1)⟩
  unfold events at h
  split at h
  · exact times _ _ e h
  · exact absurd h List.not_mem_nil

end Stopwatch

end CitationFusion
