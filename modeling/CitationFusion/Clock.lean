import CitationFusion.Decimal.Binary64
import CitationFusion.Words

/-!
# Spans of time and readings of the clock

Both are counted in whole nanoseconds. A reading of the clock whose seconds do not fit a signed
word of 64 bits does not exist, so moving a reading by a span may fail (`Instant.add?`).
-/

namespace CitationFusion

/-- A span of time. -/
structure Duration where
  nanos : Nat
  deriving DecidableEq, Repr, Inhabited

/-- A reading of the monotonic clock. -/
structure Instant where
  nanos : Nat
  deriving DecidableEq, Repr, Inhabited

/-- The nanoseconds in a second. -/
def nanosPerSecond : Nat := 1000000000

namespace Duration

/-- No time at all. -/
def zero : Duration := ⟨0⟩

/-- A number of seconds. -/
def ofSecs (n : Nat) : Duration := ⟨n * nanosPerSecond⟩

/-- A number of milliseconds. -/
def ofMillis (n : Nat) : Duration := ⟨n * 1000000⟩

/-- A number of nanoseconds. -/
def ofNanos (n : Nat) : Duration := ⟨n⟩

/-- Two spans one after the other. -/
def add (a b : Duration) : Duration := ⟨a.nanos + b.nanos⟩

/-- The whole seconds of a span. -/
def secs (d : Duration) : Nat := d.nanos / nanosPerSecond

/-- The nanoseconds of a span past its whole seconds. -/
def subsecNanos (d : Duration) : Nat := d.nanos % nanosPerSecond

/-- A span in seconds as a double: the whole seconds and the rest are rounded each, and so is
    their sum. Spans in use are far below the largest double. -/
def seconds (d : Duration) : Binary64 :=
  let whole := (Binary64.ofNat d.secs).getD .zero
  let part := (Binary64.round false d.subsecNanos nanosPerSecond).getD .zero
  (whole.addMagnitudes part).getD .zero

/-- A span in milliseconds as a double: a thousand times its seconds. -/
def millis (d : Duration) : Binary64 :=
  (d.seconds.mul ((Binary64.ofNat 1000).getD .zero)).getD .zero

end Duration

namespace Instant

/-- The seconds that no reading of the clock reaches. -/
def limitSecs : Nat := word63

/-- The reading a span later, unless there is none. -/
def add? (t : Instant) (d : Duration) : Option Instant :=
  let n := t.nanos + d.nanos
  if n / nanosPerSecond < limitSecs then some ⟨n⟩ else none

/-- A reading moved by a span that the caller knows to fit. -/
def advance (t : Instant) (d : Duration) : Instant := ⟨t.nanos + d.nanos⟩

/-- The span from `earlier` to `t`, or nothing when the clock went back. -/
def since (t earlier : Instant) : Duration := ⟨t.nanos - earlier.nanos⟩

end Instant

end CitationFusion
