import CitationFusion.Clock
import Mathlib.Tactic.ByContra

/-!
# Readings of the clock

* `Valid` : what the clock can read.
* `Valid.secs_since` : the seconds between two readings fit a word.
* `add?_eq_none` : when a span cannot be added to a reading.
-/

namespace CitationFusion.Instant

/-- Whether this is a reading of the clock. -/
def Valid (t : Instant) : Prop := t.nanos / nanosPerSecond < limitSecs

instance (t : Instant) : Decidable t.Valid :=
  inferInstanceAs (Decidable (t.nanos / nanosPerSecond < limitSecs))

variable {t t' : Instant} {d : Duration}

theorem Valid.mono (h : t'.Valid) (hle : t.nanos ≤ t'.nanos) : t.Valid :=
  Nat.lt_of_le_of_lt (Nat.div_le_div_right hle) h

/-- A span between readings of the clock has seconds of 64 bits. -/
theorem Valid.secs_since (h : t.Valid) (earlier : Instant) :
    (t.since earlier).secs < word64 := by
  have hle : (t.nanos - earlier.nanos) / nanosPerSecond ≤ t.nanos / nanosPerSecond :=
    Nat.div_le_div_right (Nat.sub_le _ _)
  exact Nat.lt_of_le_of_lt hle (Nat.lt_trans h (by decide))

/-- A span between two equal readings is nothing. -/
theorem secs_since_self (t : Instant) : (t.since t).secs < word64 := by
  simp only [Instant.since, Duration.secs, Nat.sub_self]
  decide

theorem valid_of_add? (h : t.add? d = some t') : t'.Valid := by
  unfold add? at h
  simp only at h
  split at h
  · rename_i hlt
    cases h
    exact hlt
  · cases h

theorem eq_advance_of_add? (h : t.add? d = some t') : t' = t.advance d := by
  unfold add? at h
  simp only at h
  split at h
  · cases h
    rfl
  · cases h

theorem add?_eq_none : t.add? d = none ↔ ¬ (t.advance d).Valid := by
  unfold add?
  simp only
  split
  · rename_i hlt
    exact ⟨nofun, fun h => absurd hlt h⟩
  · rename_i hge
    exact ⟨fun _ => hge, fun _ => rfl⟩

/-- A span that can be added to a reading can be added to every earlier one. -/
theorem add?_ne_none_mono (h : t'.add? d ≠ none) (hle : t.nanos ≤ t'.nanos) :
    t.add? d ≠ none := by
  intro hnone
  refine h (add?_eq_none.2 fun hvalid => add?_eq_none.1 hnone ?_)
  exact hvalid.mono (Nat.add_le_add_right hle _)

theorem valid_of_add?_ne_none (h : t.add? d ≠ none) : t.Valid := by
  by_contra hno
  exact h (add?_eq_none.2 fun hvalid => hno (hvalid.mono (Nat.le_add_right _ _)))

end CitationFusion.Instant
