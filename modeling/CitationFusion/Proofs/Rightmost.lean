import CitationFusion.Proofs.Patching

/-!
# The number that is replaced

Of all places of a text that look like the time, the rightmost one counts, and of what stands there
the longest text that looks like a number. That the search passes from the front makes no
difference, since places do not overlap.

* `Place`, `place_iff` : where a text looks like the time.
* `quiet_iff`, `Place.le_length` : where it does so last.
* `patch?_rightmost` : what is replaced.
-/

namespace CitationFusion.Took

open Ascii Json

/-! ## 1. Places -/

/-- Whether a text looks like the time behind its first `i` octets: the marker stands there, then
    perhaps a minus, and a digit. -/
def Place (body : Bytes) (i : Nat) : Prop :=
  ∃ sign d rest, body.drop i = marker ++ (sign ++ d :: rest) ∧ IsMinus sign ∧ isDigit d = true

example : marker = Utf8.ofString "\"extra\":\x7b\"took\":" := by decide

variable {body : Bytes} {i : Nat}

/-- **Something is found in exactly these places.** -/
theorem place_iff : Place body i ↔ matchLength? (body.drop i) ≠ none := by
  constructor
  · rintro ⟨sign, d, rest, hdrop, hsign, hd⟩ hnone
    have hall : AllDigits [d] := .cons hd nofun
    have hk := numberLength?_append hsign (List.cons_ne_nil d []) hall rest
    rw [hdrop, matchLength?_eq_some.2 ⟨sign ++ d :: rest, _, rfl, hk, rfl⟩] at hnone
    cases hnone
  · intro hsome
    obtain ⟨k, hk⟩ := Option.ne_none_iff_exists'.1 hsome
    obtain ⟨u, n, hdrop, hn, -⟩ := matchLength?_eq_some.1 hk
    obtain ⟨sign, d, rest, rfl, hsign, hd⟩ := numberLength?_begins hn
    exact ⟨sign, d, rest, hdrop, hsign, hd⟩

/-- **Nothing looks like the time exactly where nothing is found.** -/
theorem quiet_iff : Quiet body ↔ ∀ i, ¬ Place body i := by
  constructor
  · intro h i hplace
    exact place_iff.1 hplace (h (body.take i) _ (List.take_append_drop i body).symm)
  · rintro h x y rfl
    by_contra hsome
    refine h x.length (place_iff.2 ?_)
    rwa [List.drop_left]

variable {p u : Bytes} {n : Nat}

theorem place_append (hn : numberLength? u = some n) : Place (p ++ (marker ++ u)) p.length := by
  rw [place_iff, List.drop_left, matchLength?_eq_some.2 ⟨u, n, rfl, hn, rfl⟩]
  exact Option.some_ne_none _

/-- **Behind the last place there is no other.** -/
theorem Place.le_length (h : Place (p ++ (marker ++ u)) i) (hn : numberLength? u = some n)
    (hu : Quiet (u.drop n)) : i ≤ p.length := by
  by_contra hgt
  obtain ⟨j, rfl⟩ := Nat.exists_eq_add_of_lt (Nat.lt_of_not_le hgt)
  have hbody : p ++ (marker ++ u) = (p ++ [quote]) ++ (marker.drop 1 ++ u) := by
    rw [List.append_assoc]
    rfl
  have hdrop : (p ++ (marker ++ u)).drop (p.length + j + 1) = (marker.drop 1 ++ u).drop j := by
    rw [hbody, show p.length + j + 1 = (p ++ [quote]).length + j by simp; omega,
      List.drop_length_add_append]
  refine place_iff.1 h ?_
  rw [hdrop]
  exact quiet_behind hn hu _ _ (List.take_append_drop j _).symm

/-- The time is printed as digits, perhaps with a point and digits behind them. -/
theorem print_form {d : Duration} (hd : d.secs < word64) :
    ∃ whole fraction, print d = whole ++ fraction ∧ whole ≠ [] ∧ AllDigits whole ∧
      IsFraction fraction := by
  obtain ⟨m, -, hnegative, hpower, hprint⟩ := Response.print_numeral hd
  refine ⟨m.whole, m.fractionText, ?_, m.whole_ne_nil, m.whole_digits, m.isFraction⟩
  have hpowerText : m.powerText = [] := by rw [Numeral.powerText, hpower]
  rw [hprint, Numeral.text, hnegative, Numeral.magnitude, hpowerText, List.append_nil]
  rfl

/-- **The rightmost place is the one that counts, and the longest number there.** Nothing is
    replaced exactly if a text looks like the time nowhere. Else it does so last behind some octets,
    and of what follows the marker there the longest text that looks like a number is replaced by
    the seconds, which are printed as digits, perhaps with a point and digits behind them; all
    octets before and behind it stay. -/
theorem patch?_rightmost (body : Bytes) {d : Duration} (hd : d.secs < word64) :
    (patch? body d = none ↔ ∀ i, ¬ Place body i) ∧
    ((∃ i, Place body i) → ∃ p n s, body = p ++ (marker ++ (n ++ s)) ∧
      Place body p.length ∧ (∀ i, Place body i → i ≤ p.length) ∧ Longest n (n ++ s) ∧
      patch? body d = some (p ++ (marker ++ (print d ++ s)))) ∧
    ∃ whole fraction, print d = whole ++ fraction ∧ whole ≠ [] ∧ AllDigits whole ∧
      IsFraction fraction := by
  rcases quiet_or_last body with hquiet | ⟨p, u, n, rfl, hn, hu⟩
  · have hnowhere := quiet_iff.1 hquiet
    refine ⟨⟨fun _ => hnowhere, fun _ => ?_⟩, fun ⟨i, hi⟩ => absurd hi (hnowhere i), print_form hd⟩
    rw [patch?, lastMatch_of_quiet hquiet]
    rfl
  · have hplace : Place (p ++ (marker ++ u)) p.length := place_append hn
    have hlast := patch?_last hn hu p d
    refine ⟨⟨fun hnone => ?_, fun h => absurd hplace (h _)⟩, fun _ => ?_, print_form hd⟩
    · rw [hlast] at hnone
      cases hnone
    · refine ⟨p, u.take n, u.drop n, ?_, hplace, fun i hi => hi.le_length hn hu, ?_, hlast⟩
      · rw [List.take_append_drop]
      · rw [List.take_append_drop]
        exact longest_take hn

/-- A text in which the marker stands twice, first without a number; the number behind the second
    one begins with a needless zero and looks as if it went on with a power of ten. -/
def nearMisses : Bytes :=
  Utf8.ofString "\"extra\":\x7b\"took\":-\"extra\":\x7b\"took\":-01.5e+,"

/-- That number ends before the letter of the power. -/
theorem patch?_rightmost_nearMisses :
    patch? nearMisses (.ofMillis 7250) =
      some (Utf8.ofString "\"extra\":\x7b\"took\":-\"extra\":\x7b\"took\":7.25e+,") ∧
    ∃ p n s, nearMisses = p ++ (marker ++ (n ++ s)) ∧ (∀ i, Place nearMisses i → i ≤ p.length) ∧
      Longest n (n ++ s) ∧
      patch? nearMisses (.ofMillis 7250) =
        some (p ++ (marker ++ (print (.ofMillis 7250) ++ s))) := by
  have hplace : Place nearMisses 17 :=
    ⟨[minus], zero, Utf8.ofString "1.5e+,", by decide, .minus, by decide⟩
  obtain ⟨-, hpatch, -⟩ := patch?_rightmost nearMisses (d := .ofMillis 7250) (by decide)
  obtain ⟨p, n, s, hsplit, -, hlast, hlongest, hsome⟩ := hpatch ⟨17, hplace⟩
  exact ⟨by decide +kernel, p, n, s, hsplit, hlast, hlongest, hsome⟩

end CitationFusion.Took
