import CitationFusion.Text.Parts
import Mathlib.Data.List.DropRight

/-!
# Trimming

What is dropped from the front and from the end of a text, and what is left of it.

* `not_endsIn_dropEnd`, `dropEnd_eq_self_iff`, `dropEnd_split` : dropping from the end.
* `dropWhile_eq_self_iff`, `dropWhile_split` : dropping from the front.
* `trim_split`, `trim_padded`, `trim_eq_nil_iff` : white space around a text is what is trimmed.
-/

namespace CitationFusion

namespace Text

variable {p q : Char → Bool} {cs : List Char}

/-- Whether a text begins with a character of some kind. -/
def BeginsIn (p : Char → Bool) (cs : List Char) : Prop := ∃ c r, cs = c :: r ∧ p c = true

/-- Whether a text ends with a character of some kind. -/
def EndsIn (p : Char → Bool) (cs : List Char) : Prop := ∃ r c, cs = r ++ [c] ∧ p c = true

theorem any_head?_iff : cs.head?.any p = true ↔ BeginsIn p cs := by
  rw [Option.any_eq_true]
  constructor
  · rintro ⟨c, hhead, hc⟩
    obtain ⟨r, rfl⟩ := List.head?_eq_some_iff.1 hhead
    exact ⟨c, r, rfl, hc⟩
  · rintro ⟨c, r, rfl, hc⟩
    exact ⟨c, rfl, hc⟩

theorem any_getLast?_iff : cs.getLast?.any p = true ↔ EndsIn p cs := by
  rw [Option.any_eq_true]
  constructor
  · rintro ⟨c, hlast, hc⟩
    obtain ⟨r, rfl⟩ := List.getLast?_eq_some_iff.1 hlast
    exact ⟨r, c, rfl, hc⟩
  · rintro ⟨r, c, rfl, hc⟩
    exact ⟨c, List.getLast?_concat, hc⟩

instance : Decidable (BeginsIn p cs) := decidable_of_iff _ any_head?_iff

instance : Decidable (EndsIn p cs) := decidable_of_iff _ any_getLast?_iff

theorem dropEnd_eq (p : Char → Bool) (cs : List Char) : dropEnd p cs = cs.rdropWhile p := rfl

theorem not_endsIn_dropEnd : ¬ EndsIn p (dropEnd p cs) := by
  rintro ⟨r, c, hcs, hc⟩
  have hne : cs.rdropWhile p ≠ [] := by
    rw [← dropEnd_eq, hcs]
    simp
  have hlast := List.rdropWhile_last_not p cs hne
  simp only [← dropEnd_eq, hcs, List.getLast_append_singleton] at hlast
  exact hlast hc

theorem dropEnd_eq_self_iff : dropEnd p cs = cs ↔ ¬ EndsIn p cs := by
  constructor
  · intro h
    rw [← h]
    exact not_endsIn_dropEnd
  · intro h
    refine List.rdropWhile_eq_self_iff.2 fun hne hc => h ⟨cs.dropLast, cs.getLast hne, ?_, hc⟩
    exact (List.dropLast_append_getLast hne).symm

theorem dropWhile_eq_self_iff : cs.dropWhile p = cs ↔ ¬ BeginsIn p cs := by
  cases cs with
  | nil => exact iff_of_true rfl fun ⟨_, _, h, _⟩ => List.cons_ne_nil _ _ h.symm
  | cons c r =>
    have begins : BeginsIn p (c :: r) ↔ p c = true :=
      ⟨fun ⟨_, _, h, hc⟩ => by cases h; exact hc, fun hc => ⟨c, r, rfl, hc⟩⟩
    rw [begins, List.dropWhile_cons]
    split
    · rename_i hc
      refine ⟨fun h => ?_, fun h => absurd hc h⟩
      have hshort := (List.dropWhile_suffix p (l := r)).length_le
      rw [h, List.length_cons] at hshort
      exact absurd hshort (Nat.not_succ_le_self _)
    · rename_i hc
      exact ⟨fun _ => hc, fun _ => rfl⟩

/-- What stands at the front of a text is there if it is dropped from the text. -/
theorem dropWhile_split (p : Char → Bool) (cs : List Char) :
    ∃ before, cs = before ++ cs.dropWhile p ∧ (∀ c ∈ before, p c = true) ∧
      ¬ BeginsIn p (cs.dropWhile p) := by
  refine ⟨cs.takeWhile p, List.takeWhile_append_dropWhile.symm,
    fun c hc => List.mem_takeWhile_imp hc, ?_⟩
  rw [← dropWhile_eq_self_iff]
  exact List.dropWhile_idempotent p cs

theorem dropEnd_split (p : Char → Bool) (cs : List Char) :
    ∃ behind, cs = dropEnd p cs ++ behind ∧ ∀ c ∈ behind, p c = true :=
  ⟨cs.rtakeWhile p, List.rdropWhile_append_rtakeWhile.symm,
    fun _ hc => List.mem_rtakeWhile_imp hc⟩

theorem dropEnd_append {behind : List Char} (h : ∀ c ∈ behind, p c = true) (cs : List Char) :
    dropEnd p (cs ++ behind) = dropEnd p cs := by
  rw [dropEnd, List.reverse_append, List.dropWhile_append_of_pos]
  · rfl
  · simpa using h

/-- Where the front of a text begins, the text does. -/
theorem BeginsIn.append (h : BeginsIn p cs) (t : List Char) : BeginsIn p (cs ++ t) := by
  obtain ⟨c, r, rfl, hc⟩ := h
  exact ⟨c, r ++ t, rfl, hc⟩

/-- **Trimming a text takes the white space at both ends**, and leaves none there. -/
theorem trim_split (cs : List Char) :
    ∃ before behind, cs = before ++ (trim cs ++ behind) ∧ (∀ c ∈ before, isBlank c = true) ∧
      (∀ c ∈ behind, isBlank c = true) ∧ ¬ BeginsIn isBlank (trim cs) ∧
      ¬ EndsIn isBlank (trim cs) := by
  obtain ⟨before, hcs, hbefore, hbegins⟩ := dropWhile_split isBlank cs
  obtain ⟨behind, hbare, hbehind⟩ := dropEnd_split isBlank (cs.dropWhile isBlank)
  refine ⟨before, behind, ?_, hbefore, hbehind, fun h => hbegins ?_, not_endsIn_dropEnd⟩
  · rw [trim, ← hbare]
    exact hcs
  · rw [hbare]
    exact h.append _

/-- **A text without white space at its ends is what is left of it with white space around it.** -/
theorem trim_padded {before behind : List Char} (hbefore : ∀ c ∈ before, isBlank c = true)
    (hbehind : ∀ c ∈ behind, isBlank c = true) (hbegins : ¬ BeginsIn isBlank cs)
    (hends : ¬ EndsIn isBlank cs) : trim (before ++ (cs ++ behind)) = cs := by
  rw [trim, List.dropWhile_append_of_pos hbefore]
  cases cs with
  | nil =>
    rw [List.nil_append, List.dropWhile_eq_nil_iff.2 hbehind]
    rfl
  | cons c r =>
    have hfront : ¬ BeginsIn isBlank (c :: r ++ behind) := by
      rintro ⟨d, t, hd, hblank⟩
      exact hbegins ⟨c, r, rfl, (List.cons.inj hd).1 ▸ hblank⟩
    rw [dropWhile_eq_self_iff.2 hfront, dropEnd_append hbehind, dropEnd_eq_self_iff.2 hends]

theorem not_beginsIn_nil : ¬ BeginsIn p [] := fun ⟨_, _, h, _⟩ => nomatch h

theorem not_endsIn_nil : ¬ EndsIn p [] := fun ⟨r, _, h, _⟩ => by cases r <;> cases h

/-- Nothing is left exactly of white space. -/
theorem trim_eq_nil_iff : trim cs = [] ↔ ∀ c ∈ cs, isBlank c = true := by
  constructor
  · intro h
    obtain ⟨before, behind, hcs, hbefore, hbehind, -, -⟩ := trim_split cs
    rw [h, List.nil_append] at hcs
    rw [hcs]
    exact fun c hc => (List.mem_append.1 hc).elim (hbefore c) (hbehind c)
  · intro h
    have hpadded : trim (cs ++ ([] ++ [])) = [] :=
      trim_padded h nofun not_beginsIn_nil not_endsIn_nil
    rwa [List.append_nil, List.append_nil] at hpadded

end Text

end CitationFusion
