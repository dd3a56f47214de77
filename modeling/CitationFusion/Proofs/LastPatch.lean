import CitationFusion.Proofs.Patching

/-!
# Documents that are patched again

The number that is replaced in a document stands by itself, outside of all strings, even where the
first quote before it is escaped within a key. So does the number that replaces it; and since no
place that looks like the time begins in a number, or between it and the end of the document, its
place is again the last one.

* `numberAt_marker` : any number stands by itself in the place of the one behind the marker.
* `patch?_patched` : the last patch wins.
* `patch?_intact` : a document that is patched stays one, in which one number was replaced.
-/

namespace CitationFusion.Took

open Ascii Json

variable {p u : Bytes} {n : Nat}

/-- A number ends where something else of a document begins. -/
theorem ends_of_behind {stack : List Frame} {bs rest : Bytes}
    (h : skimFrom .behind stack bs = .ok rest) (hrest : skipSpace rest = []) :
    ∀ b ∈ bs.head?, inNumber b = false := by
  intro b hb
  obtain ⟨r, rfl⟩ := List.head?_eq_some_iff.1 hb
  rcases behind_head h hrest with hspace | rfl | rfl | rfl
  · simp only [isSpace, Bool.or_eq_true, beq_iff_eq] at hspace
    rcases hspace with ((rfl | rfl) | rfl) | rfl <;> decide
  · decide
  · decide
  · decide

/-- **What is taken for a number behind the marker of a document stands by itself there**, and any
    other number would. -/
theorem numberAt_marker (h : isDocument (p ++ (marker ++ u)) = true)
    (hn : numberLength? u = some n) :
    NumberAt (p ++ marker) (u.take n) (u.drop n) ∧
      ∀ v, IsNumber v → NumberAt (p ++ marker) v (u.drop n) := by
  obtain ⟨stack, rest, hext, hnumber, hbehind, hrest⟩ := number_at_marker h hn
  have hvalue : ∀ t, skimFrom .value [] (p ++ marker ++ t) =
      skimFrom .value (.object :: stack) t := by
    intro t
    rw [List.append_assoc, hext]
  have any : ∀ v, IsNumber v → NumberAt (p ++ marker) v (u.drop n) := by
    intro v hv
    refine ⟨hv, outside_of_skim hvalue, ?_, ends_of_behind hbehind hrest⟩
    -- the marker ends with a colon
    rw [List.getLast?_append_of_ne_nil p (by decide)]
    intro b hb
    obtain rfl : colon = b := Option.some.inj hb
    decide
  exact ⟨any _ hnumber, any⟩

/-- **The last patch wins**: the number that was put in is the next one to be replaced. -/
theorem patch?_patched {d d' : Duration} (hd : d.secs < word64)
    (h : isDocument (p ++ (marker ++ u)) = true) (hn : numberLength? u = some n)
    (hu : Quiet (u.drop n)) :
    patch? (p ++ (marker ++ (print d ++ u.drop n))) d' = patch? (p ++ (marker ++ u)) d' := by
  obtain ⟨stack, rest, -, -, hbehind, hrest⟩ := number_at_marker h hn
  obtain ⟨m, -, -, -, hprint⟩ := Response.print_numeral hd
  have hlength := numberLength?_text m (closed_of_behind hbehind hrest)
  have hdrop : (m.text ++ u.drop n).drop m.text.length = u.drop n := List.drop_left
  rw [hprint, patch?_last hlength (hdrop.symm ▸ hu), hdrop, patch?_last hn hu]

/-- **A document that is patched stays one, and the last patch wins.** Of the document, exactly one
    number is replaced by another, and both stand by themselves, outside of all strings; and
    patching once more gives what patching the document would have given. -/
theorem patch?_intact {body patched : Bytes} {d : Duration} (h : isDocument body = true)
    (hd : d.secs < word64) (hp : patch? body d = some patched) :
    isDocument patched = true ∧
    (∃ before number behind, body = before ++ (number ++ behind) ∧
      patched = before ++ (print d ++ behind) ∧
      NumberAt before number behind ∧ NumberAt before (print d) behind) ∧
    ∀ d', patch? patched d' = patch? body d' := by
  have hdocument := isDocument_patch h hd
  rw [patch, hp, Option.getD_some] at hdocument
  obtain ⟨p, u, n, rfl, hn, hu, rfl⟩ := patch?_split hp
  obtain ⟨m, -, -, -, hprint⟩ := Response.print_numeral hd
  obtain ⟨hold, hnew⟩ := numberAt_marker h hn
  refine ⟨hdocument, ⟨p ++ marker, u.take n, u.drop n, ?_, ?_, hold, ?_⟩, fun d' => ?_⟩
  · rw [List.append_assoc, List.take_append_drop]
  · rw [List.append_assoc]
  · rw [hprint]
    exact hnew _ m.isNumber
  · exact patch?_patched hd h hn hu

/-- A document whose key ends with an escaped quote and the word of the marker. -/
def escapedKey : Bytes := Utf8.ofString "\x7b\"ä\\\"extra\":\x7b\"took\":12\x7d\x7d"

theorem isDocument_escapedKey : isDocument escapedKey = true := by
  have e : escapedKey =
      writeObject [writeMember "ä\"extra" (writeObject [writeMember "took" (writeNat 12)])] := by
    decide
  have htook : IsValue (writeNat 12) := (written_nat (by decide) "usize").one
  rw [e]
  refine IsValue.isDocument (.object fun m hm => ⟨_, _, List.mem_singleton.1 hm, ?_⟩)
  exact .object fun m hm => ⟨_, _, List.mem_singleton.1 hm, htook⟩

theorem patch?_intact_escapedKey :
    ∃ patched, patch? escapedKey (.ofMillis 1500) = some patched ∧ isDocument patched = true ∧
      patch? patched (.ofSecs 7) =
        some (Utf8.ofString "\x7b\"ä\\\"extra\":\x7b\"took\":7\x7d\x7d") := by
  have hp : patch? escapedKey (.ofMillis 1500) =
      some (Utf8.ofString "\x7b\"ä\\\"extra\":\x7b\"took\":1.5\x7d\x7d") := by decide +kernel
  have hseven : patch? escapedKey (.ofSecs 7) =
      some (Utf8.ofString "\x7b\"ä\\\"extra\":\x7b\"took\":7\x7d\x7d") := by decide +kernel
  obtain ⟨hdocument, -, hlast⟩ := patch?_intact isDocument_escapedKey (by decide) hp
  exact ⟨_, hp, hdocument, (hlast _).trans hseven⟩

end CitationFusion.Took
