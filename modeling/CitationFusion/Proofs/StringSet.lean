import CitationFusion.Direction
import CitationFusion.Proofs.Utf8
import CitationFusion.StringSet.Script
import Mathlib.Data.Finset.Card
import Mathlib.Data.Finset.Lattice.Basic
import Mathlib.Data.Finset.SDiff
import Mathlib.Data.List.Sort

/-!
# Sets of strings are finite sets

A set of strings has nothing but its members: it is their finite set, however it was built.

* `ext`, `toFinset_inj` : sets with the same members are the same.
* `toFinset_insert`, `toFinset_union`, `toFinset_difference` : what the operations do to the finite
  set.
* `Enumerates` : a list of the members, each once, in whatever order.
* `Lists`, `lists_toList`, `Lists.unique` : the one list of the members in the strict order of their
  octets.
* `Step.denote`, `Step.Observes`, `Follows` : scripts as scripts over finite sets by name.
* `observes_run`, `denote_run` : a step does and observes what it says of the finite sets.
* `runScript_refines` : so does a script, from wherever it starts.
-/

namespace CitationFusion.StringSet

variable {s t : StringSet} {x : String} {l m : List String}

/-! ## 1. The finite set of the members -/

theorem toList_inj : s.toList = t.toList ↔ s = t := by
  obtain ⟨l, hl⟩ := s
  obtain ⟨m, hm⟩ := t
  simp only [toList, mk.injEq]

/-- **Sets with the same members are the same.** -/
theorem ext (h : ∀ x, x ∈ s ↔ x ∈ t) : s = t :=
  toList_inj.1 (s.ascending.eq_of_mem_iff t.ascending h)

/-- The finite set of the members. -/
def toFinset (s : StringSet) : Finset String := s.values.toFinset

theorem mem_toFinset : x ∈ s.toFinset ↔ x ∈ s := List.mem_toFinset

theorem toFinset_inj : s.toFinset = t.toFinset ↔ s = t := by
  refine ⟨fun h => ext fun x => ?_, fun h => h ▸ rfl⟩
  rw [← mem_toFinset, h, mem_toFinset]

theorem toFinset_empty : empty.toFinset = ∅ := rfl

theorem toFinset_insert : (s.insert x).toFinset = {x} ∪ s.toFinset := by
  ext z
  rw [Finset.mem_union, Finset.mem_singleton, mem_toFinset, mem_toFinset, mem_insert]

theorem toFinset_insertMany {xs : List String} :
    (s.insertMany xs).toFinset = s.toFinset ∪ xs.toFinset := by
  ext z
  rw [Finset.mem_union, mem_toFinset, mem_toFinset, mem_insertMany, List.mem_toFinset]

theorem toFinset_ofList {xs : List String} : (ofList xs).toFinset = xs.toFinset := by
  rw [ofList, toFinset_insertMany, toFinset_empty, Finset.empty_union]

theorem toFinset_union : (s.union t).toFinset = s.toFinset ∪ t.toFinset := toFinset_insertMany

theorem toFinset_difference : (s.difference t).toFinset = s.toFinset \ t.toFinset := by
  ext z
  rw [Finset.mem_sdiff, mem_toFinset, mem_toFinset, mem_toFinset, mem_difference]

/-! ## 2. What can be seen of a set -/

/-- Whether a list has exactly the items of a finite set, each once; their order is left open. -/
structure Enumerates (l : List String) (S : Finset String) : Prop where
  nodup : l.Nodup
  mem_iff : ∀ x, x ∈ l ↔ x ∈ S

/-- Whether a list has exactly the items of a finite set, in the strict order of their octets. -/
structure Lists (l : List String) (S : Finset String) : Prop where
  ascending : l.Pairwise fun x y => Utf8.ofString x < Utf8.ofString y
  mem_iff : ∀ x, x ∈ l ↔ x ∈ S

variable {S T : Finset String}

/-- **There is at most one such list.** -/
theorem Lists.unique (hl : Lists l S) (hm : Lists m S) : l = m := by
  have hl' : l.Pairwise (· < ·) := hl.ascending.imp Utf8.ofString_lt_iff.1
  have hm' : m.Pairwise (· < ·) := hm.ascending.imp Utf8.ofString_lt_iff.1
  exact hl'.eq_of_mem_iff hm' fun x => (hl.mem_iff x).trans (hm.mem_iff x).symm

/-- **The sorted view of a set is that list.** -/
theorem lists_toList (s : StringSet) : Lists s.toList s.toFinset where
  ascending := s.ascending.imp Utf8.ofString_lt_iff.2
  mem_iff _ := mem_toFinset.symm

theorem nodup_values (s : StringSet) : s.values.Nodup := by
  rw [List.nodup_iff_pairwise_ne]
  refine s.ascending.imp fun {x y} hlt heq => ?_
  exact String.lt_irrefl _ (heq ▸ hlt)

theorem enumerates_toList (s : StringSet) : Enumerates s.toList s.toFinset where
  nodup := s.nodup_values
  mem_iff _ := mem_toFinset.symm

/-- Whether all that can be seen of a set is what a finite set has. -/
structure Shows (s : StringSet) (S : Finset String) : Prop where
  size : s.size = S.card
  isEmpty : s.isEmpty = true ↔ S = ∅
  contains : ∀ x, s.contains x = true ↔ x ∈ S
  sorted : ∀ l, Lists l S ↔ l = s.toList

/-- **A set shows the finite set of its members.** -/
theorem shows_toFinset (s : StringSet) : Shows s s.toFinset where
  size := (List.toFinset_card_of_nodup s.nodup_values).symm
  isEmpty := by rw [toFinset, List.toFinset_eq_empty_iff, isEmpty, List.isEmpty_iff]
  contains x := by rw [contains_iff, mem_toFinset]
  sorted l := ⟨fun h => h.unique s.lists_toList, fun h => h ▸ s.lists_toList⟩

/-! ## 3. Scripts over finite sets -/

/-- Finite sets by name. -/
abbrev Family := String → Finset String

/-- The finite sets of named sets. -/
def Names.toFinsets (names : Names) : Family := fun n => (names n).toFinset

/-- What a step on `target` makes of finite sets by name. -/
def Step.denote (target : String) (sets : Family) : Step → Family
  | .clear | .drain => Function.update sets target ∅
  | .assign values => Function.update sets target values.toFinset
  | .extend values => Function.update sets target (sets target ∪ values.toFinset)
  | .add value => Function.update sets target ({value} ∪ sets target)
  | .union left right => Function.update sets target (sets left ∪ sets right)
  | .difference left right => Function.update sets target (sets left \ sets right)
  | .contains _ | .equals _ | .members | .lengths => sets

/-- What a step on `target` observes of finite sets by name. Members come in no order that could be
    relied on; only the sorted view of a set has one (`Shows.sorted`). -/
inductive Step.Observes (target : String) (sets : Family) : Step → Observation → Prop where
  | clear : Observes target sets .clear .nothing
  | assign (values : List String) : Observes target sets (.assign values) .nothing
  | extend (values : List String) : Observes target sets (.extend values) .nothing
  | add {value : String} {new : Bool} (h : new = true ↔ value ∉ sets target) :
      Observes target sets (.add value) (.flag new)
  | contains {value : String} {found : Bool} (h : found = true ↔ value ∈ sets target) :
      Observes target sets (.contains value) (.flag found)
  | union (left right : String) : Observes target sets (.union left right) .nothing
  | difference (left right : String) : Observes target sets (.difference left right) .nothing
  | equals {right : String} {same : Bool} (h : same = true ↔ sets target = sets right) :
      Observes target sets (.equals right) (.flag same)
  | members {l : List String} (h : Enumerates l (sets target)) :
      Observes target sets .members (.texts l)
  | lengths {l : List String} {ns : List Nat} (h : Enumerates l (sets target))
      (perm : ns.Perm (l.map String.utf8ByteSize)) (order : ns.Pairwise (· ≤ ·)) :
      Observes target sets .lengths (.numbers ns)
  | drain {l : List String} (h : Enumerates l (sets target)) :
      Observes target sets .drain (.texts l)

/-- Whether the answers to a script are those of finite sets by name: each step observes what it
    would of these, and the set that it names shows what it makes of its finite set. -/
inductive Follows : Family → List (String × Step) → List (Observation × StringSet) → Prop where
  | nil (sets : Family) : Follows sets [] []
  | cons {sets : Family} {target : String} {step : Step} {rest : List (String × Step)}
      {seen : Observation} {s : StringSet} {answers : List (Observation × StringSet)}
      (observes : step.Observes target sets seen) (shows : Shows s (step.denote target sets target))
      (follows : Follows (step.denote target sets) rest answers) :
      Follows sets ((target, step) :: rest) ((seen, s) :: answers)

theorem Names.toFinsets_put (names : Names) (target : String) (s : StringSet) :
    (names.put target s).toFinsets = Function.update names.toFinsets target s.toFinset := by
  funext n
  unfold toFinsets put Function.update
  split
  · rename_i h
    subst h
    rfl
  · rfl

/-- A step changes no set but the one that it names. -/
theorem Step.run_of_ne {target name : String} (h : name ≠ target) (names : Names) (step : Step) :
    (step.run target names).1 name = names name := by
  cases step <;> first | rfl | exact if_neg h

/-- **A step makes of named sets what it makes of their finite sets.** -/
theorem Step.denote_run (target : String) (names : Names) (step : Step) :
    (step.run target names).1.toFinsets = step.denote target names.toFinsets := by
  cases step with
  | clear => exact names.toFinsets_put target empty
  | assign values => rw [run, names.toFinsets_put, toFinset_ofList, denote]
  | extend values => rw [run, names.toFinsets_put, toFinset_insertMany, denote, Names.toFinsets]
  | add value => rw [run, names.toFinsets_put, toFinset_insert, denote, Names.toFinsets]
  | contains value => rfl
  | union left right =>
    rw [run, names.toFinsets_put, toFinset_union, denote, Names.toFinsets, Names.toFinsets]
  | difference left right =>
    rw [run, names.toFinsets_put, toFinset_difference, denote, Names.toFinsets, Names.toFinsets]
  | equals right => rfl
  | members => rfl
  | lengths => rfl
  | drain => exact names.toFinsets_put target empty

/-- **A step observes of named sets what it observes of their finite sets.** -/
theorem Step.observes_run (target : String) (names : Names) (step : Step) :
    step.Observes target names.toFinsets (step.run target names).2 := by
  cases step with
  | clear => exact .clear
  | assign values => exact .assign values
  | extend values => exact .extend values
  | add value =>
    refine .add ?_
    rw [Bool.not_eq_true', ← Bool.not_eq_true, contains_iff, Names.toFinsets, mem_toFinset]
  | contains value =>
    refine .contains ?_
    rw [contains_iff, Names.toFinsets, mem_toFinset]
  | union left right => exact .union left right
  | difference left right => exact .difference left right
  | equals right =>
    refine .equals ?_
    rw [beq_iff_eq, Names.toFinsets, Names.toFinsets, toFinset_inj]
  | members => exact .members (enumerates_toList _)
  | lengths =>
    refine .lengths (enumerates_toList _) (List.mergeSort_perm _ _) ?_
    have trans : ∀ a b c : Nat, decide (a ≤ b) = true → decide (b ≤ c) = true →
        decide (a ≤ c) = true := by
      intro a b c hab hbc
      exact decide_eq_true (Nat.le_trans (of_decide_eq_true hab) (of_decide_eq_true hbc))
    have total : ∀ a b : Nat, (decide (a ≤ b) || decide (b ≤ a)) = true := by
      intro a b
      simpa using Nat.le_total a b
    exact (List.pairwise_mergeSort trans total _).imp of_decide_eq_true
  | drain => exact .drain (enumerates_toList _)

/-- **The answers to a script are those of finite sets.** -/
theorem follows_runScript (names : Names) (script : List (String × Step)) :
    Follows names.toFinsets script (runScript names script) := by
  induction script generalizing names with
  | nil => exact .nil _
  | cons entry rest ih =>
    obtain ⟨target, step⟩ := entry
    have hdenote := step.denote_run target names
    refine .cons (step.observes_run target names) ?_ ?_
    · rw [← hdenote]
      exact shows_toFinset _
    · rw [← hdenote]
      exact ih _

/-! ## 4. Sets around a document -/

/-- **What is left of a set without some of its members, and these, are all of it.** -/
theorem union_difference (h : ∀ x ∈ t, x ∈ s) : (s.difference t).union t = s := by
  refine ext fun x => ?_
  rw [mem_union, mem_difference]
  constructor
  · rintro (⟨hs, -⟩ | ht)
    · exact hs
    · exact h x ht
  · intro hs
    by_cases ht : x ∈ t
    · exact .inr ht
    · exact .inl ⟨hs, ht⟩

theorem ofList_eq_iff {xs ys : List String} : ofList xs = ofList ys ↔ ∀ x, x ∈ xs ↔ x ∈ ys := by
  refine ⟨fun h x => ?_, fun h => ext fun x => ?_⟩
  · rw [← mem_ofList, h, mem_ofList]
  · rw [mem_ofList, mem_ofList, h]

/-- **Named sets of strings are named finite sets**, whatever is done to them in whatever order:
    every step observes what it would of finite sets, changes no set but the one that it names, and
    leaves that as its finite set, whose sorted view is in the order of octets. Two sets are equal
    exactly if their sorted views are, and exactly if they were built of the same strings, in any
    order and any number of times. A set of documents that are related is what is left of it without
    those that are matched, and these; what is left has none of these, and exactly the related
    documents have a side. -/
theorem runScript_refines :
    (∀ script, Follows (fun _ => ∅) script (runScript (fun _ => empty) script)) ∧
    (∀ target name names (step : Step), name ≠ target →
      (step.run target names).1 name = names name) ∧
    (∀ s t : StringSet, (s == t) = true ↔ s.toList = t.toList) ∧
    (∀ xs ys, (ofList xs == ofList ys) = true ↔ ∀ x, x ∈ xs ↔ x ∈ ys) ∧
    ∀ outbound inbound matched : StringSet, (∀ x ∈ matched, x ∈ outbound.union inbound) →
      let unmatched := (outbound.union inbound).difference matched
      (∀ x ∈ unmatched, x ∉ matched) ∧
      unmatched.union matched = outbound.union inbound ∧
      ∀ x, (Direction.classify outbound inbound x).isSome = true ↔ x ∈ outbound.union inbound := by
  refine ⟨fun script => follows_runScript (fun _ => empty) script,
    fun target name names step h => step.run_of_ne h names, fun s t => ?_, fun xs ys => ?_,
    fun outbound inbound matched h => ⟨fun x hx => ?_, ?_, fun x => ?_⟩⟩
  · rw [beq_iff_eq, toList_inj]
  · rw [beq_iff_eq, ofList_eq_iff]
  · exact (mem_difference.1 hx).2
  · exact union_difference h
  · exact Direction.isSome_classify

/-- A set that is united with itself, another one that is taken from it into it, and a document on
    both sides that is matched. -/
theorem runScript_refines_aliased :
    let script : List (String × Step) :=
      [("a", .assign ["é", "b", "é"]), ("a", .union "a" "a"), ("b", .add "b"),
        ("a", .difference "a" "b"), ("a", .drain), ("a", .equals "c")]
    let outbound := ofList ["a", "b"]
    let inbound := ofList ["c", "b"]
    let matched := ofList ["b"]
    (runScript (fun _ => empty) script).map Prod.fst =
      [.nothing, .nothing, .flag true, .nothing, .texts ["é"], .flag true] ∧
    Follows (fun _ => ∅) script (runScript (fun _ => empty) script) ∧
    ((outbound.union inbound).difference matched).union matched = outbound.union inbound ∧
    ((outbound.union inbound).difference matched).toList = ["a", "c"] := by
  intro script outbound inbound matched
  have hmatched : ∀ x ∈ matched, x ∈ outbound.union inbound := by
    intro x hx
    obtain rfl : x = "b" := List.mem_singleton.1 (mem_ofList.1 hx)
    exact mem_union.2 (.inl (mem_ofList.2 (by decide)))
  obtain ⟨hfollows, -, -, -, hparts⟩ := runScript_refines
  obtain ⟨-, hunion, -⟩ := hparts outbound inbound matched hmatched
  exact ⟨by decide +kernel, hfollows script, hunion, by decide +kernel⟩

end CitationFusion.StringSet
