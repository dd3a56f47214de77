import CitationFusion.Proofs.StringSet
import CitationFusion.Resolve
import Mathlib.Data.List.Perm.Subperm

/-!
# The documents around one

* `ofEdges_congr` : the order in which the edges are listed does not matter.
* `classify_citing`, `classify_cited`, `classify_none` : the side of a document; one on both sides
  counts as one that is cited by the record.
* `sort_unlisted` : of the documents that are left without a local record, none is on neither side.
* `mem_unmatchedOn` : which documents are left on a side.
* `unmatchedOn_ascending` : they are listed in the order of their octets, each once.
* `mapped_eq` : how resolving a record goes on once the local records are known.
-/

namespace CitationFusion

/-- Whether stubs are listed in the strict order of their octets. -/
def Ascending (stubs : List Stub) : Prop :=
  stubs.Pairwise (fun a b => Utf8.ofString a.doi < Utf8.ofString b.doi)

theorem Ascending.nodup {stubs : List Stub} (h : Ascending stubs) : (stubs.map Stub.doi).Nodup := by
  rw [List.nodup_iff_pairwise_ne, List.pairwise_map]
  refine h.imp fun {a b} hlt he => ?_
  rw [he] at hlt
  exact List.lt_irrefl _ hlt

/-- A list without repetitions is not longer than one that has all its items. -/
theorem length_le_of_mem {α : Type} {l m : List α} (hl : l.Nodup) (h : ∀ x ∈ l, x ∈ m) :
    l.length ≤ m.length :=
  (hl.subperm h).length_le

namespace Neighbourhood

variable {n : Neighbourhood} {id doi : String} {e : Edges} {M : List Mapping}

theorem mem_related : doi ∈ n.related ↔ doi ∈ n.outbound ∨ doi ∈ n.inbound := StringSet.mem_union

theorem classify_citing : n.classify doi = some .citing ↔ doi ∈ n.outbound := by
  rw [← StringSet.contains_iff]
  unfold classify Direction.classify
  cases n.outbound.contains doi <;> cases n.inbound.contains doi <;> simp

theorem classify_cited :
    n.classify doi = some .cited ↔ doi ∈ n.inbound ∧ doi ∉ n.outbound := by
  rw [← StringSet.contains_iff, ← StringSet.contains_iff]
  unfold classify Direction.classify
  cases n.outbound.contains doi <;> cases n.inbound.contains doi <;> simp

theorem classify_none : n.classify doi = none ↔ doi ∉ n.related := by
  rw [mem_related, ← StringSet.contains_iff, ← StringSet.contains_iff]
  unfold classify Direction.classify
  cases n.outbound.contains doi <;> cases n.inbound.contains doi <;> simp

theorem mem_related_of_classify {side : Direction} (h : n.classify doi = some side) :
    doi ∈ n.related := by
  by_contra hno
  rw [classify_none.2 hno] at h
  cases h

/-! ## 1. Of the edges that the store lists -/

theorem mem_outbound_ofEdges {x : String} : x ∈ (ofEdges id doi e).outbound ↔ x ∈ e.citing :=
  StringSet.mem_ofList

theorem mem_inbound_ofEdges {x : String} : x ∈ (ofEdges id doi e).inbound ↔ x ∈ e.cited :=
  StringSet.mem_ofList

theorem mem_related_ofEdges {x : String} :
    x ∈ (ofEdges id doi e).related ↔ x ∈ e.citing ∨ x ∈ e.cited := by
  rw [mem_related, mem_outbound_ofEdges, mem_inbound_ofEdges]

/-- **The documents around a record do not depend on how the store lists the edges.** -/
theorem ofEdges_congr {e' : Edges} (citing : ∀ x, x ∈ e.citing ↔ x ∈ e'.citing)
    (cited : ∀ x, x ∈ e.cited ↔ x ∈ e'.cited) : ofEdges id doi e = ofEdges id doi e' := by
  have houtbound : (ofEdges id doi e).outbound = (ofEdges id doi e').outbound := by
    refine StringSet.ext fun x => ?_
    rw [mem_outbound_ofEdges, mem_outbound_ofEdges]
    exact citing x
  have hinbound : (ofEdges id doi e).inbound = (ofEdges id doi e').inbound := by
    refine StringSet.ext fun x => ?_
    rw [mem_inbound_ofEdges, mem_inbound_ofEdges]
    exact cited x
  exact congrArg₂ (Neighbourhood.mk id doi) houtbound hinbound

/-- There are documents around a record exactly when the store lists an edge. -/
theorem isEmpty_related_ofEdges : (ofEdges id doi e).related.isEmpty = e.isEmpty := by
  cases h : e.isEmpty with
  | true =>
    simp only [Edges.isEmpty, Bool.and_eq_true, List.isEmpty_iff] at h
    show (ofEdges id doi e).related.values.isEmpty = true
    rw [List.isEmpty_iff, List.eq_nil_iff_forall_not_mem]
    intro x hx
    rcases mem_related_ofEdges.1 (show x ∈ (ofEdges id doi e).related from hx) with hx | hx
    · rw [h.1] at hx
      exact List.not_mem_nil hx
    · rw [h.2] at hx
      exact List.not_mem_nil hx
  | false =>
    obtain ⟨x, hx⟩ : ∃ x, x ∈ e.citing ∨ x ∈ e.cited := by
      cases hc : e.citing with
      | cons x _ => exact ⟨x, .inl (by simp)⟩
      | nil =>
        cases hd : e.cited with
        | cons x _ => exact ⟨x, .inr (by simp)⟩
        | nil => simp [Edges.isEmpty, hc, hd] at h
    have hx : x ∈ (ofEdges id doi e).related.values := mem_related_ofEdges.2 hx
    show (ofEdges id doi e).related.values.isEmpty = false
    rw [List.isEmpty_eq_false_iff]
    exact List.ne_nil_of_mem hx

/-! ## 2. Documents without a local record -/

theorem mem_unlisted : doi ∈ n.unlisted M ↔ doi ∈ n.related ∧ doi ∉ M.map Mapping.doi := by
  have hM : doi ∈ StringSet.ofList (M.map Mapping.doi) ↔ doi ∈ M.map Mapping.doi :=
    StringSet.mem_ofList
  rw [← hM]
  exact StringSet.mem_difference

/-- The documents of a list that are on one side. -/
def stubsOn (n : Neighbourhood) (side : Direction) (dois : List String) : List Stub :=
  (dois.filter (fun doi => n.classify doi == some side)).map Stub.mk

/-- The documents of one side that no local record stands for. -/
def unmatchedOn (n : Neighbourhood) (M : List Mapping) (side : Direction) : List Stub :=
  n.stubsOn side (n.unlisted M).toList

/-- The documents that no local record stands for. -/
def unmatched (n : Neighbourhood) (M : List Mapping) : Unmatched :=
  ⟨n.unmatchedOn M .citing, n.unmatchedOn M .cited⟩

/-- The response to the local records and the metadata that was collected of them. -/
def response (n : Neighbourhood) (M : List Mapping) (c : Collected) : Response :=
  (assemble n (n.unmatched M) c).updateCounts

theorem stubsOn_cons {side : Direction} {dois : List String} :
    n.stubsOn side (doi :: dois) =
      if n.classify doi = some side then ⟨doi⟩ :: n.stubsOn side dois else n.stubsOn side dois := by
  unfold stubsOn
  by_cases h : n.classify doi = some side <;> simp [h]

/-- **Documents around a record are listed without fault**, each on its side. -/
theorem sort_related {dois : List String} (h : ∀ doi ∈ dois, doi ∈ n.related) (u : Unmatched) :
    n.sort dois u =
      .ok ⟨u.citing ++ n.stubsOn .citing dois, u.cited ++ n.stubsOn .cited dois⟩ := by
  induction dois generalizing u with
  | nil => simp [sort, stubsOn]
  | cons doi dois ih =>
    obtain ⟨hdoi, hrest⟩ := List.forall_mem_cons.1 h
    cases hside : n.classify doi with
    | none => exact absurd hdoi (classify_none.1 hside)
    | some side => cases side <;> simp [sort, hside, stubsOn_cons, ih hrest]

/-- **None of the documents that are left is on neither side**: each is one of those around the
    record. -/
theorem sort_unlisted (n : Neighbourhood) (M : List Mapping) :
    n.sort (n.unlisted M).toList ⟨[], []⟩ = .ok (n.unmatched M) :=
  sort_related (fun _ h => (mem_unlisted.1 h).1) _

/-- **The documents of one side that are left are those that no mapping names.** -/
theorem mem_unmatchedOn {side : Direction} {s : Stub} :
    s ∈ n.unmatchedOn M side ↔ n.classify s.doi = some side ∧ s.doi ∉ M.map Mapping.doi := by
  unfold unmatchedOn stubsOn
  rw [List.mem_map]
  constructor
  · rintro ⟨x, hx, rfl⟩
    obtain ⟨h1, h2⟩ := List.mem_filter.1 hx
    exact ⟨by simpa using h2, (mem_unlisted.1 h1).2⟩
  · rintro ⟨h1, h2⟩
    refine ⟨s.doi, List.mem_filter.2 ⟨?_, by simpa using h1⟩, rfl⟩
    exact mem_unlisted.2 ⟨mem_related_of_classify h1, h2⟩

/-- **They are listed in the order of their octets, each once.** -/
theorem unmatchedOn_ascending (n : Neighbourhood) (M : List Mapping) (side : Direction) :
    Ascending (n.unmatchedOn M side) := by
  unfold Ascending unmatchedOn stubsOn
  rw [List.pairwise_map]
  refine List.Pairwise.filter _ ?_
  exact (n.unlisted M).ascending.imp fun h => Utf8.ofString_lt_iff.2 h

/-- No document is left on both sides. -/
theorem unmatchedOn_disjoint {s : Stub} (h : s ∈ n.unmatchedOn M .citing) :
    s ∉ n.unmatchedOn M .cited := by
  intro h'
  have h1 := (mem_unmatchedOn.1 h).1
  have h2 := (mem_unmatchedOn.1 h').1
  rw [h1] at h2
  cases h2

/-- There are not more documents left on one side than the store listed there. -/
theorem length_unmatchedOn_ofEdges (id doi : String) (e : Edges) (M : List Mapping) :
    ((ofEdges id doi e).unmatchedOn M .citing).length ≤ e.citing.length ∧
      ((ofEdges id doi e).unmatchedOn M .cited).length ≤ e.cited.length := by
  have side : ∀ d (l : List String), (∀ x, (ofEdges id doi e).classify x = some d → x ∈ l) →
      ((ofEdges id doi e).unmatchedOn M d).length ≤ l.length := by
    intro d l hl
    rw [← List.length_map (f := Stub.doi)]
    refine length_le_of_mem (unmatchedOn_ascending _ M d).nodup fun x hx => ?_
    obtain ⟨s, hs, rfl⟩ := List.mem_map.1 hx
    exact hl _ (mem_unmatchedOn.1 hs).1
  refine ⟨side _ _ fun x hx => ?_, side _ _ fun x hx => ?_⟩
  · exact mem_outbound_ofEdges.1 (classify_citing.1 hx)
  · exact mem_inbound_ofEdges.1 (classify_cited.1 hx).1

end Neighbourhood

/-! ## 3. Going on -/

/-- **Once the local records are known, the documents that are left are recorded**, and the metadata
    is collected: it is never found that one of them is on neither side. -/
theorem mapped_eq (s : Settings) (u : Bool) (started : Instant) (n : Neighbourhood)
    (M : List Mapping) :
    mapped s u started n M =
      .lap ("mapped " ++ toString M.length ++ " dois back to ids") (
        .lap "recorded unmatched ids" (
          collect n
            (fun c =>
              .lap ("fetched " ++ toString (c.citing.length + c.cited.length) ++ " blobs") (
                deliver s u started (n.response M c)))
            M ⟨[], []⟩)) := by
  rw [mapped, n.sort_unlisted M]
  rfl

end CitationFusion
