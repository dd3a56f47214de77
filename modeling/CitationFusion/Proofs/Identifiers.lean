import CitationFusion.Memory
import CitationFusion.Proofs.Utf8
import Mathlib.Data.List.Nodup

/-!
# Identifiers in memory

A store that rows were put into has these rows, in the order of their identifiers, whatever the
order in which they came.

* `Ordered` : rows in the order of their identifiers; `ordered_insertRow` keeps it.
* `Filled`, `Filled.perm`, `Filled.ordered` : what a store holds that rows were put into.
* `Standing`, `Filled.idForDoi_standing` : the record that answers for a DOI.
* `Filled.doiForId_of_mem` : and that it answers the DOI.
-/

namespace CitationFusion.Memory

/-! ## 1. Rows in order -/

/-- Whether rows are in the order of their identifiers. -/
def Ordered (rows : List Mapping) : Prop := rows.Pairwise fun a b => a.id ≤ b.id

variable {row m : Mapping} {rows records : List Mapping}

theorem insertRow_perm (row : Mapping) (rows : List Mapping) :
    (insertRow row rows).Perm (row :: rows) := by
  induction rows with
  | nil => exact .refl _
  | cons r rest ih =>
    unfold insertRow
    split
    · exact .refl _
    · exact (ih.cons r).trans (.swap row r rest)

/-- **Putting in a row keeps the order.** -/
theorem ordered_insertRow (h : Ordered rows) : Ordered (insertRow row rows) := by
  induction rows with
  | nil => exact List.pairwise_singleton _ _
  | cons r rest ih =>
    obtain ⟨hr, hrest⟩ := List.pairwise_cons.1 h
    unfold insertRow
    split
    · rename_i hlt
      have hle : row.id ≤ r.id := String.not_lt.1 (String.lt_asymm hlt)
      refine List.pairwise_cons.2 ⟨fun m hm => ?_, h⟩
      rcases List.mem_cons.1 hm with rfl | hm
      · exact hle
      · exact String.le_trans hle (hr m hm)
    · rename_i hge
      refine List.pairwise_cons.2 ⟨fun m hm => ?_, ih hrest⟩
      rcases List.mem_cons.1 ((insertRow_perm row rest).mem_iff.1 hm) with rfl | hm
      · exact String.not_lt.1 hge
      · exact hr m hm

/-- The first row of some kind has the least identifier among all of that kind. -/
theorem Ordered.find?_le {p : Mapping → Bool} (h : Ordered rows) (hfind : rows.find? p = some row)
    (hm : m ∈ rows) (hp : p m = true) : row.id ≤ m.id := by
  obtain ⟨-, before, behind, rfl, hbefore⟩ := List.find?_eq_some_iff_append.1 hfind
  have hbehind := (List.pairwise_append.1 h).2.1
  rcases List.mem_append.1 hm with hm | hm
  · have hno := hbefore m hm
    rw [hp] at hno
    cases hno
  · rcases List.mem_cons.1 hm with rfl | hm
    · exact String.le_refl _
    · exact (List.pairwise_cons.1 hbehind).1 m hm

/-! ## 2. Stores -/

/-- Whether a store holds what some records leave behind that are put into an empty one, one after
    the other. -/
def Filled (s : Identifiers) (records : List Mapping) : Prop :=
  s.rows = (records.foldl Identifiers.insert (Stores.start []).identifiers).rows

/-- Whether a record is the one that stands for a DOI: it carries it, and of all that do, the octets
    of its identifier come first. -/
structure Standing (records : List Mapping) (doi id : String) : Prop where
  carries : ⟨id, doi⟩ ∈ records
  least : ∀ m ∈ records, m.doi = doi → m.id ≠ id → Utf8.ofString id < Utf8.ofString m.id

variable {s : Identifiers} {id doi : String}

theorem foldl_insert_rows (records : List Mapping) (s : Identifiers) (h : Ordered s.rows) :
    (records.foldl Identifiers.insert s).rows.Perm (records ++ s.rows) ∧
      Ordered (records.foldl Identifiers.insert s).rows := by
  -- for any store to begin with, as every row leaves another one
  induction records generalizing s with
  | nil => exact ⟨.refl _, h⟩
  | cons m records ih =>
    obtain ⟨hperm, hordered⟩ := ih (s.insert m) (ordered_insertRow h)
    refine ⟨hperm.trans ?_, hordered⟩
    exact ((insertRow_perm m s.rows).append_left records).trans List.perm_middle

/-- **A store holds the records that were put into it.** -/
theorem Filled.perm (h : Filled s records) : s.rows.Perm records := by
  have hrows := (foldl_insert_rows records (Stores.start []).identifiers .nil).1
  rw [← h] at hrows
  simpa [Stores.start] using hrows

/-- **It holds them in the order of their identifiers.** -/
theorem Filled.ordered (h : Filled s records) : Ordered s.rows := by
  have hrows := (foldl_insert_rows records (Stores.start []).identifiers .nil).2
  rwa [← h] at hrows

/-- **What is found for a DOI is the record that stands for it**, if any record carries it. -/
theorem Filled.idForDoi_standing (h : Filled s records) (available : s.trouble.unavailable = false)
    (carried : ∃ m ∈ records, m.doi = doi) :
    ∃ id, s.idForDoi doi = .ok id ∧ Standing records doi id := by
  obtain ⟨m, hm, hdoi⟩ := carried
  have hfound : (s.rows.find? (fun r => r.doi == doi)).isSome = true :=
    List.find?_isSome.2 ⟨m, h.perm.mem_iff.2 hm, beq_iff_eq.2 hdoi⟩
  obtain ⟨row, hrow⟩ := Option.isSome_iff_exists.1 hfound
  refine ⟨row.id, ?_, ?_, fun m hm hcarries hne => ?_⟩
  · rw [Identifiers.idForDoi, Trouble.guard, available, hrow]
    rfl
  · have hrowdoi : row.doi = doi := by simpa using List.find?_some hrow
    rw [← hrowdoi]
    exact h.perm.mem_iff.1 (List.mem_of_find?_eq_some hrow)
  · have hle : row.id ≤ m.id :=
      h.ordered.find?_le hrow (h.perm.mem_iff.2 hm) (beq_iff_eq.2 hcarries)
    rw [Utf8.ofString_lt_iff]
    exact String.not_le.1 fun hge => hne (String.le_antisymm hge hle)

/-- For a DOI that no record carries, nothing is found. -/
theorem Filled.idForDoi_none (h : Filled s records) (available : s.trouble.unavailable = false)
    (uncarried : ∀ m ∈ records, m.doi ≠ doi) :
    s.idForDoi doi = .error (.notFound ("No id for DOI " ++ Text.quote doi ++ ".")) := by
  have hnone : s.rows.find? (fun r => r.doi == doi) = none := by
    refine List.find?_eq_none.2 fun m hm => ?_
    simpa using uncarried m (h.perm.mem_iff.1 hm)
  rw [Identifiers.idForDoi, Trouble.guard, available, hnone]
  rfl

/-- **An identifier answers its DOI**, if no two records share it. -/
theorem Filled.doiForId_of_mem (h : Filled s records) (available : s.trouble.unavailable = false)
    (distinct : (records.map Mapping.id).Nodup) (hmem : ⟨id, doi⟩ ∈ records) :
    s.doiForId id = .ok doi := by
  have hrows : ⟨id, doi⟩ ∈ s.rows := h.perm.mem_iff.2 hmem
  have hfound : (s.rows.find? (fun r => r.id == id)).isSome = true :=
    List.find?_isSome.2 ⟨_, hrows, beq_self_eq_true id⟩
  obtain ⟨row, hrow⟩ := Option.isSome_iff_exists.1 hfound
  have hid : row.id = id := by simpa using List.find?_some hrow
  have hnodup : (s.rows.map Mapping.id).Nodup := (h.perm.map Mapping.id).nodup_iff.2 distinct
  have hsame : row = ⟨id, doi⟩ :=
    List.inj_on_of_nodup_map hnodup (List.mem_of_find?_eq_some hrow) hrows hid
  rw [Identifiers.doiForId, Trouble.guard, available, hrow, hsame]
  rfl

end CitationFusion.Memory
