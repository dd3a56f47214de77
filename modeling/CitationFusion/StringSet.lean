/-!
# Finite sets of strings

A set is the strictly ascending list of its members, in the order of their UTF-8 octets, which
is the order of their scalars. So two sets with the same members are the same list, and the
sorted view of a set is the set itself.

* `insert_ascending` : inserting keeps the list strictly ascending.
* `mem_insert`, `mem_union`, `mem_difference` : what each operation does to membership.
-/

namespace CitationFusion

/-- A finite set of strings. -/
structure StringSet where
  /-- The members, strictly ascending. -/
  values : List String
  ascending : values.Pairwise (· < ·)
  deriving DecidableEq

namespace StringSet

/-! ## 1. Insertion into an ascending list -/

/-- Puts a string at its place in an ascending list, unless it is there. -/
def place (x : String) : List String → List String
  | [] => [x]
  | y :: r => if x < y then x :: y :: r else if x = y then y :: r else y :: place x r

theorem mem_place {x z : String} {l : List String} : z ∈ place x l ↔ z = x ∨ z ∈ l := by
  induction l with
  | nil => simp [place]
  | cons y r ih =>
    unfold place
    split
    · simp
    · split
      · rename_i h
        subst h
        simp
      · simp only [List.mem_cons, ih]
        grind

/-- **Inserting keeps a list strictly ascending.** -/
theorem place_ascending {x : String} {l : List String} (h : l.Pairwise (· < ·)) :
    (place x l).Pairwise (· < ·) := by
  induction l with
  | nil => simp [place]
  | cons y r ih =>
    have hy := (List.pairwise_cons.1 h).1
    unfold place
    split
    · rename_i hxy
      refine List.pairwise_cons.2 ⟨fun z hz => ?_, h⟩
      rcases List.mem_cons.1 hz with rfl | hz
      · exact hxy
      · exact String.lt_trans hxy (hy _ hz)
    · split
      · exact h
      · rename_i hlt hne
        refine List.pairwise_cons.2 ⟨fun z hz => ?_, ih (List.Pairwise.of_cons h)⟩
        rcases mem_place.1 hz with rfl | hz
        · exact Std.lt_of_le_of_ne (String.not_lt.1 hlt) (Ne.symm hne)
        · exact hy _ hz

/-! ## 2. Sets -/

/-- The set without members. -/
def empty : StringSet := ⟨[], .nil⟩

instance : Inhabited StringSet := ⟨empty⟩

/-- The set with one more member. -/
def insert (s : StringSet) (x : String) : StringSet :=
  ⟨place x s.values, place_ascending s.ascending⟩

/-- Whether a string is a member. -/
def contains (s : StringSet) (x : String) : Bool := s.values.contains x

instance : Membership String StringSet := ⟨fun s x => x ∈ s.values⟩

/-- The number of members. -/
def size (s : StringSet) : Nat := s.values.length

/-- Whether there is no member. -/
def isEmpty (s : StringSet) : Bool := s.values.isEmpty

/-- The set with the items of a list as further members. -/
def insertMany (s : StringSet) (xs : List String) : StringSet := xs.foldl insert s

/-- The set of the items of a list. -/
def ofList (xs : List String) : StringSet := empty.insertMany xs

/-- The members of either set. -/
def union (s t : StringSet) : StringSet := s.insertMany t.values

/-- The members of `s` that are not in `t`. -/
def difference (s t : StringSet) : StringSet :=
  ⟨s.values.filter (fun x => !t.contains x), s.ascending.filter _⟩

/-- The members, ascending. -/
def toList (s : StringSet) : List String := s.values

/-! ## 3. Membership -/

theorem contains_iff {s : StringSet} {x : String} : s.contains x = true ↔ x ∈ s := by
  simp [contains, Membership.mem]

theorem not_mem_empty {x : String} : x ∉ empty := List.not_mem_nil

theorem mem_insert {s : StringSet} {x z : String} : z ∈ s.insert x ↔ z = x ∨ z ∈ s :=
  mem_place

theorem mem_insertMany {xs : List String} {s : StringSet} {z : String} :
    z ∈ s.insertMany xs ↔ z ∈ s ∨ z ∈ xs := by
  induction xs generalizing s with
  | nil => simp [insertMany]
  | cons x r ih =>
    have h : s.insertMany (x :: r) = (s.insert x).insertMany r := rfl
    rw [h, ih, mem_insert]
    simp only [List.mem_cons]
    grind

theorem mem_ofList {xs : List String} {z : String} : z ∈ ofList xs ↔ z ∈ xs := by
  simp [ofList, mem_insertMany, not_mem_empty]

theorem mem_union {s t : StringSet} {z : String} : z ∈ s.union t ↔ z ∈ s ∨ z ∈ t :=
  mem_insertMany

theorem mem_difference {s t : StringSet} {z : String} :
    z ∈ s.difference t ↔ z ∈ s ∧ z ∉ t := by
  show z ∈ s.values.filter (fun x => !t.contains x) ↔ _
  rw [List.mem_filter]
  simp only [Bool.not_eq_true', ← Bool.not_eq_true, contains_iff]
  rfl

end StringSet

end CitationFusion
