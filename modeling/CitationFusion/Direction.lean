import CitationFusion.StringSet

/-!
# On which side a related document stands

The origin cites the documents of its outbound edges and is cited by those of its inbound
edges. A document on both sides counts once, as one that the origin cites.
-/

namespace CitationFusion

/-- Which side of the origin a related document stands on. -/
inductive Direction where
  /-- The origin cites the document. -/
  | citing
  /-- The document cites the origin. -/
  | cited
  deriving DecidableEq, Repr

/-- The side of a document; none for a document that is not related at all. -/
def Direction.classify (outbound inbound : StringSet) (doi : String) : Option Direction :=
  if outbound.contains doi then some .citing
  else if inbound.contains doi then some .cited
  else none

/-- The documents next to one document in the citation graph, as listed by the store. -/
structure Edges where
  /-- The documents that it cites. -/
  citing : List String
  /-- The documents that cite it. -/
  cited : List String
  deriving DecidableEq, Repr, Inhabited

/-- Whether there is no edge in either direction. -/
def Edges.isEmpty (e : Edges) : Bool := e.citing.isEmpty && e.cited.isEmpty

/-- A local record and the document it stands for. -/
structure Mapping where
  id : String
  doi : String
  deriving DecidableEq, Repr, Inhabited

/-- **A document has a side exactly when it is related.** -/
theorem Direction.isSome_classify {outbound inbound : StringSet} {doi : String} :
    (classify outbound inbound doi).isSome = true ↔ doi ∈ outbound.union inbound := by
  rw [StringSet.mem_union, ← StringSet.contains_iff, ← StringSet.contains_iff]
  unfold classify
  split
  · simp_all
  · split <;> simp_all

end CitationFusion
