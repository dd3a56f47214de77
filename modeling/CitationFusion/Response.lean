import CitationFusion.Clock
import CitationFusion.Text.Utf8

/-!
# Fused responses

The metadata of one local record, joined with that of the documents around it. Documents that
have a local record stand as the text that the index data store keeps of them; the others stand
as their DOI alone.
-/

namespace CitationFusion

/-- The metadata of one record, as its JSON text. -/
structure Blob where
  text : Bytes
  deriving DecidableEq, Repr, Inhabited

/-- A related document without a local record. -/
structure Stub where
  doi : String
  deriving DecidableEq, Repr, Inhabited

/-- The related documents without a local record. -/
structure Unmatched where
  citing : List Stub
  cited : List Stub
  deriving DecidableEq, Repr, Inhabited

/-- Facts about a response itself. -/
structure Extra where
  /-- The seconds that it took. -/
  took : Binary64
  unmatchedCitingCount : Nat
  unmatchedCitedCount : Nat
  citingCount : Nat
  citedCount : Nat
  /-- Whether it was put into the cache. -/
  cached : Bool
  deriving DecidableEq, Repr

instance : Inhabited Extra := ⟨⟨.zero, 0, 0, 0, 0, false⟩⟩

/-- The metadata of a record joined with that of related documents. -/
structure Response where
  id : String
  doi : String
  /-- The documents that this one cites. -/
  citing : List Blob
  /-- The documents that cite this one. -/
  cited : List Blob
  unmatched : Unmatched
  extra : Extra
  deriving DecidableEq, Repr

/-- A response without related documents. -/
def Response.ofRecord (id doi : String) : Response := ⟨id, doi, [], [], default, default⟩

/-- The response with the lengths of its lists as its counts. -/
def Response.updateCounts (r : Response) : Response :=
  { r with extra :=
    { r.extra with
      citingCount := r.citing.length
      citedCount := r.cited.length
      unmatchedCitingCount := r.unmatched.citing.length
      unmatchedCitedCount := r.unmatched.cited.length } }

end CitationFusion
