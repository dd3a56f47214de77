import CitationFusion.Response
import CitationFusion.Json.Record

/-!
# Reading responses

Of a response only `id` and `doi` have to be given; everything else has a default. Metadata is
kept as the text that it is.
-/

namespace CitationFusion

open Json

/-! ## 1. Stubs -/

/-- How a stub is read. -/
def Stub.shape : Shape (Option String) Stub :=
  { name := "DocStub"
    slots := [.required "doi" id (fun _ s => some s) readText]
    draft := none
    build := fun d => (required "doi" d).map Stub.mk }

/-- A list of stubs for either side, as far as given. -/
structure UnmatchedDraft where
  citing : Option (List Stub)
  cited : Option (List Stub)

/-- How the documents without a local record are read. -/
def Unmatched.shape : Shape UnmatchedDraft Unmatched :=
  { name := "Unmatched"
    slots :=
      [ .optional "citing" (·.citing) (fun d v => { d with citing := some v })
          (readList Stub.shape.read),
        .optional "cited" (·.cited) (fun d v => { d with cited := some v })
          (readList Stub.shape.read) ]
    draft := ⟨none, none⟩
    build := fun d => .ok ⟨d.citing.getD [], d.cited.getD []⟩ }

/-! ## 2. Facts -/

/-- The facts about a response, as far as given. -/
structure ExtraDraft where
  took : Option Binary64
  unmatchedCitingCount : Option Nat
  unmatchedCitedCount : Option Nat
  citingCount : Option Nat
  citedCount : Option Nat
  cached : Option Bool

/-- How the facts about a response are read. -/
def Extra.shape : Shape ExtraDraft Extra :=
  { name := "Extra"
    slots :=
      [ .optional "took" (·.took) (fun d v => { d with took := some v }) readDouble,
        .optional "unmatched_citing_count" (·.unmatchedCitingCount)
          (fun d v => { d with unmatchedCitingCount := some v }) (readNat "usize"),
        .optional "unmatched_cited_count" (·.unmatchedCitedCount)
          (fun d v => { d with unmatchedCitedCount := some v }) (readNat "usize"),
        .optional "citing_count" (·.citingCount) (fun d v => { d with citingCount := some v })
          (readNat "usize"),
        .optional "cited_count" (·.citedCount) (fun d v => { d with citedCount := some v })
          (readNat "usize"),
        .optional "cached" (·.cached) (fun d v => { d with cached := some v }) readBool ]
    draft := ⟨none, none, none, none, none, none⟩
    build := fun d =>
      .ok
        { took := d.took.getD .zero
          unmatchedCitingCount := d.unmatchedCitingCount.getD 0
          unmatchedCitedCount := d.unmatchedCitedCount.getD 0
          citingCount := d.citingCount.getD 0
          citedCount := d.citedCount.getD 0
          cached := d.cached.getD false } }

/-! ## 3. Responses -/

/-- A response, as far as given. -/
structure ResponseDraft where
  id : Option String
  doi : Option String
  citing : Option (List Blob)
  cited : Option (List Blob)
  unmatched : Option Unmatched
  extra : Option Extra

/-- Reads metadata. -/
def Blob.read : Reader Blob := fun bs => (readVerbatim bs).map fun (t, rest) => (⟨t⟩, rest)

/-- How a response is read. -/
def Response.shape : Shape ResponseDraft Response :=
  { name := "Response"
    slots :=
      [ .required "id" (·.id) (fun d v => { d with id := some v }) readText,
        .required "doi" (·.doi) (fun d v => { d with doi := some v }) readText,
        .optional "citing" (·.citing) (fun d v => { d with citing := some v })
          (readList Blob.read),
        .optional "cited" (·.cited) (fun d v => { d with cited := some v })
          (readList Blob.read),
        .optional "unmatched" (·.unmatched) (fun d v => { d with unmatched := some v })
          Unmatched.shape.read,
        .optional "extra" (·.extra) (fun d v => { d with extra := some v }) Extra.shape.read ]
    draft := ⟨none, none, none, none, none, none⟩
    build := fun d => do
      let id ← required "id" d.id
      let doi ← required "doi" d.doi
      return ⟨id, doi, d.citing.getD [], d.cited.getD [], d.unmatched.getD default,
        d.extra.getD default⟩ }

/-- The response that a text writes. -/
def Response.ofText (bs : Bytes) : Except Stop Response := readDocument Response.shape.read bs

end CitationFusion
