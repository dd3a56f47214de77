import CitationFusion.Response
import CitationFusion.Json.Write

/-!
# The JSON text of a response

The fields stand in a fixed order. `extra` is the last field and `took` the first one in it, so
that the time can be replaced in a text that is not read (`CitationFusion.Took`).
-/

namespace CitationFusion

open Json

/-- A related document without a local record. -/
def Stub.write (s : Stub) : Bytes := writeObject [writeMember "doi" (writeString s.doi)]

/-- The related documents without a local record. -/
def Unmatched.write (u : Unmatched) : Bytes :=
  writeObject
    [ writeMember "citing" (writeList (u.citing.map Stub.write)),
      writeMember "cited" (writeList (u.cited.map Stub.write)) ]

/-- The facts about a response. -/
def Extra.write (e : Extra) : Bytes :=
  writeObject
    [ writeMember "took" (writeDouble e.took),
      writeMember "unmatched_citing_count" (writeNat e.unmatchedCitingCount),
      writeMember "unmatched_cited_count" (writeNat e.unmatchedCitedCount),
      writeMember "citing_count" (writeNat e.citingCount),
      writeMember "cited_count" (writeNat e.citedCount),
      writeMember "cached" (writeBool e.cached) ]

/-- A response. -/
def Response.write (r : Response) : Bytes :=
  writeObject
    [ writeMember "id" (writeString r.id),
      writeMember "doi" (writeString r.doi),
      writeMember "citing" (writeList (r.citing.map Blob.text)),
      writeMember "cited" (writeList (r.cited.map Blob.text)),
      writeMember "unmatched" r.unmatched.write,
      writeMember "extra" r.extra.write ]

/-- The answer for a document without related documents. -/
def writeNoRelated (id doi : String) : Bytes :=
  writeObject [writeMember "doi" (writeString doi), writeMember "id" (writeString id)]

/-- Stubs in ascending order, each once. -/
def writeStubs (stubs : List Stub) : Bytes := writeList (stubs.map Stub.write)

end CitationFusion
