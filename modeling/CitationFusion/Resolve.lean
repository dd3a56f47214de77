import CitationFusion.Store
import CitationFusion.Response.Write
import CitationFusion.Took
import CitationFusion.Json.Read

/-!
# Resolving a local record

A record is resolved in steps: its DOI, the documents around that, the local records of those,
and the metadata of each. Documents without a local record are listed by DOI. The first step
that fails ends the request, but metadata that just is not there is left out.

An answer that took long is kept in the cache. A text in the cache is served with a new time in
it; one that is no JSON document is removed, and the record is resolved as if there were none.

Each step is a plan that goes on with the next one: `resolve`, `fresh`, `join`, `mapped`,
`collect`, `deliver`.
-/

namespace CitationFusion

/-- How requests are treated. -/
structure Settings where
  /-- How long a request may take. -/
  requestTimeout : Duration
  /-- Whether checkpoints are reported. -/
  stopwatch : Bool
  /-- Answers that took longer are kept. -/
  cacheTrigger : Duration
  /-- How long they are kept. -/
  cacheTtl : Duration
  deriving DecidableEq, Repr

/-- Half a minute for a request; answers that took longer than a quarter of a second are kept for
    eight hours. -/
def Settings.standard : Settings :=
  ⟨.ofSecs 30, false, .ofMillis 250, .ofSecs (8 * 60 * 60)⟩

/-- What a record resolves to. -/
inductive Resolution where
  /-- A text that was kept, with the time of this request. -/
  | cached (body : Bytes)
  | resolved (response : Response)
  /-- There is no document around this one. -/
  | noRelated (id doi : String)
  deriving DecidableEq, Repr

/-- The JSON text of a resolution. -/
def Resolution.body : Resolution → Bytes
  | .cached body => body
  | .resolved response => response.write
  | .noRelated id doi => writeNoRelated id doi

/-! ## 1. Metadata -/

/-- The metadata of a record, of what the index data store answered: it has to be UTF-8 and one
    JSON value, of which the white space around it is not kept. -/
def Blob.accept (id : String) (answer : Bytes) : Except Failure Blob :=
  let subject := "Index data for " ++ Text.quote id
  match Utf8.decode answer with
  | .error fault => .error (.indexData (subject ++ " is not UTF-8: " ++ fault.message))
  | .ok _ =>
    match Json.readDocument Json.readVerbatim answer with
    | .error stop => .error (.indexData (subject ++ " is not JSON: " ++ stop.describe answer))
    | .ok text => .ok ⟨text⟩

/-! ## 2. The documents around one -/

/-- What is known once the documents around one are known. -/
structure Neighbourhood where
  id : String
  doi : String
  /-- The documents that it cites. -/
  outbound : StringSet
  /-- The documents that cite it. -/
  inbound : StringSet

namespace Neighbourhood

/-- The documents around a document, as the citation store lists them. -/
def ofEdges (id doi : String) (e : Edges) : Neighbourhood :=
  ⟨id, doi, .ofList e.citing, .ofList e.cited⟩

/-- All documents on either side. -/
def related (n : Neighbourhood) : StringSet := n.outbound.union n.inbound

/-- The side of a document. -/
def classify (n : Neighbourhood) (doi : String) : Option Direction :=
  Direction.classify n.outbound n.inbound doi

/-- The documents on either side that no local record stands for. -/
def unlisted (n : Neighbourhood) (mappings : List Mapping) : StringSet :=
  n.related.difference (.ofList (mappings.map Mapping.doi))

/-- Lists documents on their sides, in order, behind those that are listed already. The first one
    that is on neither side is at fault. -/
def sort (n : Neighbourhood) : List String → Unmatched → Except String Unmatched
  | [], u => .ok u
  | doi :: rest, u =>
    match n.classify doi with
    | some .citing => n.sort rest { u with citing := u.citing ++ [⟨doi⟩] }
    | some .cited => n.sort rest { u with cited := u.cited ++ [⟨doi⟩] }
    | none => .error doi

end Neighbourhood

/-- The metadata collected so far. -/
structure Collected where
  citing : List Blob
  cited : List Blob
  deriving Repr

/-- More metadata on one side. -/
def Collected.push (c : Collected) (side : Direction) (blob : Blob) : Collected :=
  match side with
  | .citing => { c with citing := c.citing ++ [blob] }
  | .cited => { c with cited := c.cited ++ [blob] }

/-! ## 3. The steps, the last one first -/

/-- Answers the collected response, and keeps it if that took long. -/
def deliver (s : Settings) (useCache : Bool) (started : Instant) (r : Response) :
    StorePlan (Except Failure Resolution) :=
  .clock fun now =>
    let elapsed := now.since started
    let r := { r with extra := { r.extra with took := elapsed.seconds } }
    if useCache && s.cacheTrigger.nanos < elapsed.nanos then
      let r := { r with extra := { r.extra with cached := true } }
      -- what is kept is what is answered, mark and time included
      .store r.id r.write s.cacheTtl (.lap "encoded and cached" (.done (.ok (.resolved r))))
    else .done (.ok (.resolved r))

/-- What is wrong with a document that is on neither side, by what it is. -/
def sidelessMessage (what doi : String) : String :=
  what ++ " DOI " ++ Text.quote doi ++ " is neither citing nor cited."

/-- What is wrong when a local record was answered that nobody asked for. -/
def strayMessage (doi : String) : String := sidelessMessage "Matched" doi

/-- Ends a request in which what must hold does not, and reports that. -/
def violate (message : String) : StorePlan (Except Failure Resolution) :=
  .note (.violated message) (.done (.error (.invariant message)))

/-- Collects the metadata of the local records in order, and goes on with it. -/
def collect (n : Neighbourhood) (next : Collected → StorePlan (Except Failure Resolution)) :
    List Mapping → Collected → StorePlan (Except Failure Resolution)
  | [], c => next c
  | m :: rest, c =>
    match n.classify m.doi with
    | none => violate (strayMessage m.doi)
    | some side =>
      .call (.index (.fetch m.id)) fun (answer : Except FetchFailure Bytes) =>
        match answer with
        | .error (.notFound _) => collect n next rest c
        | .error failure => .done (.error failure.toFailure)
        | .ok bytes =>
          match Blob.accept m.id bytes with
          | .error failure => .done (.error failure)
          | .ok blob => collect n next rest (c.push side blob)

/-- The response for what was collected. -/
def assemble (n : Neighbourhood) (unmatched : Unmatched) (c : Collected) : Response :=
  { Response.ofRecord n.id n.doi with citing := c.citing, cited := c.cited, unmatched }

/-- Goes on once the local records are known. -/
def mapped (s : Settings) (useCache : Bool) (started : Instant) (n : Neighbourhood)
    (mappings : List Mapping) : StorePlan (Except Failure Resolution) :=
  .lap ("mapped " ++ toString mappings.length ++ " dois back to ids") <|
  match n.sort (n.unlisted mappings).toList ⟨[], []⟩ with
  | .error doi => violate (sidelessMessage "Unmatched" doi)
  | .ok unmatched =>
    .lap "recorded unmatched ids" <|
    collect n
      (fun c =>
        .lap ("fetched " ++ toString (c.citing.length + c.cited.length) ++ " blobs") <|
        deliver s useCache started (assemble n unmatched c).updateCounts)
      mappings ⟨[], []⟩

/-- Goes on once the documents around the record are known. -/
def join (s : Settings) (useCache : Bool) (started : Instant) (n : Neighbourhood) :
    StorePlan (Except Failure Resolution) :=
  .lap ("found " ++ toString n.outbound.size ++ " outbound and " ++ toString n.inbound.size ++
    " inbound edges") <|
  if n.related.isEmpty then .done (.ok (.noRelated n.id n.doi))
  else
    .call (.idsForDois n.related.toList) fun (answer : Except Failure (List Mapping)) =>
      match answer with
      | .error failure => .done (.error failure)
      | .ok mappings => mapped s useCache started n mappings

/-- Resolves a record without the cache. -/
def fresh (s : Settings) (useCache : Bool) (started : Instant) (id : String) :
    StorePlan (Except Failure Resolution) :=
  .call (.doiForId id) fun (answer : Except Failure String) =>
    match answer with
    | .error failure => .done (.error failure)
    | .ok doi =>
      .lap "found doi" <|
      .call (.edges doi) fun (answer : Except Failure Edges) =>
        match answer with
        | .error failure => .done (.error failure)
        | .ok edges => join s useCache started (.ofEdges id doi edges)

/-- Resolves a record. -/
def resolve (s : Settings) (useCache : Bool) (id : String) :
    StorePlan (Except Failure Resolution) :=
  .clock fun started =>
    if useCache then
      .lookup id fun
        | some body =>
          if Json.isDocument body then
            .lap "served from cache" <|
            -- the time that this request took takes the place of the one that was kept
            .clock fun now => .done (.ok (.cached (Took.patch body (now.since started))))
          else .evict id <| .note (.evictedCorrupt id) <| fresh s useCache started id
        | none => fresh s useCache started id
    else fresh s useCache started id

/-- Finds the local record of a DOI. -/
def resolveDoi (doi : String) : StorePlan (Except Failure String) :=
  .call (.idForDoi doi) fun (answer : Except Failure String) => .done answer

end CitationFusion
