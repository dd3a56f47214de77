import CitationFusion.Http
import CitationFusion.Text.Ascii
import CitationFusion.Json.Write
import CitationFusion.Service

/-!
# The resources of the service

A path is matched as it is sent, without leniency: letters count, and so does a slash at the end.
A record has one segment of the path, a DOI all the rest of it; neither is ever empty. Only then
its escapes are read, and what they write has to be UTF-8.

Every resource but the cache is read by `GET` and `HEAD`; the cache is emptied by `DELETE`.
-/

namespace CitationFusion.Http

/-- A resource. -/
inductive Route where
  | index
  | health
  | info
  /-- A local record, its identifier still escaped. -/
  | record (segment : List Char)
  /-- A DOI, still escaped. -/
  | doi (path : List Char)
  | cacheSize
  | cache
  deriving DecidableEq, Repr

/-- What follows a text at the beginning of another. -/
def behind (start path : List Char) : Option (List Char) :=
  if start.isPrefixOf path then some (path.drop start.length) else none

/-- The resource at a path. -/
def Route.ofPath (path : List Char) : Option Route :=
  if path = "/".toList then some .index
  else if path = "/health".toList then some .health
  else if path = "/info".toList then some .info
  else if path = "/cache/size".toList then some .cacheSize
  else if path = "/cache".toList then some .cache
  else
    match behind "/id/".toList path with
    | some segment =>
      if segment.isEmpty || segment.contains '/' then none else some (.record segment)
    | none =>
      match behind "/doi/".toList path with
      | some rest => if rest.isEmpty then none else some (.doi rest)
      | none => none

/-- The methods of a resource. -/
def Route.methods : Route → List String
  | .cache => ["DELETE"]
  | _ => ["GET", "HEAD"]

/-- The text that an escaped part of a path writes. -/
def unescape? (part : List Char) : Option String :=
  Utf8.text? (Percent.decode (Utf8.encode part))

/-! ## 1. Answers -/

/-- What the service says of itself. -/
def indexText : String :=
  "ckit citation fusion service\n\n" ++
  "GET    /id/\x7bid\x7d      index data fused with citing and cited documents\n" ++
  "GET    /doi/\x7bdoi\x7d    redirect to the local id carrying the DOI\n" ++
  "GET    /info         store sizes\n" ++
  "GET    /health       store health\n" ++
  "GET    /cache/size   number of cached responses\n" ++
  "DELETE /cache        flush cached responses\n"

/-- A failure as a JSON document. -/
def failureBody (code message : String) : Bytes :=
  Json.writeObject
    [ Json.writeMember "error_code" (Json.writeString code),
      Json.writeMember "message" (Json.writeString message) ]

/-- The answer to a request that failed, and what is logged of it. -/
def ofFailure : Failure → Answer × List Event
  | .notFound message => (.ofBody 404 json (failureBody "not_found" message), [])
  | .canceled => (.bare 408, [.canceled])
  | .storage message =>
    let text := (Failure.storage message).text
    (.ofBody 500 json (failureBody "backing_store_unavailable" text), [.storeFailed text])
  | .indexData message =>
    let text := (Failure.indexData message).text
    (.ofBody 500 json (failureBody "backing_store_unavailable" text), [.storeFailed text])
  | .invariant message =>
    (.ofBody 500 json (failureBody "invariant_violation" (Failure.invariant message).text), [])
  | .encoding message =>
    let text := (Failure.encoding message).text
    (.ofBody 500 json (failureBody "internal_error" text), [.encodingFailed text])

/-- The answer for a record. -/
def ofResolution (r : Resolution) : Answer :=
  let status := match r with
    | .noRelated _ _ => 404
    | .cached _ | .resolved _ => 200
  .ofBody status json r.body

/-- Where a local record is found. -/
def recordPath (id : String) : String :=
  "/id/" ++ ((Utf8.text? (Percent.encode Percent.isUnreserved (Utf8.ofString id))).getD "")

/-- The answer for a DOI that a local record stands for. -/
def toRecord (id : String) : Answer :=
  match headerValue? (recordPath id) with
  | some location => .redirect location
  | none => .ofBody 500 json (failureBody "invalid_identifier" "failed to parse header value")

/-- The answer to a path whose escapes do not write UTF-8. -/
def badEscapes (parameter : String) : Answer :=
  .ofBody 400 plainText
    (Utf8.ofString ("Invalid URL: Invalid UTF-8 in `" ++ parameter ++ "`"))

/-! ## 2. Requests -/

variable {σ : Type}

/-- What becomes of a request over HTTP: its answer, unless it is broken off. -/
abbrev Served (σ : Type) : Type := Option Answer × Session σ × List Event

/-- The answer of a request that ends with a verdict. -/
def settle {α : Type} (ofAnswer : α → Answer) (v : Verdict α) (s : Session σ)
    (events : List Event) : Served σ :=
  match v with
  | .clockOverflow => (none, s, events)
  | .answered (.ok a) => (some (ofAnswer a), s, events)
  | .answered (.error failure) =>
    let (answer, more) := ofFailure failure
    (some answer, s, events ++ more)

/-- Answers a request for a record. -/
def serveRecord (x : Executor σ) (segment : List Char) (s : Session σ) : Served σ :=
  match unescape? segment with
  | none => (some (badEscapes "id"), s, [])
  | some id =>
    let (v, s, events) := s.resolve x id
    settle ofResolution v s events

/-- Answers a request for a DOI. -/
def serveDoi (x : Executor σ) (path : List Char) (s : Session σ) : Served σ :=
  match unescape? path with
  | none => (some (badEscapes "doi"), s, [])
  | some doi =>
    let (v, s) := s.resolveDoi x doi
    settle toRecord v s []

/-- Answers a request for the health of the stores. -/
def serveHealth (x : Executor σ) (s : Session σ) : Served σ :=
  match s.ping x with
  | (.answered (.error failure), s) =>
    (some (.ofBody 503 json (failureBody "store_unavailable" failure.text)), s,
      [.healthFailed failure.text])
  | (v, s) => settle (fun report => .ofBody 200 json report.write) v s []

/-- Answers a request for the sizes of the stores. -/
def serveInfo (x : Executor σ) (s : Session σ) : Served σ :=
  let (v, s) := s.info x
  settle (fun sizes => .ofBody 200 json sizes.write) v s []

/-- Answers a request for the size of the cache. -/
def serveCacheSize (s : Session σ) : Served σ :=
  match s.cacheSize with
  | some count =>
    (some (.ofBody 200 json (Json.writeObject [Json.writeMember "count" (Json.writeNat count)])),
      s, [])
  | none => (some (.bare 200), s, [])

/-- Empties the cache. -/
def serveFlush (s : Session σ) : Served σ :=
  let (_, s, events) := s.flushCache
  (some (.bare 204), s, events)

/-- Answers a request for a resource. -/
def Route.serve (x : Executor σ) (s : Session σ) : Route → Served σ
  | .index => (some (.ofBody 200 plainText (Utf8.ofString indexText)), s, [])
  | .health => serveHealth x s
  | .info => serveInfo x s
  | .record segment => serveRecord x segment s
  | .doi path => serveDoi x path s
  | .cacheSize => serveCacheSize s
  | .cache => serveFlush s

/-- The answer to a method that asks for the headers alone. -/
def withoutBody (a : Answer) : Answer := { a with body := [] }

/-- Answers a request. -/
def serve (x : Executor σ) (request : Request) (s : Session σ) : Served σ :=
  match Route.ofPath (pathOf request.target.toList) with
  | none => (some (.bare 404), s, [])
  | some route =>
    if route.methods.contains request.method then
      let (answer, s, events) := route.serve x s
      (if request.method == "HEAD" then answer.map withoutBody else answer, s, events)
    else (some (.notAllowed (",".intercalate route.methods)), s, [])

end CitationFusion.Http
