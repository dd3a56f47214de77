import CitationFusion.Failure
import CitationFusion.Json.Record
import CitationFusion.Url.Parse
import CitationFusion.Wire

/-!
# Index data services

A service over HTTP answers the metadata of a record at a URL of its own: that of the service
with the identifier as one more segment. At the segment `count` it answers how many records it
has, and at its own URL anything, if it is well.

A request never carries the user that the URL of the service names in its target, and messages
about a request leave it out.

A service fails to be reached, answers a status that stands for a failure, or answers something
unusable. Only a record that is not there is told apart from the rest.
-/

namespace CitationFusion

/-- A service over HTTP, by its URL. -/
structure IndexService where
  base : Url
  deriving DecidableEq, Repr

namespace IndexService

/-! ## 1. Failures -/

/-- Why an index data service does not answer. -/
inductive Failure where
  /-- The request failed as such. -/
  | transport (message : String)
  | notFound (id : String)
  /-- The address of the service is wrong. -/
  | invalidConfig (message : String)
  | invalidResponse (message : String)
  deriving DecidableEq, Repr

namespace Failure

/-- The wording of a failure. -/
def text : Failure → String
  | .transport message => message
  | .notFound id => noIndexData id
  | .invalidConfig message => message
  | .invalidResponse message => message

/-- The failure of the request that asked. -/
def toFailure (f : Failure) : CitationFusion.Failure :=
  match f with
  | .notFound id => .notFound (noIndexData id)
  | other => .indexData other.text

/-- The failure of the request that asked for the metadata of a record. -/
def toFetchFailure (f : Failure) : FetchFailure :=
  match f with
  | .notFound id => .notFound id
  | other => .backend other.text

end Failure

/-! ## 2. Services -/

/-- The service at a URL. -/
def ofText (base : String) : Except Failure IndexService :=
  match Url.parse base with
  | .error fault =>
    .error (.invalidConfig
      ("Invalid index data URL " ++ Text.quote base ++ ": " ++ fault.text ++ "."))
  | .ok url =>
    if url.isBase then .ok ⟨url⟩
    else .error (.invalidConfig ("Index data URL " ++ url.text ++ " cannot be used as a base."))

/-- The URL of a record. -/
def blobUrl (s : IndexService) (id : String) : Url := s.base.extend id

/-! ## 3. Requests -/

/-- A URL without the user that it names. -/
def withoutUser (url : Url) : Url :=
  { url with authority := url.authority.map fun a => { a with username := [], password := none } }

/-- A status with its standard reason. -/
def statusText (status : Nat) : String :=
  toString status ++ " " ++ (Http.reason? status).getD "<unknown status code>"

/-- What is wrong with a status, if it stands for a failure. -/
def statusProblem? (status : Nat) (url : Url) : Option Failure :=
  let problem (side : String) : Failure :=
    .transport ("HTTP status " ++ side ++ " error (" ++ statusText status ++ ") for url (" ++
      url.text ++ ")")
  if 400 ≤ status && status < 500 then some (problem "client")
  else if 500 ≤ status && status < 600 then some (problem "server")
  else none

/-- Sends a request and goes on with its answer. -/
def request {α : Type} (url : Url)
    (next : Url → Http.Reply → WirePlan (Except Failure α)) : WirePlan (Except Failure α) :=
  let url := withoutUser url
  .call (.get url) fun (answer : Option Http.Reply) =>
    match answer with
    | none => .done (.error (.transport ("error sending request for url (" ++ url.text ++ ")")))
    | some reply => next url reply

/-- Answers what was read from a reply, unless its status stands for a failure. -/
def unlessFailed {α : Type} (url : Url) (reply : Http.Reply) (read : Except Failure α) :
    Except Failure α :=
  match statusProblem? reply.status url with
  | some failure => .error failure
  | none => read

/-! ## 4. What is asked -/

/-- The metadata of a record. -/
def fetch (s : IndexService) (id : String) : WirePlan (Except Failure Bytes) :=
  request (s.blobUrl id) fun url reply =>
    .done (if reply.status == 404 then .error (.notFound id)
      else unlessFailed url reply (.ok reply.body))

/-- Whether the service answers. -/
def ping (s : IndexService) : WirePlan (Except Failure Unit) :=
  request s.base fun url reply => .done (unlessFailed url reply (.ok ()))

/-- How the answer to a count is read. -/
def countShape : Json.Shape (Option Nat) Nat :=
  { name := "CountResponse"
    slots := [.required "count" id (fun _ n => some n) (Json.readNat "u64")]
    draft := none
    build := Json.required "count" }

/-- The wording of an answer to a count that cannot be read. -/
def malformedCount : Failure :=
  .invalidResponse "Index data count response is malformed: error decoding response body."

/-- The number of records. -/
def count (s : IndexService) : WirePlan (Except Failure Nat) :=
  request (s.blobUrl "count") fun url reply =>
    .done (unlessFailed url reply
      (match Json.readDocument countShape.read reply.body with
        | .ok n => .ok n
        | .error _ => .error malformedCount))

/-- The failure to ping a service, as the service itself reports it. -/
def unreachable (s : IndexService) (failure : Failure) : CitationFusion.Failure :=
  .indexData ("Could not reach index data service at " ++ s.base.text ++ ": " ++ failure.text)

end IndexService

end CitationFusion
