import CitationFusion.Text.Utf8

/-!
# HTTP messages

As much of a request and of an answer as the service has to do with.
-/

namespace CitationFusion.Http

/-- A request. -/
structure Request where
  method : String
  /-- The target: a path with what follows it, or an absolute URI. -/
  target : String
  deriving DecidableEq, Repr

/-- The headers of an answer that the service sets. -/
structure Headers where
  contentType : Option String
  location : Option String
  allow : Option String
  deriving DecidableEq, Repr

/-- A text as the value of a header, which holds no control characters but tabs. -/
def headerValue? (t : String) : Option String :=
  if (Utf8.ofString t).all fun b => 0x20 ≤ b.toNat && b.toNat != 0x7F || b.toNat == 0x09 then
    some t
  else none

/-- An answer. -/
structure Answer where
  status : Nat
  headers : Headers
  body : Bytes
  deriving DecidableEq, Repr

/-- The content type of JSON documents. -/
def json : String := "application/json"

/-- The content type of plain text. -/
def plainText : String := "text/plain; charset=utf-8"

namespace Answer

/-- An answer without a body. -/
def bare (status : Nat) : Answer := ⟨status, ⟨none, none, none⟩, []⟩

/-- An answer with a body. -/
def ofBody (status : Nat) (contentType : String) (body : Bytes) : Answer :=
  ⟨status, ⟨some contentType, none, none⟩, body⟩

/-- An answer that sends the client elsewhere, to be asked in the same way. -/
def redirect (location : String) : Answer := ⟨307, ⟨none, some location, none⟩, []⟩

/-- An answer to a method that the resource does not have. -/
def notAllowed (methods : String) : Answer := ⟨405, ⟨none, none, some methods⟩, []⟩

end Answer

/-- What another service answers to the service. -/
structure Reply where
  status : Nat
  body : Bytes
  deriving DecidableEq, Repr

/-- The path of a request target: of an absolute URI, what follows the authority. -/
def pathOf (target : List Char) : List Char :=
  let upTo (cs : List Char) := cs.takeWhile (fun c => c != '?' && c != '#')
  match target with
  | '/' :: _ => upTo target
  | _ =>
    match (target.dropWhile (· != ':')) with
    | ':' :: '/' :: '/' :: rest =>
      let path := upTo (rest.dropWhile (fun c => c != '/' && c != '?' && c != '#'))
      if path.isEmpty then ['/'] else path
    | _ => upTo target

/-- The standard reason phrase of a status. -/
def reason? : Nat → Option String
  | 100 => some "Continue" | 101 => some "Switching Protocols" | 102 => some "Processing"
  | 103 => some "Early Hints"
  | 200 => some "OK" | 201 => some "Created" | 202 => some "Accepted"
  | 203 => some "Non Authoritative Information" | 204 => some "No Content"
  | 205 => some "Reset Content" | 206 => some "Partial Content" | 207 => some "Multi-Status"
  | 208 => some "Already Reported" | 226 => some "IM Used"
  | 300 => some "Multiple Choices" | 301 => some "Moved Permanently" | 302 => some "Found"
  | 303 => some "See Other" | 304 => some "Not Modified" | 305 => some "Use Proxy"
  | 307 => some "Temporary Redirect" | 308 => some "Permanent Redirect"
  | 400 => some "Bad Request" | 401 => some "Unauthorized" | 402 => some "Payment Required"
  | 403 => some "Forbidden" | 404 => some "Not Found" | 405 => some "Method Not Allowed"
  | 406 => some "Not Acceptable" | 407 => some "Proxy Authentication Required"
  | 408 => some "Request Timeout" | 409 => some "Conflict" | 410 => some "Gone"
  | 411 => some "Length Required" | 412 => some "Precondition Failed"
  | 413 => some "Payload Too Large" | 414 => some "URI Too Long"
  | 415 => some "Unsupported Media Type" | 416 => some "Range Not Satisfiable"
  | 417 => some "Expectation Failed" | 418 => some "I'm a teapot"
  | 421 => some "Misdirected Request" | 422 => some "Unprocessable Entity"
  | 423 => some "Locked" | 424 => some "Failed Dependency" | 425 => some "Too Early"
  | 426 => some "Upgrade Required" | 428 => some "Precondition Required"
  | 429 => some "Too Many Requests" | 431 => some "Request Header Fields Too Large"
  | 451 => some "Unavailable For Legal Reasons"
  | 500 => some "Internal Server Error" | 501 => some "Not Implemented"
  | 502 => some "Bad Gateway" | 503 => some "Service Unavailable"
  | 504 => some "Gateway Timeout" | 505 => some "HTTP Version Not Supported"
  | 506 => some "Variant Also Negotiates" | 507 => some "Insufficient Storage"
  | 508 => some "Loop Detected" | 510 => some "Not Extended"
  | 511 => some "Network Authentication Required"
  | _ => none

end CitationFusion.Http
