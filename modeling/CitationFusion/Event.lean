import CitationFusion.Decimal.Layout
import CitationFusion.Failure
import CitationFusion.Report

/-!
# What is logged

Every event has a level, a message, and fields of its own.
-/

namespace CitationFusion

/-- How much an event matters. -/
inductive Level where
  | error
  | warn
  | info
  | debug
  | trace
  deriving DecidableEq, Repr

/-- The name of a level. -/
def Level.name : Level → String
  | .error => "ERROR"
  | .warn => "WARN"
  | .info => "INFO"
  | .debug => "DEBUG"
  | .trace => "TRACE"

/-- The value of a field. -/
inductive FieldValue where
  | text (s : String)
  | count (n : Nat)
  | number (x : Binary64)
  deriving DecidableEq, Repr

/-- What can be logged. -/
inductive Event where
  /-- A cache entry was no JSON document. -/
  | evictedCorrupt (id : String)
  /-- The stores contradict each other. -/
  | violated (message : String)
  /-- A checkpoint of a request. -/
  | lap (id : String) (step : Nat) (delta total : Duration) (message : String)
  | flushed
  /-- The sweeper removed expired entries. -/
  | swept (removed : Nat)
  | healthFailed (error : String)
  | canceled
  | storeFailed (error : String)
  | encodingFailed (error : String)
  /-- The stores answer when the program starts. -/
  | storesReachable (indexData : StoreStatus)
  /-- The program serves requests. -/
  | listening (address : String)
  deriving DecidableEq, Repr

namespace Event

/-- The level of an event. -/
def level : Event → Level
  | .evictedCorrupt _ => .warn
  | .violated _ | .healthFailed _ | .storeFailed _ | .encodingFailed _ => .error
  | .lap .. | .flushed | .storesReachable _ | .listening _ => .info
  | .swept _ | .canceled => .debug

/-- The message of an event. -/
def message : Event → String
  | .evictedCorrupt _ => "Evicted corrupt cache entry."
  | .violated message => message
  | .lap _ _ _ _ message => message
  | .flushed => "Flushed result cache."
  | .swept _ => "Swept expired cache entries."
  | .healthFailed _ => "Health check failed."
  | .canceled => "Request canceled."
  | .storeFailed _ => "Backing store failed."
  | .encodingFailed _ => "Response encoding failed."
  | .storesReachable _ => "Backing stores reachable."
  | .listening _ => "HTTP server listening."

/-- The fields of an event. -/
def fields : Event → List (String × FieldValue)
  | .evictedCorrupt id => [("id", .text id)]
  | .lap id step delta total _ =>
    [("id", .text id), ("step", .count step), ("delta_ms", .number delta.millis),
     ("total_ms", .number total.millis)]
  | .swept removed => [("removed", .count removed)]
  | .healthFailed e | .storeFailed e | .encodingFailed e => [("error", .text e)]
  | .storesReachable status => [("index_data", .text status.label)]
  | .listening address => [("http_addr", .text address)]
  | .violated _ | .flushed | .canceled => []

/-- The text of a field. -/
def fieldText : String × FieldValue → String
  | (name, .text s) => " " ++ name ++ "=" ++ s
  | (name, .count n) => " " ++ name ++ "=" ++ toString n
  | (name, .number x) => " " ++ name ++ "=" ++ String.ofList (Layout.plain.write x)

/-- The line that an event about something is logged as. -/
def line (e : Event) (target : String) : String :=
  e.level.name ++ " " ++ target ++ ": " ++ e.message ++ String.join (e.fields.map fieldText)

end Event

end CitationFusion
