import CitationFusion.Text.Parts
import CitationFusion.Text.Unprintable
import CitationFusion.Service

/-!
# The configuration

What the service is told when it starts. A configuration that was read is normalised (the
addresses of HTTP backends lose the white space around them and the slashes at their end) and
then checked; the first problem found is the one that is reported.
-/

namespace CitationFusion.Config

/-! ## 1. Parts -/

/-- How the service itself behaves. -/
structure Serving where
  /-- The address to listen on. -/
  httpBind : String
  logLevel : String
  requestTimeoutMs : Nat
  /-- Whether the checkpoints of every request are logged. -/
  stopwatch : Bool
  deriving DecidableEq, Repr

/-- A database and how many connections may be open to it. -/
structure Database where
  dsn : String
  poolMaxConns : Nat
  deriving DecidableEq, Repr

/-- The databases of the identifiers and of the citations. -/
structure Storage where
  identifiers : Database
  citations : Database
  deriving DecidableEq, Repr

/-- A store of metadata. -/
inductive Backend where
  /-- A service over HTTP. -/
  | http (url : String)
  | postgres (database : Database)
  deriving DecidableEq, Repr

/-- The stores of metadata, asked in order. -/
structure IndexData where
  timeoutMs : Nat
  backends : List Backend
  deriving DecidableEq, Repr

/-- The result cache. -/
structure Caching where
  enabled : Bool
  /-- Answers that took longer are kept. -/
  triggerMs : Nat
  ttlSecs : Nat
  sweepIntervalSecs : Nat
  deriving DecidableEq, Repr

/-- No caching. -/
def Caching.standard : Caching := ⟨false, 250, 8 * 60 * 60, 300⟩

/-- The time between two sweeps. -/
def Caching.sweepInterval (c : Caching) : Duration := .ofSecs c.sweepIntervalSecs

/-- How long a service over HTTP may take. -/
def IndexData.timeout (d : IndexData) : Duration := .ofMillis d.timeoutMs

end Config

/-- A configuration. -/
structure Config where
  service : Config.Serving
  storage : Config.Storage
  indexData : Config.IndexData
  cache : Config.Caching
  deriving DecidableEq, Repr

namespace Config

/-- How requests are treated under a configuration. -/
def settings (c : Config) : Settings where
  requestTimeout := .ofMillis c.service.requestTimeoutMs
  stopwatch := c.service.stopwatch
  cacheTrigger := .ofMillis c.cache.triggerMs
  cacheTtl := .ofSecs c.cache.ttlSecs

/-! ## 2. Problems -/

/-- What is wrong with a configuration. -/
inductive Problem where
  | emptyHttpBind
  | zeroRequestTimeout
  | emptyDsn (label : String)
  | zeroPool (label : String)
  | zeroIndexTimeout
  | noBackends
  | badUrl (url : String)
  | zeroTtl
  | zeroSweepInterval
  deriving DecidableEq, Repr

/-- The wording of a problem. -/
def Problem.text : Problem → String
  | .emptyHttpBind => "service.http_bind must be non-empty."
  | .zeroRequestTimeout => "service.request_timeout_ms must be greater than zero."
  | .emptyDsn label => label ++ ".dsn must be non-empty."
  | .zeroPool label => label ++ ".pool_max_conns must be greater than zero."
  | .zeroIndexTimeout => "index_data.timeout_ms must be greater than zero."
  | .noBackends => "index_data.backends must contain at least one backend."
  | .badUrl url => "index_data.backends url " ++ Text.quote url ++ " must be an http(s) URL."
  | .zeroTtl => "cache.ttl_secs must be greater than zero when the cache is enabled."
  | .zeroSweepInterval =>
    "cache.sweep_interval_secs must be greater than zero when the cache is enabled."

/-- Refuses what does not hold. -/
def demand (holds : Bool) (problem : Problem) : Except Problem Unit :=
  if holds then .ok () else .error problem

/-- Checks a database; messages call it by `label`. -/
def Database.check (label : String) (d : Database) : Except Problem Unit := do
  demand (!Text.isBlankText d.dsn) (.emptyDsn label)
  demand (d.poolMaxConns != 0) (.zeroPool label)

/-- Whether an address is one of HTTP. -/
def isHttpUrl (url : String) : Bool := "http://".isPrefixOf url || "https://".isPrefixOf url

/-- Checks a store of metadata. -/
def Backend.check : Backend → Except Problem Unit
  | .http url => demand (isHttpUrl url) (.badUrl url)
  | .postgres database => database.check "index_data.backends"

/-- Checks stores of metadata in order. -/
def checkBackends : List Backend → Except Problem Unit
  | [] => .ok ()
  | b :: rest =>
    match b.check with
    | .error problem => .error problem
    | .ok () => checkBackends rest

/-- Checks the cache, if there is one. -/
def Caching.check (c : Caching) : Except Problem Unit :=
  if c.enabled then do
    demand (c.ttlSecs != 0) .zeroTtl
    demand (c.sweepIntervalSecs != 0) .zeroSweepInterval
  else .ok ()

/-- Checks a configuration. -/
def validate (c : Config) : Except Problem Unit := do
  demand (!Text.isBlankText c.service.httpBind) .emptyHttpBind
  demand (c.service.requestTimeoutMs != 0) .zeroRequestTimeout
  c.storage.identifiers.check "storage.identifiers"
  c.storage.citations.check "storage.citations"
  demand (c.indexData.timeoutMs != 0) .zeroIndexTimeout
  demand (!c.indexData.backends.isEmpty) .noBackends
  checkBackends c.indexData.backends
  c.cache.check

/-! ## 3. Normal form -/

/-- An address without the white space around it and the slashes at its end. -/
def trimUrl (url : String) : String :=
  String.ofList (Text.dropEnd (· == '/') (Text.trim url.toList))

/-- A store of metadata with its address in normal form. -/
def Backend.normalize : Backend → Backend
  | .http url => .http (trimUrl url)
  | .postgres database => .postgres database

/-- A configuration with its addresses in normal form. -/
def normalize (c : Config) : Config :=
  { c with
    indexData := { c.indexData with backends := c.indexData.backends.map Backend.normalize } }

end Config

end CitationFusion
