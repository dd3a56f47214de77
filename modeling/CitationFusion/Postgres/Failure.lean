import CitationFusion.Failure

/-!
# Why a database does not answer

What a database says becomes a failure of the request that asked. Only a row that is not there
is told apart from the rest.
-/

namespace CitationFusion.Postgres

/-- Why a statement has no result. -/
inductive Fault where
  /-- A row was expected and there is none. -/
  | rowNotFound
  | columnNotFound (name : String)
  /-- A column holds another kind of value. -/
  | columnMismatch (name : String)
  /-- No connection could be had in time. -/
  | poolTimedOut
  /-- The address of the database is wrong. -/
  | configuration (message : String)
  /-- The database refused. -/
  | returned (message : String)
  /-- The connection was closed instead of an answer. -/
  | disconnected
  /-- The database does not encrypt, and the address asks for it. -/
  | unencrypted
  deriving DecidableEq, Repr

/-- The wording of a fault. -/
def Fault.text : Fault → String
  | .rowNotFound => "no rows returned by a query that expected to return at least one row"
  | .columnNotFound name => "no column found for name: " ++ name
  | .columnMismatch name => "error occurred while decoding column " ++ name ++ ": mismatched types"
  | .poolTimedOut => "pool timed out while waiting for an open connection"
  | .configuration message => "error with configuration: " ++ message
  | .returned message => "error returned from database: " ++ message
  | .disconnected =>
    "error communicating with database: expected to read 5 bytes, got 0 bytes at EOF"
  | .unencrypted =>
    "error occurred while attempting to establish a TLS connection: server does not support TLS"

/-- Why a store in a database does not answer. -/
inductive Failure where
  | database (fault : Fault)
  | notFound (message : String)
  deriving DecidableEq, Repr

namespace Failure

/-- The wording of a failure. -/
def text : Failure → String
  | .database fault => fault.text
  | .notFound message => "Not found: " ++ message

/-- The failure of the request that asked. -/
def toFailure : Failure → CitationFusion.Failure
  | .database fault => .storage fault.text
  | .notFound message => .notFound message

/-- The failure of the request that asked for the metadata of a record. -/
def toFetchFailure (id : String) : Failure → FetchFailure
  | .database fault => .backend fault.text
  | .notFound _ => .notFound id

end Failure

end CitationFusion.Postgres
