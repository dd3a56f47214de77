import CitationFusion.Http
import CitationFusion.Plan
import CitationFusion.Postgres.Address

/-!
# Calls over the network

The stores live elsewhere, and everything that is done to reach them is one of a few calls: a
login to a database, a statement, a request over HTTP, and listening for clients. A `WirePlan`
is a plan of such calls; who answers them is not known to it.
-/

namespace CitationFusion

namespace Postgres

/-- A value that is bound to a statement. -/
inductive Value where
  | text (s : String)
  | number (n : Int)
  | texts (list : List String)
  deriving DecidableEq, Repr

/-- A statement and the values bound to it. -/
structure Statement where
  sql : String
  values : List Value
  deriving DecidableEq, Repr

/-- A value in a column of a row. -/
inductive Cell where
  | text (s : String)
  | number (n : Int)
  deriving DecidableEq, Repr

/-- A row of a result. -/
abbrev Row : Type := List Cell

/-- A bounded number of connections to one database. -/
structure Pool where
  /-- Tells pools apart, also those of one database. -/
  number : Nat
  address : Address
  /-- How many connections there may be. -/
  size : Nat
  deriving DecidableEq, Repr

end Postgres

/-- Why an address cannot be listened at. -/
inductive ListenFault where
  | taken
  | foreign
  deriving DecidableEq, Repr

/-- The wording of a fault. -/
def ListenFault.text : ListenFault → String
  | .taken => "Address already in use (os error 98)"
  | .foreign => "Cannot assign requested address (os error 99)"

/-- A call over the network. -/
inductive WireCall where
  /-- The first connection of a pool. -/
  | login (pool : Postgres.Pool)
  /-- A statement on a connection of a pool. -/
  | execute (pool : Postgres.Pool) (statement : Postgres.Statement)
  /-- A request for what a URL stands for. -/
  | get (url : Url)
  | listen (address : SocketAddress)
  deriving DecidableEq, Repr

/-- What is answered; `none` to a request that cannot be sent or has no answer. -/
abbrev WireCall.Answer : WireCall → Type
  | .login _ => Except Postgres.Fault Unit
  | .execute _ _ => Except Postgres.Fault (List Postgres.Row)
  | .get _ => Option Http.Reply
  | .listen _ => Except ListenFault Unit

/-- A plan of calls over the network. -/
abbrev WirePlan (α : Type) : Type := Plan WireCall WireCall.Answer α

end CitationFusion
