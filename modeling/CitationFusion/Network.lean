import CitationFusion.StringSet
import CitationFusion.Wire

/-!
# A network by script

The servers of this network answer what they were told to, and remember what they were asked.

* A database goes through its cues in order and answers with the first one that fits a
  statement. Without one it answers plausibly: one to `SELECT 1`, zero to a count, and no rows to
  anything else. Nothing is evaluated, and a transaction begins and ends without a question.
* A service over HTTP has an answer for each target, and finds nothing at any other.

Every answer takes a moment. Who asks for a connection where there is none waits for as long as
pools wait.
-/

namespace CitationFusion

/-- What a database does with a statement. -/
inductive Reaction where
  | rows (list : List Postgres.Row)
  | refusal (message : String)
  /-- The connection is closed instead of an answer. -/
  | hangUp
  /-- There is never an answer. -/
  | silence
  deriving DecidableEq, Repr

/-- What a database does with statements of a kind. -/
structure Cue where
  /-- A part of their text. -/
  part : String
  /-- The values bound to them, if those matter. -/
  values : Option (List Postgres.Value)
  /-- Whether the cue fits one statement only. -/
  once : Bool
  reaction : Reaction
  deriving DecidableEq, Repr

/-- A database that answers by script. -/
structure DatabaseServer where
  host : String
  /-- The code and the message with which every login fails. -/
  refusal : Option (String × String)
  cues : List Cue
  executed : List Postgres.Statement
  logins : StringSet

/-- A service over HTTP that answers by script. -/
structure Website where
  /-- Host and port, as in URLs. -/
  address : String
  routes : List (String × Http.Reply)
  requests : List String

/-- The servers of a network. -/
structure Network where
  databases : List DatabaseServer
  website : Option Website
  /-- The addresses that others listen at. -/
  taken : List SocketAddress
  /-- The pools that wait for an answer, once for each connection that does. -/
  waiting : List Nat

/-! ## 1. Databases -/

/-- Whether a text is part of another one. -/
def occursIn (part : List Char) : List Char → Bool
  | [] => part.isEmpty
  | c :: r => part.isPrefixOf (c :: r) || occursIn part r

/-- Whether a cue fits a statement. -/
def Cue.fits (c : Cue) (s : Postgres.Statement) : Bool :=
  occursIn c.part.toList s.sql.toList &&
    match c.values with
    | none => true
    | some values => values == s.values

/-- What a database does with a statement that no cue fits. -/
def Reaction.standard (sql : String) : Reaction :=
  if sql == "SELECT 1" then .rows [[.number 1]]
  else if occursIn "count(*)".toList sql.toList then .rows [[.number 0]]
  else .rows []

/-- The reaction to a statement by the first cue that fits, and the cues that are left. -/
def takeCue (s : Postgres.Statement) : List Cue → Reaction × List Cue
  | [] => (.standard s.sql, [])
  | c :: rest =>
    if c.fits s then (c.reaction, if c.once then rest else c :: rest)
    else
      let (reaction, rest) := takeCue s rest
      (reaction, c :: rest)

/-- Whether a statement begins or ends a transaction. -/
def isBracket (s : Postgres.Statement) : Bool := s.sql == "BEGIN" || s.sql == "COMMIT"

/-- What a database does with a statement. -/
def DatabaseServer.react (d : DatabaseServer) (s : Postgres.Statement) :
    Reaction × DatabaseServer :=
  let d := { d with executed := d.executed ++ [s] }
  if isBracket s then (.rows [], d)
  else
    let (reaction, cues) := takeCue s d.cues
    (reaction, { d with cues })

/-- The codes of refusals that may pass, so that a login is tried again and again. -/
def transientCodes : List String := ["53300", "57P03"]

/-! ## 2. Services over HTTP -/

/-- The statuses that never have a body. -/
def hasNoBody (status : Nat) : Bool := status == 204 || status == 304

/-- The answer of a service to a request for a target. -/
def Website.reply (w : Website) (target : String) : Http.Reply :=
  match w.routes.find? (·.1 == target) with
  | none => ⟨404, []⟩
  | some (_, reply) => if hasNoBody reply.status then { reply with body := [] } else reply

/-- Where a URL is served. -/
def servedAt (u : Url) : Option String :=
  if u.scheme == Utf8.ofString "http" then u.authority.map fun a => asciiText a.write else none

/-- The target of a request for what a URL stands for. -/
def targetOf (u : Url) : String := asciiText u.writeTarget

/-! ## 3. The network -/

namespace Network

/-- How long an answer takes. -/
def moment : Duration := .ofNanos 1

/-- How long a pool waits for a connection. -/
def patience : Duration := .ofSecs 30

/-- An answer after a moment. -/
def soon {α : Type} (answer : α) : Plan.Delivery α := ⟨some moment, answer⟩

/-- No connection could be had. -/
def exhausted {α : Type} : Plan.Delivery (Except Postgres.Fault α) :=
  ⟨some patience, .error .poolTimedOut⟩

/-- Whether all connections of a pool wait for an answer. -/
def isBusy (n : Network) (p : Postgres.Pool) : Bool := p.size ≤ n.waiting.count p.number

/-- The place of the database at an address. -/
def place? (n : Network) (a : Postgres.Address) : Option Nat :=
  if a.port == Postgres.standardPort then n.databases.findIdx? (·.host == a.host) else none

/-- A database, changed. -/
def withDatabase (n : Network) (place : Nat) (d : DatabaseServer) : Network :=
  { n with databases := n.databases.set place d }

/-- Opens the first connection of a pool. -/
def login (n : Network) (p : Postgres.Pool) :
    Network × Plan.Delivery (Except Postgres.Fault Unit) :=
  match n.place? p.address with
  | none => (n, exhausted)
  | some place =>
    match n.databases[place]? with
    | none => (n, exhausted)
    | some d =>
      if p.size == 0 then (n, exhausted)
      else if p.address.encryption == .always then (n, soon (.error .unencrypted))
      else
        let n := n.withDatabase place { d with logins := d.logins.insert p.address.login }
        match d.refusal with
        | none => (n, soon (.ok ()))
        | some (code, message) =>
          if transientCodes.contains code then (n, exhausted)
          else (n, soon (.error (.returned message)))

/-- Runs a statement. -/
def execute (n : Network) (p : Postgres.Pool) (s : Postgres.Statement) :
    Network × Plan.Delivery (Except Postgres.Fault (List Postgres.Row)) :=
  if n.isBusy p then (n, exhausted)
  else
    match n.place? p.address with
    | none => (n, exhausted)
    | some place =>
      match n.databases[place]? with
      | none => (n, exhausted)
      | some d =>
        let (reaction, d) := d.react s
        let n := n.withDatabase place d
        match reaction with
        | .rows list => (n, soon (.ok list))
        | .refusal message => (n, soon (.error (.returned message)))
        | .hangUp => (n, soon (.error .disconnected))
        -- a statement that is never answered keeps its connection
        | .silence => ({ n with waiting := p.number :: n.waiting }, ⟨none, .error .disconnected⟩)

/-- Sends a request over HTTP. -/
def get (n : Network) (u : Url) : Network × Plan.Delivery (Option Http.Reply) :=
  match n.website with
  | none => (n, soon none)
  | some w =>
    if servedAt u == some w.address then
      let target := targetOf u
      ({ n with website := some { w with requests := w.requests ++ ["GET " ++ target] } },
        soon (some (w.reply target)))
    else (n, soon none)

/-- Whether an address is one of this machine. -/
def isOwn : IpAddress → Bool
  | .v4 a b c d => a == 127 || (a == 0 && b == 0 && c == 0 && d == 0)
  | .v6 pieces => pieces == [0, 0, 0, 0, 0, 0, 0, 1] || pieces == List.replicate 8 0

/-- Listens at an address. -/
def listen (n : Network) (a : SocketAddress) : Plan.Delivery (Except ListenFault Unit) :=
  if !isOwn a.ip then soon (.error .foreign)
  else if n.taken.contains a then soon (.error .taken)
  else soon (.ok ())

/-- Answers a call. -/
def respond (n : Network) : (call : WireCall) → Network × Plan.Delivery call.Answer
  | .login pool => n.login pool
  | .execute pool statement => n.execute pool statement
  | .get url => n.get url
  | .listen address => (n, n.listen address)

/-- The network as what answers plans. -/
def world : Plan.World WireCall WireCall.Answer Network := ⟨respond⟩

/-- A network without servers. -/
def empty : Network := ⟨[], none, [], []⟩

/-- The network, having forgotten what it was asked, but not who logged in. -/
def forget (n : Network) : Network :=
  { n with
    databases := n.databases.map fun d => { d with executed := [] }
    website := n.website.map fun w => { w with requests := [] } }

end Network

/-- Follows a plan of calls over a network from a time on, without a deadline. -/
def WirePlan.follow {α : Type} (plan : WirePlan α) (now : Instant) (n : Network) :
    Plan.Ending α × Plan.Scene Network :=
  Plan.run Network.world none plan ⟨now, n, .empty, .start false now, []⟩

end CitationFusion
