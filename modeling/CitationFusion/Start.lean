import CitationFusion.Backends
import CitationFusion.CommandLine
import CitationFusion.Config.Read
import CitationFusion.LogFilter

/-!
# Starting

The configuration is read, and the address to listen at is read from it. Then the stores are
connected and have to answer. After that the program reports the sizes of the stores, if it is
asked to, or listens. The first step that fails ends the start.

What needs no network is `Start.prepare`; the rest is the plan `Start.launch`.
-/

namespace CitationFusion

namespace Start

/-- Why a start fails. -/
inductive Failure where
  | config (fault : Config.Fault)
  /-- What to listen at is no address. -/
  | address
  | service (failure : CitationFusion.Failure)
  | listen (fault : ListenFault)
  deriving Repr

/-- The wording of a failure. -/
def Failure.text : Failure → String
  | .config fault => fault.text
  | .address => SocketAddress.invalidText
  | .service failure => failure.text
  | .listen fault => fault.text

/-- The code that the program ends with when its start fails. -/
def failureCode : Nat := 1

/-- What events at the start are about. -/
def target : String := "ckit_api"

/-- How a start ends. -/
inductive Outcome where
  /-- The sizes of the stores are reported. -/
  | measured (sizes : StoreSizes)
  | listening (backends : Backends)

end Start

/-- A start that needs nothing but the network. -/
structure Start where
  config : Config
  address : SocketAddress
  filter : LogFilter
  /-- Whether the sizes of the stores are wanted. -/
  info : Bool

namespace Start

/-- Prepares a start under the content of the configuration file, if there is one. -/
def prepare (c : CommandLine) (content : Option Bytes) : Except Failure Start :=
  match Config.load c.config content with
  | .error fault => .error (.config fault)
  | .ok config =>
    match SocketAddress.parse? config.service.httpBind with
    | none => .error .address
    | some address => .ok ⟨config, address, .ofSetting config.service.logLevel, c.info⟩

/-- Ends a start whose stores answer. -/
def finish (s : Start) (b : Backends) : WirePlan (Except Failure Outcome) :=
  if s.info then
    (b.wire (measure b.abilities.counts)).map fun
      | .ok sizes => .ok (.measured sizes)
      | .error failure => .error (.service failure)
  else
    .call (.listen s.address) fun (answer : Except ListenFault Unit) =>
      match answer with
      | .ok () => .note (.listening s.address.text) (.done (.ok (.listening b)))
      | .error fault => .done (.error (.listen fault))

/-- Connects the stores, asks whether they answer, and ends the start. -/
def launch (s : Start) : WirePlan (Except Failure Outcome) :=
  (Backends.connect s.config).bind fun
    | .error failure => .done (.error (.service failure))
    | .ok b =>
      (b.wire (checkHealth b.abilities.pings)).bind fun
        | .error failure => .done (.error (.service failure))
        | .ok report => .note (.storesReachable report.indexData) (s.finish b)

/-- The service that a start leads to. -/
def service (s : Start) (b : Backends) : Service :=
  ⟨s.config.settings, s.config.cache.enabled, b.abilities⟩

/-- Whether an event of the start is logged. -/
def logs (s : Start) (e : Event) : Bool := s.filter.shows target e

end Start

end CitationFusion
