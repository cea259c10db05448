import CatalogBridge.Consul.Client
import CatalogBridge.Health.Listener
import CatalogBridge.Health.Router
import CatalogBridge.Settings.CommandLine
import CatalogBridge.Sync.Cycle
import CatalogBridge.Telemetry.Filter

/-!
# Starting up

From the command line to a running program: the settings are read and checked, access to the
cluster is looked for, and the clients are made. The first thing that fails ends the program with
a report. Once everything is made, only the health server can end it by itself.
-/

namespace CatalogBridge.Startup

/-- How the program ends: its exit status and what it writes on either channel. -/
structure Report where
  status : Nat
  output : List String
  complaints : List String
  deriving DecidableEq, Repr

/-- Whether there is a way to the cluster. -/
inductive ClusterAccess where
  | missing (reason : String)
  | found
  deriving DecidableEq, Repr

/-- This build. -/
def build : Health.Build := ⟨"0.1.0", "unknown"⟩

/-- One option in the help. -/
def helpLine (flag : Flag) : String :=
  "      " ++ flag.usage ++
    (match flag.default? with
      | some value => " [env: " ++ flag.envName ++ "] [default: " ++ value ++ "]"
      | none => " [env: " ++ flag.envName ++ "]")

/-- The help. -/
def helpLines : List String :=
  [CommandLine.Refusal.help.firstLine, "",
      "Usage: consul-sync [OPTIONS] " ++ Flag.consulAddr.usage, "", "Options:"]
    ++ Flag.all.map helpLine ++ ["  -h, --help     Print help", "  -V, --version  Print version"]

/-- How the program ends when its command line gives no settings. -/
def refused : CommandLine.Refusal → Report
  | .help => ⟨0, helpLines, []⟩
  | .version => ⟨0, ["consul-sync " ++ build.version ++ " (" ++ build.commit ++ ")"], []⟩
  | .aborted message => ⟨101, [], [message]⟩
  | .missing flag =>
    ⟨2, [], [(CommandLine.Refusal.missing flag).firstLine, "  " ++ flag.usage, "",
      "For more information, try '--help'."]⟩
  | refusal => ⟨2, [], [refusal.firstLine, "", "For more information, try '--help'."]⟩

/-- How the program ends with a failure. -/
def failed (error : Error) : Report := ⟨1, [], ["Error: " ++ error.message]⟩

/-- How the program ends with a failure in the course of something. -/
def failedIn (activity : String) (error : Error) : Report :=
  ⟨1, [], ["Error: " ++ activity, "", "Caused by:", "    " ++ error.message]⟩

/-- The settings of a run, if its command line and its environment give any that make sense. -/
def settings (arguments : List String) (environment : String → Option String) :
    Except Report Settings :=
  match CommandLine.parse true arguments environment with
  | .error refusal => .error (refused refusal)
  | .ok settings =>
    match settings.validate with
    | .error error => .error (failed error)
    | .ok () => .ok settings

/-- The notice that the program starts. -/
def notice (settings : Settings) : Notice :=
  .starting build.version build.commit settings.catalogAddress settings.tag settings.targetNamespace
    settings.resyncInterval settings.routesEnabled

/-- Where and which objects a run makes. -/
def scope (settings : Settings) : Scope := ⟨settings.targetNamespace, settings.routes⟩

/-- The failure to find a way to the cluster. -/
def noAccess (reason : String) : Error :=
  .internal "create_client" ("failed to infer config: " ++ reason)

/-- The catalog client of a run, if there is a way to the cluster. -/
def connect (settings : Settings) : ClusterAccess → Except Report CatalogClient
  | .missing reason => .error (failedIn "failed to create kubernetes client" (noAccess reason))
  | .found =>
    match CatalogClient.ofSettings settings.catalog with
    | .error error => .error (failedIn "invalid consul settings" error)
    | .ok client => .ok client

/-- How the program ends when its loop has ended. -/
def ended : Except Error Unit → Report
  | .ok () => ⟨0, [], []⟩
  | .error error => failedIn "reconciler failed" error

/-- What a run shows that ends by itself, and how; `none` for the end of a run that goes on until
it is stopped. -/
def outcome (arguments : List String) (environment : String → Option String)
    (access : ClusterAccess) : List Notice × Option Report :=
  match settings arguments environment with
  | .error report => ([], some report)
  | .ok settings =>
    match connect settings access with
    | .error report => ([notice settings], some report)
    | .ok _ =>
      match Health.listen settings.healthEndpoint with
      | .error error =>
        ([notice settings, .loopStarting settings.resyncInterval, .healthFailed error,
            .loopStopped, .stopped],
          some (ended (.ok ())))
      | .ok () =>
        ([notice settings, .loopStarting settings.resyncInterval,
            .listening settings.healthEndpoint.render],
          none)

end CatalogBridge.Startup
