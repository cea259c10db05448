import CatalogBridge.Kubernetes.Access
import CatalogBridge.Kubernetes.Client
import CatalogBridge.Net.Connection
import CatalogBridge.Reconcile.Loop
import CatalogBridge.Startup
import CatalogBridge.Telemetry.Clock
import Std.Async.Signal
import Std.Sync.Channel
import Std.Time

/-!
# The program

The outer layer: it reads the command line and the environment, sends what the loop asks for over
the network, and feeds the answers back to the loop as events, one at a time.
-/

namespace CatalogBridge.Main

open Std.Async

/-- The surroundings of a running loop. -/
structure Surroundings where
  catalog : CatalogClient
  cluster : Url
  namespaceName : String
  patience : Duration
  filter : Telemetry.Filter
  events : Std.CloseableChannel Loop.Event
  status : IO.Ref Health.Status

/-- Write a notice as a line. -/
def tell (filter : Telemetry.Filter) (notice : Notice) : IO Unit := do
  if filter.allows notice then
    let now ← Std.Time.Timestamp.now
    let moment := Telemetry.moment now.toNanosecondsSinceUnixEpoch.val.toNat
    let fields := match Telemetry.line notice with
      | .object fields => fields
      | _ => []
    let output ← IO.getStdout
    output.putStrLn (Json.object ((some "timestamp", .str moment) :: fields)).render
    output.flush

/-- Post an event for the loop. -/
def post (surroundings : Surroundings) (event : Loop.Event) : IO Unit := do
  let _ ← surroundings.events.trySend event

/-- Do something on a thread of its own. -/
def aside (activity : IO Unit) : IO Unit := do
  let _ ← IO.asTask activity .dedicated

/-- Put a query to the catalog. -/
def askCatalog (surroundings : Surroundings) (request : CatalogRequest) : IO CatalogDelivery := do
  if !request.isSendable then return .lost
  let fields := [("Host", Message.octets (((request.url.host.map Host.render).getD "")))]
    ++ (request.token.toList.map fun token => ("X-Consul-Token", Message.octets token))
  let message := Message.write ("GET " ++ request.url.target ++ " HTTP/1.1") fields []
  let answer ← (Connection.exchange request.url surroundings.patience.millis message).block
  return match answer.bind fun (message, body) => message.status?.map (·, message, body) with
  | some (status, message, body) => .answered ⟨status, message.values "x-consul-index", .whole body⟩
  | none => .lost

/-- Put a request to the cluster. -/
def askCluster (surroundings : Surroundings) (call : ClusterCall) :
    IO (Except Error call.Answer) := do
  match call.request surroundings.namespaceName with
  | .error error => return .error error
  | .ok request =>
    let url := surroundings.cluster
    let fields := [("Host", Message.octets ((url.host.map Host.render).getD "")),
      ("Accept", Message.octets "application/json")]
      ++ (request.contentType.toList.map fun type => ("Content-Type", Message.octets type))
    let body := (request.body.map fun document => Utf8.encode document.write).getD []
    let message :=
      Message.write (request.method ++ " " ++ request.target ++ " HTTP/1.1") fields body
    let answer ← (Connection.exchange url ClusterCall.readTimeout.millis message).block
    return call.readAnswer do
      let (message, body) ← answer
      return ⟨← message.status?, String.ofList (Utf8.decode body)⟩

/-- The page behind an index. -/
def fetchPage (surroundings : Surroundings) (index : ChangeIndex) :
    IO (Except Error CatalogPage) := do
  return surroundings.catalog.readPage index
    (← askCatalog surroundings (surroundings.catalog.listRequest index))

/-- The instances of a service. -/
def fetchInstances (surroundings : Surroundings) (service : String) :
    IO (Except Error (List Instance)) := do
  return surroundings.catalog.readInstances service
    (← askCatalog surroundings (surroundings.catalog.instancesRequest service))

/-- Do what the loop asks for. -/
def perform (surroundings : Surroundings) : Loop.Request → IO Unit
  | .watch (.list index) =>
    aside do post surroundings (.watchListed (← fetchPage surroundings index))
  | .watch (.instances query) => aside do
    post surroundings (.watchFetched query.position (← fetchInstances surroundings query.name))
  | .watch (.sleep delay) => aside do
    IO.sleep (.ofNat delay.millis)
    post surroundings .watchWoke
  | .watch (.offer _) => return
  | .survey .list =>
    aside do post surroundings (.surveyed (.listed (← fetchPage surroundings Survey.index)))
  | .survey (.instances query) => aside do
    post surroundings
      (.surveyed (.fetched query.position (← fetchInstances surroundings query.name)))
  | .cluster call => aside do post surroundings (.answered call (← askCluster surroundings call))

/-- What the health server shows of a loop. -/
def publish (surroundings : Surroundings) (before after : Loop) : IO Unit := do
  let changed (value : Metrics → Nat) (change : Measurement) : List Measurement :=
    if value before.metrics = value after.metrics then [] else [change]
  let counted (value : Metrics → Nat) (change : Measurement) : List Measurement :=
    List.replicate (value after.metrics - value before.metrics) change
  let changes :=
    changed (·.services) (.services after.metrics.services)
      ++ changed (·.endpoints) (.endpoints after.metrics.endpoints)
      ++ changed (·.routes) (.routes after.metrics.routes)
      ++ counted (·.reconcileSuccess) (.reconciled .success)
      ++ counted (·.reconcileError) (.reconciled .error)
      ++ counted (·.registryErrors) .registryError
      ++ counted (·.orchestratorErrors) .orchestratorError
  surroundings.status.modify fun status =>
    let status := changes.foldl Health.Status.record status
    if after.ready then status.markReady else status

/-- Post a look at the sources for the moment of the next tick, unless that was done. -/
def arm (surroundings : Surroundings) (armed : Nat) (loop : Loop) : IO Unit := do
  let due := loop.ticker.due
  if due ≠ armed then
    let now ← IO.monoNanosNow
    aside do
      IO.sleep (.ofNat ((due - now + 999999) / 1000000))
      post surroundings (.poll due)

/-- What happens next: what the loop can do by itself, or else what comes from outside. -/
def nextEvent (surroundings : Surroundings) (loop : Loop) : IO (Option Loop.Event) := do
  let now ← IO.monoNanosNow
  if loop.wantsHandOver then return some .handOver
  if loop.wantsLook now then return some (.poll now)
  match ← IO.wait (← surroundings.events.recv) with
  | some (.poll _) => return some (.poll (← IO.monoNanosNow))
  | event => return event

/-- Drive the loop until it ends. -/
partial def drive (surroundings : Surroundings) (armed : Nat) (reaction : Loop.Reaction) :
    IO (Except Error Unit) := do
  reaction.notices.forM (tell surroundings.filter)
  reaction.requests.forM (perform surroundings)
  let loop := reaction.loop
  match loop.result? with
  | some result => return result
  | none =>
    arm surroundings armed loop
    match ← nextEvent surroundings loop with
    | none => return .ok ()
    | some event =>
      let next := loop.step event
      publish surroundings loop next.loop
      drive surroundings loop.ticker.due next

/-- The answer of the health server to a message. -/
def respond (status : IO.Ref Health.Status) (message : Message) : IO (List UInt8) := do
  let status ← status.get
  let answer :=
    match message.first with
    | method :: target :: _ => Health.respond status method target
    | _ => Health.notFound
  let fields := (answer.contentType.toList.map fun type => ("Content-Type", Message.octets type))
    ++ (answer.allow.toList.map fun methods => ("Allow", Message.octets methods))
  return Message.write ("HTTP/1.1 " ++ toString answer.code ++ " Status") fields
    (Message.octets answer.body)

/-- Run the health server; a run without one is cancelled. -/
def serveHealth (surroundings : Surroundings) (endpoint : Endpoint) : IO Unit := do
  match ← Connection.listen endpoint with
  | .ok server =>
    tell surroundings.filter (.listening endpoint.render)
    aside (Connection.serve server (respond surroundings.status)).block
  | .error reason =>
    tell surroundings.filter (.healthFailed (Health.bindFailure endpoint reason))
    post surroundings .cancel
    post surroundings .watchCancelled

/-- Cancel the run when the program is told to stop. -/
def cancelOnSignal (surroundings : Surroundings) (signal : Signal) : IO Unit := aside do
  let waiter ← Signal.Waiter.mk signal false
  let _ ← (← waiter.wait).block
  tell surroundings.filter .signalled
  post surroundings .cancel
  post surroundings .watchCancelled

/-- Write how the program ends, and the status that it ends with. -/
def finish (report : Startup.Report) : IO UInt32 := do
  let output ← IO.getStdout
  let complaints ← IO.getStderr
  report.output.forM output.putStrLn
  report.complaints.forM complaints.putStrLn
  return .ofNat report.status

/-- The variables that the program looks at. -/
def variableNames : List String :=
  Flag.all.map Flag.envName ++ ["RUST_LOG", Telemetry.collectorVariable, ClusterConfig.variableName]

/-- The variables that are set. -/
def readEnvironment : IO (String → Option String) := do
  let values ← variableNames.filterMapM fun name => do return (← IO.getEnv name).map (name, ·)
  return fun name => values.lookup name

/-- The server of the cluster that the environment names. -/
def findCluster (environment : String → Option String) : IO (Except String Url) := do
  match environment ClusterConfig.variableName with
  | none => return .error "no configuration file is named"
  | some file =>
    try return ClusterConfig.server (← IO.FS.readFile file)
    catch failure => return .error (toString failure)

/-- Run the program with settings. -/
def run (settings : Settings) (filter : Telemetry.Filter) (cluster : Except String Url) :
    IO Startup.Report := do
  tell filter (Startup.notice settings)
  match cluster with
  | .error reason =>
    return Startup.failedIn "failed to create kubernetes client" (Startup.noAccess reason)
  | .ok cluster =>
    match Startup.connect settings .found with
    | .error report => return report
    | .ok catalog =>
      let surroundings : Surroundings := {
        catalog := catalog
        cluster := cluster
        namespaceName := settings.targetNamespace
        patience := settings.catalog.requestTimeout
        filter := filter
        events := ← Std.CloseableChannel.new
        status := ← IO.mkRef (.initial Startup.build) }
      cancelOnSignal surroundings .sigint
      cancelOnSignal surroundings .sigterm
      serveHealth surroundings settings.healthEndpoint
      let start :=
        Loop.start (Startup.scope settings) settings.resyncInterval .standard (← IO.monoNanosNow)
      let result ← drive surroundings 0 start
      if result.toOption.isSome then tell filter .stopped
      return Startup.ended result

end CatalogBridge.Main

/-- Sync a catalog into a cluster, as the command line and the environment say. -/
def main (arguments : List String) : IO UInt32 := do
  let environment ← CatalogBridge.Main.readEnvironment
  match CatalogBridge.Startup.settings arguments environment with
  | .error report => CatalogBridge.Main.finish report
  | .ok settings =>
    let filter := CatalogBridge.Telemetry.Filter.ofEnvironment environment
    let cluster ← CatalogBridge.Main.findCluster environment
    CatalogBridge.Main.finish (← CatalogBridge.Main.run settings filter cluster)
