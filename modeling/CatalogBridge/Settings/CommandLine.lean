import CatalogBridge.Duration.Grammar
import CatalogBridge.Settings.Basic
import CatalogBridge.Settings.Values

/-!
# The command line

Every setting is an option with a value, `--name value` or `--name=value`, given at most once; an
option that is not given takes its value from the environment variable of its name, and then its
default. What is wrong with a command line is found from left to right, except that the value of
an option is looked at when the next option begins.
-/

namespace CatalogBridge

/-- An option of the command line. -/
inductive Flag where
  | consulAddr
  | consulToken
  | consulTag
  | targetNamespace
  | metricsAddr
  | resyncInterval
  | enableHttproutes
  | domainSuffix
  | internalGateway
  | externalGateway
  | gatewayNamespace
  | gatewayListener
  | internalTag
  | externalTag
  deriving DecidableEq, Repr

namespace Flag

/-- All options, in the order in which they are looked up in the environment. -/
def all : List Flag :=
  [.consulAddr, .consulToken, .consulTag, .targetNamespace, .metricsAddr, .resyncInterval,
   .enableHttproutes, .domainSuffix, .internalGateway, .externalGateway, .gatewayNamespace,
   .gatewayListener, .internalTag, .externalTag]

/-- The name of an option, without the hyphens in front. -/
def name : Flag → String
  | .consulAddr => "consul-addr"
  | .consulToken => "consul-token"
  | .consulTag => "consul-tag"
  | .targetNamespace => "target-namespace"
  | .metricsAddr => "metrics-addr"
  | .resyncInterval => "resync-interval"
  | .enableHttproutes => "enable-httproutes"
  | .domainSuffix => "domain-suffix"
  | .internalGateway => "internal-gateway"
  | .externalGateway => "external-gateway"
  | .gatewayNamespace => "gateway-namespace"
  | .gatewayListener => "gateway-listener"
  | .internalTag => "internal-tag"
  | .externalTag => "external-tag"

/-- The environment variable of an option: its name in capitals, with underscores. -/
def envName (flag : Flag) : String :=
  String.ofList (flag.name.toList.map fun c => if c = '-' then '_' else c.toUpper)

/-- The value of an option that is given nowhere. -/
def default? : Flag → Option String
  | .consulAddr | .consulToken | .gatewayNamespace => none
  | .consulTag => some "kubernetes"
  | .targetNamespace => some "network"
  | .metricsAddr => some "0.0.0.0:8080"
  | .resyncInterval => some "5m"
  | .enableHttproutes => some "true"
  | .domainSuffix => some "k8s.alexieff.io"
  | .internalGateway => some "envoy-internal"
  | .externalGateway => some "envoy-external"
  | .gatewayListener => some "https"
  | .internalTag => some "internal"
  | .externalTag => some "external"

/-- An option as messages show it: `--name <VARIABLE>`. -/
def usage (flag : Flag) : String := "--" ++ flag.name ++ " <" ++ flag.envName ++ ">"

end Flag

namespace CommandLine

/-- Why a command line gives no settings. -/
inductive Refusal where
  /-- An option that must be given is not. -/
  | missing (flag : Flag)
  /-- An option stands without its value. -/
  | withoutValue (flag : Flag)
  /-- An option is given twice. -/
  | repeated (flag : Flag)
  /-- An argument is no option. -/
  | unknown (argument : String)
  /-- A switch that takes no value has one. -/
  | surplusValue (switch value : String)
  /-- The value of an option is refused. -/
  | badValue (flag : Flag) (value reason : String)
  /-- The value of an option cannot be worked out at all. -/
  | aborted (message : String)
  /-- The help is asked for. -/
  | help
  /-- The version is asked for. -/
  | version
  deriving DecidableEq, Repr

/-- The first line of what is shown for a refusal. -/
def Refusal.firstLine : Refusal → String
  | .missing _ => "error: the following required arguments were not provided:"
  | .withoutValue flag =>
    "error: a value is required for '" ++ flag.usage ++ "' but none was supplied"
  | .repeated flag => "error: the argument '" ++ flag.usage ++ "' cannot be used multiple times"
  | .unknown argument => "error: unexpected argument '" ++ argument ++ "' found"
  | .surplusValue switch value =>
    "error: unexpected value '" ++ value ++ "' for '" ++ switch ++ "' found; no more were expected"
  | .badValue flag value reason =>
    "error: invalid value '" ++ value ++ "' for '" ++ flag.usage ++ "': " ++ reason
  | .aborted message => message
  | .help => "Sync Consul services into Kubernetes Services, EndpointSlices and HTTPRoutes"
  | .version => ""

/-- Values that were given, last one first. -/
abbrev Given := List (Flag × String)

/-- The value given for an option. -/
def Given.get? (given : Given) (flag : Flag) : Option String := (given.find? (·.1 = flag)).map (·.2)

/-- How far a command line is read: the values taken, an option that is not settled yet with the
value that it has so far, whether that option still waits for its value, and whether only plain
arguments may follow. -/
structure Scan where
  given : Given
  unsettled : Option (Flag × Option String)
  waiting : Bool
  plain : Bool

/-- Read the value of an option that is a listen address. -/
def readEndpoint (flag : Flag) (value : String) : Except Refusal Endpoint :=
  (Settings.parseListenAddress value).mapError (.badValue flag value)

/-- Read the value of an option that is a truth value. -/
def readTruth (flag : Flag) (value : String) : Except Refusal Bool :=
  (Settings.parseTruth value).mapError (.badValue flag value)

/-- Read the value of an option that is a duration. -/
def readDuration (flag : Flag) (value : String) : Except Refusal Duration :=
  (Duration.parse value).mapError fun cause =>
    match cause with
    | .overflow => .aborted cause.message
    | _ => .badValue flag value cause.message

/-- Look at the value of an option. -/
def check (flag : Flag) (value : String) : Except Refusal Unit :=
  match flag with
  | .metricsAddr => (readEndpoint flag value).map fun _ => ()
  | .resyncInterval => (readDuration flag value).map fun _ => ()
  | .enableHttproutes => (readTruth flag value).map fun _ => ()
  | _ => .ok ()

/-- Take a value for an option. -/
def take (given : Given) (flag : Flag) (value : String) : Except Refusal Given := do
  if (given.get? flag).isSome then throw (.repeated flag)
  check flag value
  return (flag, value) :: given

/-- Settle the option that is open. -/
def Scan.settle (scan : Scan) : Except Refusal Scan :=
  match scan.unsettled with
  | none => .ok scan
  | some (flag, none) => .error (.withoutValue flag)
  | some (flag, some value) =>
    match take scan.given flag value with
    | .ok given => .ok { scan with given := given, unsettled := none, waiting := false }
    | .error refusal => .error refusal

/-- The option of a name. -/
def find? (name : String) : Option Flag := Flag.all.find? fun flag => flag.name = name

/-- What a switch asks for, by its name; the version can only be asked of the program itself. -/
def switch? (versioned : Bool) (name : String) : Option Refusal :=
  if name = "help" then some .help
  else if versioned && name = "version" then some .version
  else none

/-- Read an argument that begins with two hyphens: what stands before and after the
first equals sign. -/
def Scan.long (scan : Scan) (versioned : Bool) (name : String) (value : Option String) :
    Except Refusal Scan := do
  match find? name with
  | some flag =>
    let scan ← scan.settle
    match value with
    | some value => return { scan with given := ← take scan.given flag value }
    | none => return { scan with unsettled := some (flag, none), waiting := true }
  | none =>
    match switch? versioned name, value with
    | some _, some value => throw (.surplusValue ("--" ++ name) value)
    | some refusal, none =>
      let _ ← scan.settle
      throw refusal
    | none, _ => throw (.unknown ("--" ++ name))

/-- Read an argument that begins with one hyphen, by the letter behind it. -/
def Scan.short (scan : Scan) (versioned : Bool) (letter : Char) : Except Refusal Scan := do
  if letter = 'h' then
    let _ ← scan.settle
    throw .help
  else if versioned && letter = 'V' then
    let _ ← scan.settle
    throw .version
  else throw (.unknown (String.ofList ['-', letter]))

/-- Read an argument that is no option. -/
def Scan.word (scan : Scan) (argument : String) : Except Refusal Scan :=
  match scan.plain, scan.waiting, scan.unsettled with
  | false, true, some (flag, none) =>
    .ok { scan with unsettled := some (flag, some argument), waiting := false }
  | _, _, _ => .error (.unknown argument)

/-- What stands before the first equals sign, and what stands behind it if there is one. -/
def splitEquals (text : List Char) : String × Option String :=
  (String.ofList (text.takeWhile (· ≠ '=')),
    match text.dropWhile (· ≠ '=') with
    | _ :: value => some (String.ofList value)
    | [] => none)

/-- Read one argument. -/
def Scan.argument (scan : Scan) (versioned : Bool) (argument : String) : Except Refusal Scan :=
  if scan.plain then scan.word argument
  else
    match argument.toList with
    | ['-', '-'] => .ok { scan with plain := true }
    | '-' :: '-' :: rest =>
      let (name, value) := splitEquals rest
      scan.long versioned name value
    | '-' :: letter :: _ => scan.short versioned letter
    | _ => scan.word argument

/-- The values that a command line gives. -/
def scanAll (versioned : Bool) : Scan → List String → Except Refusal Given
  | scan, [] => scan.settle.map (·.given)
  | scan, argument :: rest =>
    match scan.argument versioned argument with
    | .ok scan => scanAll versioned scan rest
    | .error refusal => .error refusal

/-- The values given together with those of the environment, for the options that are not given. -/
def addEnvironment (environment : String → Option String) : Given → List Flag → Except Refusal Given
  | given, [] => .ok given
  | given, flag :: rest =>
    match given.get? flag, environment flag.envName with
    | none, some value =>
      match take given flag value with
      | .ok given => addEnvironment environment given rest
      | .error refusal => .error refusal
    | _, _ => addEnvironment environment given rest

/-- The value of an option: given, or its default. -/
def valueOf (given : Given) (flag : Flag) : Option String := given.get? flag <|> flag.default?

/-- The text of an option that has one. -/
def textOf (given : Given) (flag : Flag) : Except Refusal String :=
  match valueOf given flag with
  | some value => .ok value
  | none => .error (.missing flag)

/-- The value of an option that is read in a way of its own. -/
def readOf {α : Type} (given : Given) (flag : Flag) (read : Flag → String → Except Refusal α) :
    Except Refusal α := do
  read flag (← textOf given flag)

/-- The settings that values give. -/
def settingsOf (given : Given) : Except Refusal Settings := do
  return {
    catalogAddress := ← textOf given .consulAddr
    token := valueOf given .consulToken
    tag := ← textOf given .consulTag
    targetNamespace := ← textOf given .targetNamespace
    healthEndpoint := ← readOf given .metricsAddr readEndpoint
    resyncInterval := ← readOf given .resyncInterval readDuration
    routesEnabled := ← readOf given .enableHttproutes readTruth
    domainSuffix := ← textOf given .domainSuffix
    internalGateway := ← textOf given .internalGateway
    externalGateway := ← textOf given .externalGateway
    gatewayNamespace := valueOf given .gatewayNamespace
    gatewayListener := ← textOf given .gatewayListener
    internalTag := ← textOf given .internalTag
    externalTag := ← textOf given .externalTag }

/-- The settings that a command line and an environment give. -/
def parse (versioned : Bool) (arguments : List String) (environment : String → Option String) :
    Except Refusal Settings := do
  let given ← scanAll versioned ⟨[], none, false, false⟩ arguments
  settingsOf (← addEnvironment environment given Flag.all)

end CommandLine

end CatalogBridge
