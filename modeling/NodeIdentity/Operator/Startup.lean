import NodeIdentity.Operator.LogFilter
import NodeIdentity.Operator.MetricsListener
import NodeIdentity.Text.Lines
import NodeIdentity.Text.Quoted

/-!
# Startup

How the operator starts: what it takes from its environment, what it logs on the way, and how it
ends where it cannot go on.
-/

namespace NodeIdentity

/-- What the operator takes from its environment. -/
structure Settings where
  /-- Which events are logged. -/
  logFilter : Option String := none
  /-- The form in which events are logged. -/
  logFormat : Option String := none
  /-- The namespace whose node sets are looked after; empty is none. -/
  watchNamespace : Option String := none
  /-- The address at which measurements are offered. -/
  metricsAddress : Option String := none
deriving DecidableEq, Repr

namespace Settings

/-- Read the settings from variables. -/
def ofVariables (lookup : String → Option String) : Settings where
  logFilter := lookup "RUST_LOG"
  logFormat := lookup "RUST_LOG_FORMAT"
  watchNamespace := lookup "WATCH_NAMESPACE"
  metricsAddress := lookup "METRICS_BIND_ADDRESS"

/-- The namespace whose node sets are looked after, if it is only one. -/
def scope (settings : Settings) : Option String :=
  settings.watchNamespace.filter (fun ns => !ns.isEmpty)

end Settings

/-- The file that tells how to reach a cluster. -/
inductive ClusterFile
  /-- There is no file at a path. -/
  | missing (path : String)
  | text (words : String)
deriving DecidableEq, Repr

/-- An error with the errors that caused it, the nearest first. -/
structure ErrorChain where
  message : String
  causes : List String
deriving DecidableEq, Repr

namespace ErrorChain

/-- The lines for the causes: numbered if there are several. -/
def causeLines (chain : ErrorChain) : List String :=
  match chain.causes with
  | [] => []
  | [cause] => ["", "Caused by:", "    " ++ cause]
  | causes =>
      "" :: "Caused by:" ::
        causes.zipIdx.map (fun (cause, index) => "    " ++ toString index ++ ": " ++ cause)

/-- The lines that report an error. -/
def lines (chain : ErrorChain) : List String :=
  chain.message :: chain.causeLines

end ErrorChain

/-- The form of a log. -/
inductive LogFormat
  | text
  | json
deriving DecidableEq, Repr

/-- The form of a log that a setting asks for. -/
def LogFormat.ofSetting (setting : Option String) : LogFormat :=
  if (setting.map Text.lowercase) = some "json" then .json else .text

/-- The name of the form of a log. -/
def LogFormat.name : LogFormat → String
  | .text => "text"
  | .json => "json"

/-- An event in a log. -/
structure LogEvent where
  level : LogLevel
  message : String
deriving DecidableEq, Repr

/-- How a start ends. -/
inductive StartEnd
  /-- The operator goes on. -/
  | running
  | failed (chain : ErrorChain)
deriving DecidableEq, Repr

/-- A start of the operator: the log, and how it ended. -/
structure Start where
  format : LogFormat
  log : List LogEvent
  ending : StartEnd
deriving DecidableEq, Repr

namespace Start

/-- Why a cluster cannot be reached, nearest cause first, if the file that tells how does not. -/
def clusterFault? : ClusterFile → Option (List String)
  | .missing path =>
      let cause := "No such file or directory (os error 2)"
      some ["failed to read kubeconfig from '" ++ Text.quoted path ++ "': " ++ cause, cause]
  | .text words =>
      if words.toList.all Char.isWhitespace then some ["failed to determine current context"]
      else none

/-- The error that the cluster cannot be reached. -/
def clusterError (causes : List String) : ErrorChain :=
  let inner :=
    "failed to infer config: in-cluster: (failed to read an incluster environment variable: " ++
      "environment variable not found), kubeconfig: (" ++ causes.headD "" ++ ")"
  { message := "Failed to infer configuration: " ++ inner, causes := inner :: causes }

/-- The error that an address cannot be bound. -/
def bindError (address : String) (fault : MetricsListener.AddressFault) : ErrorChain where
  message := MetricsListener.bindFailure address
  causes := [fault.message]

/-- The events in front of everything else. -/
def firstEvents : List LogEvent :=
  [⟨.info, "Starting nodenet controller"⟩, ⟨.debug, "Initializing Kubernetes client"⟩]

/-- The event that the listener for measurements has ended with an error. -/
def listenerEvent (chain : ErrorChain) : LogEvent where
  level := .error
  message := "CRITICAL: metrics server exited unexpectedly: Err(" ++
    "\n".intercalate chain.lines ++ ")"

/-- All events of a start and how it ends, before the log is filtered. -/
def course (settings : Settings) (file : ClusterFile) : List LogEvent × StartEnd :=
  match clusterFault? file with
  | some causes => (firstEvents, .failed (clusterError causes))
  | none =>
      let address := settings.metricsAddress.getD MetricsListener.defaultAddress
      match MetricsListener.addressFault? address with
      | some fault =>
          let chain := bindError address fault
          (firstEvents ++ [listenerEvent chain], .failed chain)
      | none => (firstEvents, .running)

/-- A start with some settings and a file that tells how to reach the cluster. -/
def of (settings : Settings) (file : ClusterFile) : Start :=
  let (events, ending) := course settings file
  { format := .ofSetting settings.logFormat
    log := events.filter (fun event => (LogFilter.ownLevel settings.logFilter).admits event.level)
    ending := ending }

/-- What is reported on the error stream, as its lines: a message may hold several. -/
def report (start : Start) : List String :=
  match start.ending with
  | .running => []
  | .failed chain => Text.lines ("Error: " ++ "\n".intercalate chain.lines ++ "\n")

end Start

end NodeIdentity
