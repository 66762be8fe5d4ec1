import RpiHealth.Config.Toml
import RpiHealth.Daemon.Survival
import RpiHealth.Diagnostics.Verdict
import RpiHealth.Discovery.Document

/-! The program: its commands, what each of them prints, and how it exits. The log that a
daemon writes on the error stream as it runs is left out. -/
namespace RpiHealth
open Service

def DEFAULT_CONFIG_PATH : String := "/etc/rpi-health-mqtt/config.toml"

inductive Command where
  | check (skipMqtt : Bool)
  | printOnce
  deriving DecidableEq, Repr

/-- Without a command the daemon is started. -/
structure Cli where
  config : String
  command : Option Command
  deriving DecidableEq, Repr

/-- What the reader of the arguments says instead of a command line: a complaint, or a
text that was asked for. -/
structure Usage where
  useStderr : Bool
  exitCode : Int
  text : String

/-- The two file-system calls made on the path of the configuration. -/
structure ConfigFile where
  metadata : Except IoError Metadata
  text : Except IoError String

def Config.load (toml : Toml) (path : String) (file : ConfigFile) :
    Except ConfigError Config := do
  let metadata ← file.metadata.mapError (.read path)
  if !metadata.isFile then throw (.notAFile path)
  if metadata.length > MAX_CONFIG_BYTES then throw (.tooLarge path)
  let source ← file.text.mapError (.read path)
  Config.parse toml source

/-- An unrecoverable failure of the daemon. Its discovery document is always written. -/
inductive RunError where
  | runtimeInitialization (source : IoError)
  | collectorInitialization (source : CollectorInitError)
  | service (source : ServiceError)
  deriving DecidableEq

def ServiceError.display : ServiceError → String
  | .collection _ => "a telemetry state could not be serialized"
  | .signalHandling _ => "the shutdown signal handler failed"
  | .mqtt _ => "the MQTT supervisor encountered an unrecoverable control failure"
  | .taskStopped task => "the " ++ task.name ++ " task stopped unexpectedly"
  | .taskFailed task => "the " ++ task.name ++ " task failed"

def RunError.display : RunError → String
  | .runtimeInitialization _ => "the asynchronous runtime could not be initialized"
  | .collectorInitialization _ => "the telemetry collector could not be initialized"
  | .service source => source.display

/-- What the program takes from its libraries. -/
structure Libraries where
  toml : Toml
  times : TimeFormat
  compact : Document → String
  pretty : Document → String
  client : ClientRules

/-- What the program meets: the files, an asynchronous runtime that starts or does not,
and all that happens to a service. -/
structure ProgramHost extends CheckHost where
  file : ConfigFile
  runtime : Except IoError Unit
  events : List (ServiceInput Sources)

/-- The code, what is printed, and what the program itself complains about on the error
stream, which it shares with the log. -/
structure Exit where
  code : Nat
  out : String := ""
  complaint : String := ""
  deriving DecidableEq, Repr

/-- What the service has returned, unless it still runs. -/
def ServiceControl.result? : ServiceControl → Option ServiceResult
  | .returned result => some result
  | _ => none

namespace Libraries

variable (l : Libraries)

/-- The service that a daemon runs. -/
def service (config : Config) (collector : Collector) :=
  RpiHealth.service l.client (snapshots l.times l.compact) collector
    (MqttSettings.new config.mqtt config.device.id)
    (discoveryMessage config collector.metadata).payload

/-- Nothing, as long as the service runs. -/
def runDaemon (config : Config) (host : ProgramHost) : Option (Except RunError Unit) :=
  match Collector.new config.collector host.start with
  | .error e => some (.error (.collectorInitialization e))
  | .ok collector =>
    match host.runtime with
    | .error e => some (.error (.runtimeInitialization e))
    | .ok () => do
      let (_, s) ← (l.service config collector).run host.events
      let result ← s.control.result?
      return result.mapError .service

def runDiagnostics (config : Config) (skipMqtt : Bool) (host : ProgramHost) : Exit :=
  match host.runtime with
  | .error _ =>
    { code := DIAGNOSTIC_ERROR
      out := "[FAILURE] runtime: diagnostic runtime could not start\n" }
  | .ok () =>
    let report := runChecks config (if skipMqtt then .skipped else .enabled) host.toCheckHost
    { code := report.exitCode, out := report.display ++ "\n" }

def printOnce (config : CollectorConfig) (host : ProgramHost) : Exit :=
  match Collector.new config host.start with
  | .error e => { code := COLLECTION_ERROR, complaint := "Collection error: " ++ e.display ++ "\n" }
  | .ok collector =>
    match (collect collector host.cycle).1.state.serialize l.times with
    | .ok document => { code := SUCCESS, out := l.pretty document ++ "\n" }
    | .error e =>
      { code := COLLECTION_ERROR
        complaint := "Collection error: state serialization failed: " ++ e ++ "\n" }

def configurationError (e : ConfigError) : Exit :=
  { code := CONFIG_ERROR, complaint := "Configuration error: " ++ e.display ++ "\n" }

def daemonExit : Except RunError Unit → Exit
  | .ok () => { code := SUCCESS }
  | .error e => { code := RUNTIME_ERROR, complaint := "Runtime error: " ++ e.display ++ "\n" }

/-- How the program exits, unless its service still runs. -/
def run (cli : Cli) (host : ProgramHost) : Option Exit :=
  match Config.load l.toml cli.config host.file with
  | .error e => some (configurationError e)
  | .ok config =>
    match cli.command with
    | some .printOnce => some (l.printOnce config.collector host)
    | some (.check skipMqtt) => some (runDiagnostics config skipMqtt host)
    | none =>
      match MqttCredentials.load config.mqtt host.credentials with
      | .ok _ => (l.runDaemon config host).map daemonExit
      | .error e => some (configurationError e)

/-- A code that does not fit a byte is that of a wrong usage. -/
def exitByte (code : Int) : Nat := if 0 ≤ code ∧ code < 256 then code.toNat else USAGE_ERROR

def main (parsed : Except Usage Cli) (host : ProgramHost) : Option Exit :=
  match parsed with
  | .ok cli => l.run cli host
  | .error usage =>
    some (if usage.useStderr then { code := exitByte usage.exitCode, complaint := usage.text }
      else { code := SUCCESS, out := usage.text })

end Libraries

end RpiHealth
