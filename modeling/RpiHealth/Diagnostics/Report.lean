import RpiHealth.Collector.Isolation
import RpiHealth.Collector.Start
import RpiHealth.Diagnostics.Identity

/-! The report of the diagnostic command: seven checks in a fixed order, rendered one to a
line, and the exit code that says whether one of them failed. -/
namespace RpiHealth
open Sorting

/-! Exit codes. -/

def SUCCESS : Nat := 0
def USAGE_ERROR : Nat := 2
def CONFIG_ERROR : Nat := 3
def DIAGNOSTIC_ERROR : Nat := 4
def COLLECTION_ERROR : Nat := 5
def RUNTIME_ERROR : Nat := 6

def CREDENTIALS_CHECK : String := "credentials"
def ARCHITECTURE_CHECK : String := "architecture"
def COLLECTOR_CHECK : String := "collector"
def POWER_CHECK : String := "power"
def MQTT_CHECK : String := "mqtt"

def CheckStatus.label : CheckStatus → String
  | .pass => "PASS"
  | .warning => "WARNING"
  | .failure => "FAILURE"
  | .skipped => "SKIPPED"

def DiagnosticCheck.render (check : DiagnosticCheck) : String :=
  "[" ++ check.status.label ++ "] " ++ check.name ++ ": " ++ check.summary

structure DiagnosticReport where
  checks : List DiagnosticCheck
  deriving DecidableEq, Repr

namespace DiagnosticReport

def hasFailures (report : DiagnosticReport) : Bool :=
  report.checks.any (fun check => decide (check.status = .failure))

def exitCode (report : DiagnosticReport) : Nat :=
  if report.hasFailures then DIAGNOSTIC_ERROR else SUCCESS

def display (report : DiagnosticReport) : String :=
  String.intercalate "\n" (report.checks.map DiagnosticCheck.render)

end DiagnosticReport

/-! The checks. -/

/-- Neither paths nor the system's messages are shown. -/
def credentialFailureSummary : ConfigError → String
  | .credentialRead _ _ => "credential file could not be read"
  | .credentialNotAFile _ => "credential path is not a regular file"
  | .credentialTooLarge _ => "credential file exceeds the 64 KiB limit"
  | .credentialEncoding _ => "credential file is not valid UTF-8"
  | .credentialEmpty _ => "credential file is empty"
  | .credentialTooLong _ => "credential exceeds the MQTT UTF-8 field limit"
  | .credentialPermissions _ => "credential file grants access beyond its owner and group"
  | .read _ _ | .notAFile _ | .tooLarge _ | .sourceTooLarge | .toml _ | .invalidField _ _ =>
    "credential validation could not be completed"

def loadCredentials (config : MqttConfig) (file : CredentialFile) :
    DiagnosticCheck × Option MqttCredentials :=
  match MqttCredentials.load config file with
  | .ok credentials =>
    (⟨CREDENTIALS_CHECK, .pass, "credential file is readable and passes permission checks"⟩,
      some credentials)
  | .error e => (⟨CREDENTIALS_CHECK, .failure, credentialFailureSummary e⟩, none)

def architectureCheck (architecture : String) (isArmv7 : Bool) : DiagnosticCheck :=
  if isArmv7 then
    ⟨ARCHITECTURE_CHECK, .pass, "running on supported ARM architecture (" ++ architecture ++ ")"⟩
  else
    ⟨ARCHITECTURE_CHECK, .warning, "running on " ++ architecture ++
      "; deploy the ARMv7 build to Raspberry Pi 2"⟩

def unavailableMetrics (errors : List CollectorError) : List String :=
  sortDedup (errors.map CollectorError.metric)

def collectorCheck (errors : List CollectorError) : DiagnosticCheck :=
  if errors = [] then ⟨COLLECTOR_CHECK, .pass, "one complete snapshot was collected"⟩
  else
    let metrics := unavailableMetrics errors
    ⟨COLLECTOR_CHECK, if metrics = ["cpu.frequency_mhz"] then .warning else .failure,
      "snapshot reported " ++ toString metrics.length ++ " unavailable metric source(s): " ++
        String.intercalate ", " metrics⟩

def checkPower (power : PowerMetrics) : DiagnosticCheck :=
  if power.hasCurrentProblem then
    ⟨POWER_CHECK, .warning,
      "a current undervoltage, throttling, frequency-cap, or thermal-limit flag is active"⟩
  else if power.hasHistoricalProblem then
    ⟨POWER_CHECK, .warning,
      "a historical undervoltage, throttling, frequency-cap, or thermal-limit flag is set"⟩
  else if power.throttledRaw.isSome then
    ⟨POWER_CHECK, .pass, "firmware power flags are available and clear"⟩
  else
    ⟨POWER_CHECK, .skipped, "power flags are unavailable; the collector result reports the cause"⟩

def checkSnapshot (metadata : DeviceMetadata) (snapshot : TelemetryState) : List DiagnosticCheck :=
  [collectorCheck snapshot.health.collectorErrors, metadataCheck metadata,
    checkPower snapshot.power]

/-- The three checks that a collector is needed for. -/
def collectorChecks (config : CollectorConfig) (start : StartHost) (cycle : Sources) :
    List DiagnosticCheck :=
  match Collector.new config start with
  | .ok collector => checkSnapshot collector.metadata (collect collector cycle).1.state
  | .error _ =>
    [⟨COLLECTOR_CHECK, .failure,
        "vcgencmd was not found at the configured or standard locations"⟩,
      ⟨METADATA_CHECK, .skipped,
        "hardware metadata was not checked because the collector could not start"⟩,
      ⟨POWER_CHECK, .skipped,
        "power flags were not checked because the collector could not start"⟩]

inductive MqttProbeFailure where
  | rejected | unreachable | timedOut | protocol | controlQueue
  deriving DecidableEq, Repr

def MqttProbeFailure.summary : MqttProbeFailure → String
  | .rejected =>
    "broker rejected the diagnostic connection; verify credentials and connection policy"
  | .unreachable => "broker address could not be resolved or reached before the deadline"
  | .timedOut => "broker connection timed out after three seconds"
  | .protocol => "broker returned an invalid or unsupported MQTT response"
  | .controlQueue => "diagnostic MQTT control queue was unavailable"

def checkMqtt : Except MqttProbeFailure Unit → DiagnosticCheck
  | .ok () =>
    ⟨MQTT_CHECK, .pass, "authenticated clean-session connection succeeded without publishing"⟩
  | .error failure => ⟨MQTT_CHECK, .failure, failure.summary⟩

inductive MqttProbe where
  | enabled | skipped
  deriving DecidableEq, Repr

/-- What a run of the checks meets. The probe's outcome may depend on the credentials. -/
structure CheckHost where
  credentials : CredentialFile
  processStatus : Except IoError String
  architecture : String
  isArmv7 : Bool
  start : StartHost
  cycle : Sources
  probe : MqttCredentials → Except MqttProbeFailure Unit

def mqttCheck (mqttProbe : MqttProbe) (credentials : Option MqttCredentials) (host : CheckHost) :
    DiagnosticCheck :=
  match mqttProbe, credentials with
  | .skipped, _ => ⟨MQTT_CHECK, .skipped, "broker connectivity was explicitly skipped"⟩
  | .enabled, some credentials => checkMqtt (host.probe credentials)
  | .enabled, none =>
    ⟨MQTT_CHECK, .skipped, "broker connectivity requires a valid credential file"⟩

def checkRuntimeIdentity (processStatus : Except IoError String) : DiagnosticCheck :=
  identityCheck (processStatus.toOption.bind parseProcessIdentity)

def runChecks (config : Config) (mqttProbe : MqttProbe) (host : CheckHost) : DiagnosticReport :=
  let loaded := loadCredentials config.mqtt host.credentials
  ⟨[loaded.1, checkRuntimeIdentity host.processStatus,
      architectureCheck host.architecture host.isArmv7] ++
    collectorChecks config.collector host.start host.cycle ++ [mqttCheck mqttProbe loaded.2 host]⟩

end RpiHealth
