import RpiHealth.Library.F64
import RpiHealth.Library.U64

/-! The versioned payload: what one observation holds, and the health it is judged by.
A measurement that is missing is `none`. -/
namespace RpiHealth

def SCHEMA_VERSION : Nat := 1
def VERSION : String := "0.1.0"

/-- An instant in UTC. -/
structure ObservationTime where
  unixNanos : Int
  deriving DecidableEq, Repr

structure CpuMetrics where
  usagePercent : Option F64 := none
  load1 : Option F64 := none
  load5 : Option F64 := none
  load15 : Option F64 := none
  temperatureC : Option F64 := none
  frequencyMhz : Option F64 := none
  deriving DecidableEq

structure MemoryMetrics where
  totalBytes : Option U64 := none
  availableBytes : Option U64 := none
  usedBytes : Option U64 := none
  usedPercent : Option F64 := none
  deriving DecidableEq

structure SwapMetrics where
  totalBytes : Option U64 := none
  usedBytes : Option U64 := none
  usedPercent : Option F64 := none
  deriving DecidableEq

structure DiskMetrics where
  mount : String
  totalBytes : Option U64 := none
  availableBytes : Option U64 := none
  usedBytes : Option U64 := none
  usedPercent : Option F64 := none
  deriving DecidableEq

def DiskMetrics.unavailable (mount : String) : DiskMetrics := { mount := mount }

structure PowerMetrics where
  throttledRaw : Option String := none
  undervoltageNow : Option Bool := none
  armFrequencyCappedNow : Option Bool := none
  throttledNow : Option Bool := none
  softTemperatureLimitNow : Option Bool := none
  undervoltageSinceBoot : Option Bool := none
  armFrequencyCappedSinceBoot : Option Bool := none
  throttledSinceBoot : Option Bool := none
  softTemperatureLimitSinceBoot : Option Bool := none
  deriving DecidableEq, Repr

namespace PowerMetrics

def hasCurrentProblem (p : PowerMetrics) : Bool :=
  [p.undervoltageNow, p.armFrequencyCappedNow, p.throttledNow, p.softTemperatureLimitNow].any
    (fun flag => flag == some true)

def hasHistoricalProblem (p : PowerMetrics) : Bool :=
  [p.undervoltageSinceBoot, p.armFrequencyCappedSinceBoot, p.throttledSinceBoot,
    p.softTemperatureLimitSinceBoot].any (fun flag => flag == some true)

end PowerMetrics

structure CollectorError where
  metric : String
  message : String
  deriving DecidableEq, Repr

inductive HealthStatus where
  | ok | warning | critical | degraded
  deriving DecidableEq, Repr

/-- A current problem goes before failures, and failures before historical flags. -/
def HealthStatus.evaluate (power : PowerMetrics) (hasCollectorErrors : Bool) : HealthStatus :=
  if power.hasCurrentProblem then .critical
  else if hasCollectorErrors then .degraded
  else if power.hasHistoricalProblem then .warning
  else .ok

structure Health where
  status : HealthStatus
  collectorErrors : List CollectorError
  deriving DecidableEq, Repr

def Health.evaluate (power : PowerMetrics) (collectorErrors : List CollectorError) : Health :=
  ⟨HealthStatus.evaluate power (!collectorErrors.isEmpty), collectorErrors⟩

structure ServiceMetrics where
  version : String
  collectionDurationMs : U64
  deriving DecidableEq

def ServiceMetrics.new (collectionDurationMs : U64) : ServiceMetrics :=
  ⟨VERSION, collectionDurationMs⟩

/-- What one cycle measures. -/
structure TelemetryReadings where
  uptimeSeconds : Option U64 := none
  cpu : CpuMetrics := {}
  memory : MemoryMetrics := {}
  swap : SwapMetrics := {}
  disk : DiskMetrics
  power : PowerMetrics := {}
  deriving DecidableEq

def TelemetryReadings.unavailable (diskMount : String) : TelemetryReadings :=
  { disk := DiskMetrics.unavailable diskMount }

structure TelemetryState where
  schemaVersion : Nat
  observedAt : ObservationTime
  uptimeSeconds : Option U64
  cpu : CpuMetrics
  memory : MemoryMetrics
  swap : SwapMetrics
  disk : DiskMetrics
  power : PowerMetrics
  health : Health
  service : ServiceMetrics
  deriving DecidableEq

def TelemetryState.new (observedAt : ObservationTime) (readings : TelemetryReadings)
    (collectorErrors : List CollectorError) (collectionDurationMs : U64) : TelemetryState where
  schemaVersion := SCHEMA_VERSION
  observedAt := observedAt
  uptimeSeconds := readings.uptimeSeconds
  cpu := readings.cpu
  memory := readings.memory
  swap := readings.swap
  disk := readings.disk
  power := readings.power
  health := Health.evaluate readings.power collectorErrors
  service := ServiceMetrics.new collectionDurationMs

end RpiHealth
