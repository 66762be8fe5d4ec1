import RpiHealth.Telemetry.Payload

/-! Reading a state back from its document. Fields that are not known are ignored. A
document with several faults is refused for one of them. -/
namespace RpiHealth

inductive ReadError where
  | wrongType (found : Document) (expected : String)
  | badValue (n : Nat) (expected : String)
  | badLength (length : Nat) (expected : String)
  | missingField (name : String)
  | duplicateField (name : String)
  | unknownVariant (name : String) (known : List String)
  | custom (message : String)

namespace Document

def readString : Document → Except ReadError String
  | .string s => .ok s
  | d => .error (.wrongType d "a string")

def readBool : Document → Except ReadError Bool
  | .bool b => .ok b
  | d => .error (.wrongType d "a boolean")

/-- An integer is a number too. -/
def readF64 : Document → Except ReadError F64
  | .float v => .ok v
  | .unsigned n => .ok (F64.ofNat n)
  | d => .error (.wrongType d "f64")

def readU32 : Document → Except ReadError Nat
  | .unsigned n => if n < 2 ^ 32 then .ok n else .error (.badValue n "u32")
  | d => .error (.wrongType d "u32")

def readU64 : Document → Except ReadError U64
  | .unsigned n => if small : n < 2 ^ 64 then .ok ⟨n, small⟩ else .error (.badValue n "u64")
  | d => .error (.wrongType d "u64")

def readOption {A : Type} (read : Document → Except ReadError A) :
    Document → Except ReadError (Option A)
  | .null => .ok none
  | d => (read d).map some

def readSequence {A : Type} (read : Document → Except ReadError A) :
    Document → Except ReadError (List A)
  | .array items => items.mapM read
  | d => .error (.wrongType d "a sequence")

def firstDuplicate : List String → Option String
  | [] => none
  | name :: rest => if rest.contains name then some name else firstDuplicate rest

/-- The values of a record by field: from a map by name, from a sequence in order. -/
def record (expected : String) (names : List String) :
    Document → Except ReadError (List (String × Document))
  | .object entries =>
    let known := entries.filter (fun entry => names.contains entry.1)
    match firstDuplicate (known.map (·.1)) with
    | some name => .error (.duplicateField name)
    | none => .ok known
  | .array items =>
    if items.length = names.length then .ok (names.zip items)
    else .error (.badLength items.length ("struct " ++ expected))
  | d => .error (.wrongType d ("struct " ++ expected))

def required {A : Type} (fields : List (String × Document)) (name : String)
    (read : Document → Except ReadError A) : Except ReadError A :=
  match fields.lookup name with
  | some d => read d
  | none => .error (.missingField name)

/-- A field that may be left out. -/
def nullable {A : Type} (fields : List (String × Document)) (name : String)
    (read : Document → Except ReadError A) : Except ReadError (Option A) :=
  match fields.lookup name with
  | some d => readOption read d
  | none => .ok none

end Document

open Document

/-- A field with a reader of its own may be null, but not left out. -/
def deserializeOptionalFinite (d : Document) : Except ReadError (Option F64) := do
  let value ← readOption readF64 d
  match value with
  | some v => if v.isFinite then .ok (some v) else .error (.custom "measurement must be finite")
  | none => .ok none

def CpuMetrics.deserialize (d : Document) : Except ReadError CpuMetrics := do
  let fields ← d.record "CpuMetrics"
    ["usage_percent", "load_1", "load_5", "load_15", "temperature_c", "frequency_mhz"]
  let usagePercent ← required fields "usage_percent" deserializeOptionalFinite
  let load1 ← required fields "load_1" deserializeOptionalFinite
  let load5 ← required fields "load_5" deserializeOptionalFinite
  let load15 ← required fields "load_15" deserializeOptionalFinite
  let temperatureC ← required fields "temperature_c" deserializeOptionalFinite
  let frequencyMhz ← required fields "frequency_mhz" deserializeOptionalFinite
  return ⟨usagePercent, load1, load5, load15, temperatureC, frequencyMhz⟩

def MemoryMetrics.deserialize (d : Document) : Except ReadError MemoryMetrics := do
  let fields ← d.record "MemoryMetrics"
    ["total_bytes", "available_bytes", "used_bytes", "used_percent"]
  let totalBytes ← nullable fields "total_bytes" readU64
  let availableBytes ← nullable fields "available_bytes" readU64
  let usedBytes ← nullable fields "used_bytes" readU64
  let usedPercent ← required fields "used_percent" deserializeOptionalFinite
  return ⟨totalBytes, availableBytes, usedBytes, usedPercent⟩

def SwapMetrics.deserialize (d : Document) : Except ReadError SwapMetrics := do
  let fields ← d.record "SwapMetrics" ["total_bytes", "used_bytes", "used_percent"]
  let totalBytes ← nullable fields "total_bytes" readU64
  let usedBytes ← nullable fields "used_bytes" readU64
  let usedPercent ← required fields "used_percent" deserializeOptionalFinite
  return ⟨totalBytes, usedBytes, usedPercent⟩

def DiskMetrics.deserialize (d : Document) : Except ReadError DiskMetrics := do
  let fields ← d.record "DiskMetrics"
    ["mount", "total_bytes", "available_bytes", "used_bytes", "used_percent"]
  let mount ← required fields "mount" readString
  let totalBytes ← nullable fields "total_bytes" readU64
  let availableBytes ← nullable fields "available_bytes" readU64
  let usedBytes ← nullable fields "used_bytes" readU64
  let usedPercent ← required fields "used_percent" deserializeOptionalFinite
  return ⟨mount, totalBytes, availableBytes, usedBytes, usedPercent⟩

def PowerMetrics.deserialize (d : Document) : Except ReadError PowerMetrics := do
  let fields ← d.record "PowerMetrics"
    ["throttled_raw", "undervoltage_now", "arm_frequency_capped_now", "throttled_now",
      "soft_temperature_limit_now", "undervoltage_since_boot", "arm_frequency_capped_since_boot",
      "throttled_since_boot", "soft_temperature_limit_since_boot"]
  let throttledRaw ← nullable fields "throttled_raw" readString
  let undervoltageNow ← nullable fields "undervoltage_now" readBool
  let armFrequencyCappedNow ← nullable fields "arm_frequency_capped_now" readBool
  let throttledNow ← nullable fields "throttled_now" readBool
  let softTemperatureLimitNow ← nullable fields "soft_temperature_limit_now" readBool
  let undervoltageSinceBoot ← nullable fields "undervoltage_since_boot" readBool
  let armFrequencyCappedSinceBoot ← nullable fields "arm_frequency_capped_since_boot" readBool
  let throttledSinceBoot ← nullable fields "throttled_since_boot" readBool
  let softTemperatureLimitSinceBoot ← nullable fields "soft_temperature_limit_since_boot" readBool
  return ⟨throttledRaw, undervoltageNow, armFrequencyCappedNow, throttledNow,
    softTemperatureLimitNow, undervoltageSinceBoot, armFrequencyCappedSinceBoot,
    throttledSinceBoot, softTemperatureLimitSinceBoot⟩

def HealthStatus.named : String → Except ReadError HealthStatus
  | "ok" => .ok .ok
  | "warning" => .ok .warning
  | "critical" => .ok .critical
  | "degraded" => .ok .degraded
  | name => .error (.unknownVariant name ["ok", "warning", "critical", "degraded"])

/-- A variant is named by a text, or as the only key of a map to null. -/
def HealthStatus.deserialize : Document → Except ReadError HealthStatus
  | .string name => HealthStatus.named name
  | .object [(name, d)] => do
    let status ← HealthStatus.named name
    match d with
    | .null => .ok status
    | other => .error (.wrongType other "unit")
  | d => .error (.wrongType d "enum HealthStatus")

def CollectorError.deserialize (d : Document) : Except ReadError CollectorError := do
  let fields ← d.record "CollectorError" ["metric", "message"]
  let metric ← required fields "metric" readString
  let message ← required fields "message" readString
  return ⟨metric, message⟩

def Health.deserialize (d : Document) : Except ReadError Health := do
  let fields ← d.record "Health" ["status", "collector_errors"]
  let status ← required fields "status" HealthStatus.deserialize
  let collectorErrors ← required fields "collector_errors"
    (readSequence CollectorError.deserialize)
  return ⟨status, collectorErrors⟩

def ServiceMetrics.deserialize (d : Document) : Except ReadError ServiceMetrics := do
  let fields ← d.record "ServiceMetrics" ["version", "collection_duration_ms"]
  let version ← required fields "version" readString
  let collectionDurationMs ← required fields "collection_duration_ms" readU64
  return ⟨version, collectionDurationMs⟩

/-- How instants are written and read. Reading gives the instant, in UTC. -/
structure TimeCodec extends TimeFormat where
  parse : String → Except String ObservationTime

def ObservationTime.deserialize (times : TimeCodec) (d : Document) :
    Except ReadError ObservationTime := do
  let value ← readString d
  (times.parse value).mapError .custom

def TelemetryState.deserialize (times : TimeCodec) (d : Document) :
    Except ReadError TelemetryState := do
  let fields ← d.record "TelemetryState"
    ["schema_version", "observed_at", "uptime_seconds", "cpu", "memory", "swap", "disk", "power",
      "health", "service"]
  let schemaVersion ← required fields "schema_version" readU32
  let observedAt ← required fields "observed_at" (ObservationTime.deserialize times)
  let uptimeSeconds ← nullable fields "uptime_seconds" readU64
  let cpu ← required fields "cpu" CpuMetrics.deserialize
  let memory ← required fields "memory" MemoryMetrics.deserialize
  let swap ← required fields "swap" SwapMetrics.deserialize
  let disk ← required fields "disk" DiskMetrics.deserialize
  let power ← required fields "power" PowerMetrics.deserialize
  let health ← required fields "health" Health.deserialize
  let service ← required fields "service" ServiceMetrics.deserialize
  return ⟨schemaVersion, observedAt, uptimeSeconds, cpu, memory, swap, disk, power, health, service⟩

end RpiHealth
