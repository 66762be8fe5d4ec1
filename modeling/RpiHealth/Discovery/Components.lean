import RpiHealth.Library.Json
import RpiHealth.Config.Config

/-! The telemetry entities of the Discovery document, one row each. -/
namespace RpiHealth
open Json

inductive Platform where
  | sensor
  | binarySensor
  deriving DecidableEq, Repr

def Platform.asStr : Platform → String
  | .sensor => "sensor"
  | .binarySensor => "binary_sensor"

structure ComponentDefinition where
  key : String
  platform : Platform
  name : String
  enabledByDefault : Bool
  deviceClass : Option String
  stateClass : Option String
  unitOfMeasurement : Option String
  suggestedDisplayPrecision : Option Nat
  options : Option (List String)
  payloadOn : Option String
  payloadOff : Option String
  valueTemplate : String
  deriving DecidableEq, Repr

structure ComponentConfig where
  platform : String
  name : String
  uniqueId : String
  defaultEntityId : String
  enabledByDefault : Bool
  entityCategory : String
  expireAfter : Nat
  deviceClass : Option String
  stateClass : Option String
  unitOfMeasurement : Option String
  suggestedDisplayPrecision : Option Nat
  options : Option (List String)
  payloadOn : Option String
  payloadOff : Option String
  valueTemplate : String
  deriving DecidableEq, Repr

def HEALTH_OPTIONS : List String := ["ok", "warning", "critical", "degraded"]

def sensor (key name : String) (enabledByDefault : Bool)
    (deviceClass stateClass unitOfMeasurement : Option String)
    (suggestedDisplayPrecision : Option Nat) (options : Option (List String))
    (valueTemplate : String) : ComponentDefinition where
  key := key
  platform := .sensor
  name := name
  enabledByDefault := enabledByDefault
  deviceClass := deviceClass
  stateClass := stateClass
  unitOfMeasurement := unitOfMeasurement
  suggestedDisplayPrecision := suggestedDisplayPrecision
  options := options
  payloadOn := none
  payloadOff := none
  valueTemplate := valueTemplate

def binarySensor (key name : String) (enabledByDefault : Bool) (valueTemplate : String) :
    ComponentDefinition where
  key := key
  platform := .binarySensor
  name := name
  enabledByDefault := enabledByDefault
  deviceClass := some "problem"
  stateClass := none
  unitOfMeasurement := none
  suggestedDisplayPrecision := none
  options := none
  payloadOn := some "ON"
  payloadOff := some "OFF"
  valueTemplate := valueTemplate

/-- A template that Home Assistant evaluates. -/
def expression (body : String) : String := "\x7b\x7b " ++ body ++ " \x7d\x7d"

def unlessNone (path value : String) : String :=
  expression (value ++ " if " ++ path ++ " is not none else none")

def valueOrNone (path : String) : String := unlessNone path path

def flag (path : String) : String :=
  "\x7b% set v = " ++ path ++ " %\x7d" ++
    expression "'ON' if v is true else ('OFF' if v is false else none)"

def COMPONENT_DEFINITIONS : List ComponentDefinition :=
  [ sensor "health_status" "Health status" true
      (some "enum") none none none (some HEALTH_OPTIONS) (expression "value_json.health.status"),
    sensor "cpu_temperature" "CPU temperature" true
      (some "temperature") (some "measurement") (some "°C") (some 1) none
      (valueOrNone "value_json.cpu.temperature_c"),
    sensor "cpu_usage" "CPU usage" true
      none (some "measurement") (some "%") (some 1) none
      (valueOrNone "value_json.cpu.usage_percent"),
    sensor "load_1" "1-minute load average" false
      none (some "measurement") none (some 2) none (valueOrNone "value_json.cpu.load_1"),
    sensor "load_5" "5-minute load average" false
      none (some "measurement") none (some 2) none (valueOrNone "value_json.cpu.load_5"),
    sensor "load_15" "15-minute load average" false
      none (some "measurement") none (some 2) none (valueOrNone "value_json.cpu.load_15"),
    sensor "cpu_frequency" "CPU frequency" false
      (some "frequency") (some "measurement") (some "MHz") (some 1) none
      (valueOrNone "value_json.cpu.frequency_mhz"),
    sensor "memory_usage" "Memory usage" true
      none (some "measurement") (some "%") (some 1) none
      (valueOrNone "value_json.memory.used_percent"),
    sensor "memory_available" "Memory available" false
      (some "data_size") (some "measurement") (some "GiB") (some 2) none
      (unlessNone "value_json.memory.available_bytes"
        "((value_json.memory.available_bytes / 1073741824) | round(2))"),
    sensor "swap_usage" "Swap usage" true
      none (some "measurement") (some "%") (some 1) none
      (valueOrNone "value_json.swap.used_percent"),
    sensor "swap_used" "Swap used" false
      (some "data_size") (some "measurement") (some "MiB") (some 1) none
      (unlessNone "value_json.swap.used_bytes"
        "((value_json.swap.used_bytes / 1048576) | round(1))"),
    sensor "disk_usage" "Disk usage" true
      none (some "measurement") (some "%") (some 1) none
      (valueOrNone "value_json.disk.used_percent"),
    sensor "disk_available" "Disk available" true
      (some "data_size") (some "measurement") (some "GiB") (some 2) none
      (unlessNone "value_json.disk.available_bytes"
        "((value_json.disk.available_bytes / 1073741824) | round(2))"),
    sensor "uptime" "Uptime" true
      (some "duration") (some "measurement") (some "s") (some 0) none
      (valueOrNone "value_json.uptime_seconds"),
    sensor "last_observation" "Last observation" false
      (some "timestamp") none none none none (expression "value_json.observed_at"),
    sensor "throttled_raw" "Raw throttling flags" false
      none none none none none (valueOrNone "value_json.power.throttled_raw"),
    sensor "collection_duration" "Collection duration" false
      (some "duration") (some "measurement") (some "ms") (some 0) none
      (expression "value_json.service.collection_duration_ms"),
    sensor "collector_error_count" "Collector error count" false
      none (some "measurement") none (some 0) none
      (expression "value_json.health.collector_errors | count"),
    binarySensor "undervoltage_now" "Current undervoltage" true
      (flag "value_json.power.undervoltage_now"),
    binarySensor "undervoltage_since_boot" "Undervoltage since boot" true
      (flag "value_json.power.undervoltage_since_boot"),
    binarySensor "throttled_now" "Current throttling" true
      (flag "value_json.power.throttled_now"),
    binarySensor "throttled_since_boot" "Throttling since boot" true
      (flag "value_json.power.throttled_since_boot"),
    binarySensor "arm_frequency_capped_now" "ARM frequency capped" false
      (flag "value_json.power.arm_frequency_capped_now"),
    binarySensor "arm_frequency_capped_since_boot" "ARM frequency capped since boot" false
      (flag "value_json.power.arm_frequency_capped_since_boot"),
    binarySensor "soft_temperature_limit_now" "Soft temperature limit" false
      (flag "value_json.power.soft_temperature_limit_now"),
    binarySensor "soft_temperature_limit_since_boot" "Soft temperature limit since boot" false
      (flag "value_json.power.soft_temperature_limit_since_boot") ]

def ComponentConfig.toJson (c : ComponentConfig) : Value :=
  .object (
    [("platform", .string c.platform),
     ("name", .string c.name),
     ("unique_id", .string c.uniqueId),
     ("default_entity_id", .string c.defaultEntityId),
     ("enabled_by_default", .bool c.enabledByDefault),
     ("entity_category", .string c.entityCategory),
     ("expire_after", natural c.expireAfter)] ++
    optional "device_class" (c.deviceClass.map .string) ++
    optional "state_class" (c.stateClass.map .string) ++
    optional "unit_of_measurement" (c.unitOfMeasurement.map .string) ++
    optional "suggested_display_precision" (c.suggestedDisplayPrecision.map natural) ++
    optional "options" (c.options.map (fun names => .array (names.map .string))) ++
    optional "payload_on" (c.payloadOn.map .string) ++
    optional "payload_off" (c.payloadOff.map .string) ++
    [("value_template", .string c.valueTemplate)])

/-- Hyphens become underscores, and ASCII capitals small letters. -/
def normalizeCharacter (c : Char) : Char := if c = '-' then '_' else c.toLower

def normalizeDeviceSlug (deviceId : String) : String :=
  String.ofList (deviceId.toList.map normalizeCharacter)

/-- The configuration of one component of the device. -/
def ComponentDefinition.toConfig (d : ComponentDefinition) (deviceId deviceSlug : String)
    (expireAfter : Nat) : ComponentConfig where
  platform := d.platform.asStr
  name := d.name
  uniqueId := deviceId ++ "_" ++ d.key
  defaultEntityId := d.platform.asStr ++ "." ++ deviceSlug ++ "_" ++ d.key
  enabledByDefault := d.enabledByDefault
  entityCategory := "diagnostic"
  expireAfter := expireAfter
  deviceClass := d.deviceClass
  stateClass := d.stateClass
  unitOfMeasurement := d.unitOfMeasurement
  suggestedDisplayPrecision := d.suggestedDisplayPrecision
  options := d.options
  payloadOn := d.payloadOn
  payloadOff := d.payloadOff
  valueTemplate := d.valueTemplate

end RpiHealth
