import RpiHealth.Metrics.Cpu

/-! Temperatures of the kernel and of the firmware, and the uptime. -/
namespace RpiHealth

def SYSFS_TEMPERATURE : String := "CPU thermal zone"
def FIRMWARE_TEMPERATURE : String := "firmware temperature"
def PROC_UPTIME : String := "/proc/uptime"

/-- Thousandths of a degree as degrees. -/
def parseMillidegreesCelsius (input : String) : Except ParseError F64 :=
  match Text.words input with
  | [] => .error ⟨SYSFS_TEMPERATURE, "the value is missing"⟩
  | [raw] => do
    let millidegrees ← okOr (Text.parseSigned 10 64 raw)
      ⟨SYSFS_TEMPERATURE, "the value is not a signed integer"⟩
    return F64.ofInt millidegrees / F64.ofNat 1000
  | _ => .error ⟨SYSFS_TEMPERATURE, "the value contains unexpected fields"⟩

def parseVcgencmdTemperature (input : String) : Except ParseError F64 := do
  let (key, rawValue) ← okOr (Text.splitOnce '=' (Text.trim input))
    ⟨FIRMWARE_TEMPERATURE, "the assignment is missing"⟩
  ensure (Text.trim key = "temp") ⟨FIRMWARE_TEMPERATURE, "the expected temp key is missing"⟩
  let rawValue := Text.trim rawValue
  let numeric ← okOr
    ((Text.stripSuffix "'C" rawValue).orElse (fun _ => Text.stripSuffix "°C" rawValue))
    ⟨FIRMWARE_TEMPERATURE, "the Celsius unit suffix is missing"⟩
  let value ← okOr (F64.parse (Text.trim numeric))
    ⟨FIRMWARE_TEMPERATURE, "the value is not a number"⟩
  ensure (value.isFinite = true) ⟨FIRMWARE_TEMPERATURE, "the value must be finite"⟩
  return value

/-- Whole seconds; the fraction is cut off. -/
def parseUptimeSeconds (input : String) : Except ParseError U64 := do
  let raw ← okOr (Text.words input).head? ⟨PROC_UPTIME, "the uptime value is missing"⟩
  let seconds ← okOr (F64.parse raw) ⟨PROC_UPTIME, "the uptime value is not a number"⟩
  ensure (seconds.isFinite = true ∧ seconds.isSignNegative = false)
    ⟨PROC_UPTIME, "the uptime value must be finite and non-negative"⟩
  -- the limit is the power of two that the largest number of 64 bits is rounded to
  okOr (U64.ofNat? seconds.whole) ⟨PROC_UPTIME, "the uptime value exceeds u64 seconds"⟩

end RpiHealth
