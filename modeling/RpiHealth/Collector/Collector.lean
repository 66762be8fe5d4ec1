import RpiHealth.Collector.Metadata
import RpiHealth.Library.Machine
import RpiHealth.Metrics.Memory
import RpiHealth.Metrics.Power
import RpiHealth.Metrics.Temperature

/-! The collector: one cycle reads its sources one after the other, and keeps the
CPU counters it read last for the next cycle. -/
namespace RpiHealth

def THERMAL_ZONE : String := "/sys/class/thermal/thermal_zone0/temp"
def FREQUENCY_PATHS : List String :=
  ["/sys/devices/system/cpu/cpu0/cpufreq/scaling_cur_freq",
    "/sys/devices/system/cpu/cpu0/cpufreq/cpuinfo_cur_freq"]

/-- In nanoseconds. -/
def CPU_WARMUP : Nat := 1000000000

inductive CommandFailure where
  | spawn | wait | timedOut | nonZeroExit | outputRead | outputTooLarge | outputEncoding
  deriving DecidableEq, Repr

/-- What one cycle meets. A file is asked for with the number of times the cycle has
read it before, and a command with its arguments and its timeout. -/
structure Sources where
  readText : String → Nat → Except IoError String
  run : String → List String → Nat → Except CommandFailure String
  statvfs : String → Except IoError StatvfsValues
  observedAt : ObservationTime
  startedAt : Nat
  endedAt : Nat

structure Collector where
  rootFilesystem : String
  vcgencmdPath : String
  commandTimeout : Nat
  previousCpu : Option CpuTimes := none
  metadata : DeviceMetadata
  deriving DecidableEq

/-- What a cycle does with CPU counters, in order. -/
inductive CpuCall where
  | readSample (sample : Option CpuTimes)
  | sleep (nanos : Nat)
  | usagePercent (previous current : CpuTimes)
  deriving DecidableEq

abbrev Errors := List CollectorError

def pushError (errors : Errors) (metric message : String) : Errors := errors ++ [⟨metric, message⟩]

/-- A value is stored in the readings, and a failure in the list of errors. -/
def record {A R : Type} (metric : String) (outcome : Except String A) (store : A → R → R)
    (readings : R) (errors : Errors) : R × Errors :=
  match outcome with
  | .ok value => (store value readings, errors)
  | .error message => (readings, pushError errors metric message)

/-- Reading and parsing a file fail alike. -/
def Sources.parsed {A : Type} (s : Sources) (path : String) (parse : String → Except ParseError A)
    (message : String) : Except String A :=
  match s.readText path 0 with
  | .ok input => okOr (parse input).toOption message
  | .error _ => .error message

def readCpuSample (s : Sources) (readsBefore : Nat) : Option CpuTimes :=
  (s.readText PROC_STAT readsBefore).toOption.bind (fun input => (parseProcStat input).toOption)

def CPU_UNAVAILABLE : String := "aggregate CPU counters are unavailable or malformed"

/-- The outcome of the CPU part of a cycle, the baseline it leaves and its calls. -/
structure CpuStep where
  outcome : Except String (Option F64)
  previousCpu : Option CpuTimes
  calls : List CpuCall

/-- The second half: a sample is compared with the baseline and replaces it. -/
def compareSample (previous : CpuTimes) (sample : Option CpuTimes) : CpuStep :=
  match sample with
  | none => ⟨.error CPU_UNAVAILABLE, some previous, [.readSample none]⟩
  | some current =>
    { outcome := okOr (usagePercent previous current).toOption
        "aggregate CPU counters are inconsistent"
      previousCpu := some current
      calls := [.readSample (some current), .usagePercent previous current] }

def cpuStep (c : Collector) (s : Sources) : CpuStep :=
  match c.previousCpu with
  | some previous => compareSample previous (readCpuSample s 0)
  | none =>
    match readCpuSample s 0 with
    | none => ⟨.error CPU_UNAVAILABLE, none, [.readSample none]⟩
    | some initial =>
      let later := compareSample initial (readCpuSample s 1)
      { later with calls := .readSample (some initial) :: .sleep CPU_WARMUP :: later.calls }

def collectCpuUsage (step : CpuStep) (errors : Errors) : Option F64 × Errors :=
  record "cpu.usage_percent" step.outcome (fun value _ => value) none errors

def loadOutcome (s : Sources) : Except String LoadAverage :=
  s.parsed PROC_LOADAVG parseLoadavg "load averages are unavailable or malformed"

def collectLoadAverage (s : Sources) (cpu : CpuMetrics) (errors : Errors) : CpuMetrics × Errors :=
  record "cpu.load_average" (loadOutcome s)
    (fun load cpu => { cpu with
      load1 := some load.oneMinute
      load5 := some load.fiveMinutes
      load15 := some load.fifteenMinutes }) cpu errors

/-- The firmware is asked only where the kernel has no such file. -/
def temperatureOutcome (c : Collector) (s : Sources) : Except String F64 :=
  match s.readText THERMAL_ZONE 0 with
  | .ok input =>
    okOr (parseMillidegreesCelsius input).toOption "the thermal-zone temperature is malformed"
  | .error e =>
    if e.kind = .notFound then
      match s.run c.vcgencmdPath ["measure_temp"] c.commandTimeout with
      | .ok output =>
        okOr (parseVcgencmdTemperature output).toOption
          "the firmware temperature response is malformed"
      | .error _ => .error "the firmware temperature command failed or timed out"
    else .error "the thermal-zone temperature cannot be read"

def collectTemperature (c : Collector) (s : Sources) (cpu : CpuMetrics) (errors : Errors) :
    CpuMetrics × Errors :=
  record "cpu.temperature_c" (temperatureOutcome c s)
    (fun value cpu => { cpu with temperatureC := some value }) cpu errors

/-- The first file that is there decides; without any there is no value and no error. -/
def frequencyOutcome (s : Sources) : List String → Except String (Option F64)
  | [] => .ok none
  | path :: rest =>
    match s.readText path 0 with
    | .ok input =>
      (okOr (parseFrequencyKhz input).toOption "the CPU frequency value is malformed").map some
    | .error e =>
      if e.kind = .notFound then frequencyOutcome s rest
      else .error "the CPU frequency cannot be read"

def collectFrequency (s : Sources) (cpu : CpuMetrics) (errors : Errors) : CpuMetrics × Errors :=
  record "cpu.frequency_mhz" (frequencyOutcome s FREQUENCY_PATHS)
    (fun value cpu => { cpu with frequencyMhz := value.orElse (fun _ => cpu.frequencyMhz) })
    cpu errors

def memoryOutcome (s : Sources) : Except String Memory.MemoryMetrics :=
  s.parsed PROC_MEMINFO parseMeminfo "memory and swap information is unavailable or malformed"

def collectMemory (s : Sources) (readings : TelemetryReadings) (errors : Errors) :
    TelemetryReadings × Errors :=
  record "memory" (memoryOutcome s)
    (fun memory readings => { readings with
      memory := {
        totalBytes := some memory.totalBytes
        availableBytes := some memory.availableBytes
        usedBytes := some memory.usedBytes
        usedPercent := some memory.usedPercent }
      swap := {
        totalBytes := some memory.swapTotalBytes
        usedBytes := some memory.swapUsedBytes
        usedPercent := some memory.swapUsedPercent } }) readings errors

def uptimeOutcome (s : Sources) : Except String U64 :=
  s.parsed PROC_UPTIME parseUptimeSeconds "system uptime is unavailable or malformed"

def collectUptime (s : Sources) (readings : TelemetryReadings) (errors : Errors) :
    TelemetryReadings × Errors :=
  record "uptime_seconds" (uptimeOutcome s)
    (fun value readings => { readings with uptimeSeconds := some value }) readings errors

def diskOutcome (c : Collector) (s : Sources) : Except String DiskMetrics :=
  let unavailable := "filesystem statistics are unavailable or inconsistent"
  match s.statvfs c.rootFilesystem with
  | .ok values => okOr (calculateDiskMetrics c.rootFilesystem values).toOption unavailable
  | .error _ => .error unavailable

def collectDisk (c : Collector) (s : Sources) (disk : DiskMetrics) (errors : Errors) :
    DiskMetrics × Errors :=
  record "disk" (diskOutcome c s) (fun value _ => value) disk errors

def powerOutcome (c : Collector) (s : Sources) : Except String ThrottledStatus :=
  let failed := "the firmware throttling command failed, timed out, or returned malformed data"
  match s.run c.vcgencmdPath ["get_throttled"] c.commandTimeout with
  | .ok output => okOr (parseThrottled output).toOption failed
  | .error _ => .error failed

def collectPower (c : Collector) (s : Sources) (power : PowerMetrics) (errors : Errors) :
    PowerMetrics × Errors :=
  record "power" (powerOutcome c s) (fun status _ => powerMetrics status) power errors

/-- Whole milliseconds, as many as fit. -/
def durationMs (s : Sources) : U64 :=
  (U64.ofNat? ((s.endedAt - s.startedAt) / 1000000)).getD ⟨2 ^ 64 - 1, by decide⟩

/-- One cycle: the state it returns, and its CPU calls. -/
structure Cycle where
  state : TelemetryState
  calls : List CpuCall

def collect (c : Collector) (s : Sources) : Cycle × Collector :=
  let readings := TelemetryReadings.unavailable c.rootFilesystem
  let step := cpuStep c s
  let (usage, errors) := collectCpuUsage step []
  let cpu := { readings.cpu with usagePercent := usage }
  let (cpu, errors) := collectLoadAverage s cpu errors
  let (cpu, errors) := collectTemperature c s cpu errors
  let (cpu, errors) := collectFrequency s cpu errors
  let readings := { readings with cpu := cpu }
  let (readings, errors) := collectMemory s readings errors
  let (readings, errors) := collectUptime s readings errors
  let (disk, errors) := collectDisk c s readings.disk errors
  let (power, errors) := collectPower c s readings.power errors
  let readings := { readings with disk := disk, power := power }
  (⟨TelemetryState.new s.observedAt readings errors (durationMs s), step.calls⟩,
    { c with previousCpu := step.previousCpu })

/-- The collector over its life: an input is what a cycle meets. -/
def collector (c : Collector) : Machines.Machine Collector Sources Cycle where
  initial := c
  step c s := some ([(collect c s).1], (collect c s).2)

/-! What each step stores and reports. -/

def failure {A : Type} (metric : String) : Except String A → Option CollectorError
  | .ok _ => none
  | .error message => some ⟨metric, message⟩

theorem record_snd {A R : Type} (metric : String) (outcome : Except String A) (store : A → R → R)
    (readings : R) (errors : Errors) :
    (record metric outcome store readings errors).2 =
      errors ++ (failure metric outcome).toList := by
  cases outcome with
  | ok value => simp [record, failure]
  | error message => rfl

theorem collectCpuUsage_fst (step : CpuStep) (errors : Errors) :
    (collectCpuUsage step errors).1 = step.outcome.toOption.join := by
  unfold collectCpuUsage
  cases step.outcome with
  | ok value => rfl
  | error message => rfl

theorem collectLoadAverage_fst (s : Sources) (cpu : CpuMetrics) (errors : Errors) :
    (collectLoadAverage s cpu errors).1 =
      { cpu with
        load1 := ((loadOutcome s).toOption.map LoadAverage.oneMinute).or cpu.load1
        load5 := ((loadOutcome s).toOption.map LoadAverage.fiveMinutes).or cpu.load5
        load15 := ((loadOutcome s).toOption.map LoadAverage.fifteenMinutes).or cpu.load15 } := by
  unfold collectLoadAverage
  cases loadOutcome s with
  | ok load => rfl
  | error message => rfl

theorem collectTemperature_fst (c : Collector) (s : Sources) (cpu : CpuMetrics) (errors : Errors) :
    (collectTemperature c s cpu errors).1 =
      { cpu with temperatureC := (temperatureOutcome c s).toOption.or cpu.temperatureC } := by
  unfold collectTemperature
  cases temperatureOutcome c s with
  | ok value => rfl
  | error message => rfl

theorem collectFrequency_fst (s : Sources) (cpu : CpuMetrics) (errors : Errors) :
    (collectFrequency s cpu errors).1 =
      { cpu with frequencyMhz :=
          (frequencyOutcome s FREQUENCY_PATHS).toOption.join.or cpu.frequencyMhz } := by
  unfold collectFrequency
  cases frequencyOutcome s FREQUENCY_PATHS with
  | ok value =>
    cases value with
    | none => rfl
    | some v => rfl
  | error message => rfl

def memoryReading (memory : Option Memory.MemoryMetrics) : MemoryMetrics where
  totalBytes := memory.map Memory.MemoryMetrics.totalBytes
  availableBytes := memory.map Memory.MemoryMetrics.availableBytes
  usedBytes := memory.map Memory.MemoryMetrics.usedBytes
  usedPercent := memory.map Memory.MemoryMetrics.usedPercent

def swapReading (memory : Option Memory.MemoryMetrics) : SwapMetrics where
  totalBytes := memory.map Memory.MemoryMetrics.swapTotalBytes
  usedBytes := memory.map Memory.MemoryMetrics.swapUsedBytes
  usedPercent := memory.map Memory.MemoryMetrics.swapUsedPercent

theorem collectMemory_fst (s : Sources) (readings : TelemetryReadings) (errors : Errors)
    (memory : readings.memory = {}) (swap : readings.swap = {}) :
    (collectMemory s readings errors).1 =
      { readings with
        memory := memoryReading (memoryOutcome s).toOption
        swap := swapReading (memoryOutcome s).toOption } := by
  obtain ⟨uptime, cpu, memory', swap', disk, power⟩ := readings
  obtain rfl : memory' = {} := memory
  obtain rfl : swap' = {} := swap
  unfold collectMemory
  cases memoryOutcome s with
  | ok memory => rfl
  | error message => rfl

theorem collectUptime_fst (s : Sources) (readings : TelemetryReadings) (errors : Errors) :
    (collectUptime s readings errors).1 =
      { readings with uptimeSeconds := (uptimeOutcome s).toOption.or readings.uptimeSeconds } := by
  unfold collectUptime
  cases uptimeOutcome s with
  | ok value => rfl
  | error message => rfl

theorem collectDisk_fst (c : Collector) (s : Sources) (disk : DiskMetrics) (errors : Errors) :
    (collectDisk c s disk errors).1 = (diskOutcome c s).toOption.getD disk := by
  unfold collectDisk
  cases diskOutcome c s with
  | ok value => rfl
  | error message => rfl

theorem collectPower_fst (c : Collector) (s : Sources) (power : PowerMetrics) (errors : Errors) :
    (collectPower c s power errors).1 = ((powerOutcome c s).toOption.map powerMetrics).getD power := by
  unfold collectPower
  cases powerOutcome c s with
  | ok status => rfl
  | error message => rfl

/-- The readings of a cycle, each from its own source. -/
def readingsOf (c : Collector) (s : Sources) : TelemetryReadings where
  uptimeSeconds := (uptimeOutcome s).toOption
  cpu := {
    usagePercent := (cpuStep c s).outcome.toOption.join
    load1 := (loadOutcome s).toOption.map LoadAverage.oneMinute
    load5 := (loadOutcome s).toOption.map LoadAverage.fiveMinutes
    load15 := (loadOutcome s).toOption.map LoadAverage.fifteenMinutes
    temperatureC := (temperatureOutcome c s).toOption
    frequencyMhz := (frequencyOutcome s FREQUENCY_PATHS).toOption.join }
  memory := memoryReading (memoryOutcome s).toOption
  swap := swapReading (memoryOutcome s).toOption
  disk := (diskOutcome c s).toOption.getD (DiskMetrics.unavailable c.rootFilesystem)
  power := ((powerOutcome c s).toOption.map powerMetrics).getD {}

/-- The errors of a cycle, in the order of its steps. -/
def errorsOf (c : Collector) (s : Sources) : Errors :=
  (failure "cpu.usage_percent" (cpuStep c s).outcome).toList ++
    (failure "cpu.load_average" (loadOutcome s)).toList ++
    (failure "cpu.temperature_c" (temperatureOutcome c s)).toList ++
    (failure "cpu.frequency_mhz" (frequencyOutcome s FREQUENCY_PATHS)).toList ++
    (failure "memory" (memoryOutcome s)).toList ++
    (failure "uptime_seconds" (uptimeOutcome s)).toList ++
    (failure "disk" (diskOutcome c s)).toList ++
    (failure "power" (powerOutcome c s)).toList

theorem collect_eq (c : Collector) (s : Sources) :
    collect c s =
      (⟨TelemetryState.new s.observedAt (readingsOf c s) (errorsOf c s) (durationMs s),
          (cpuStep c s).calls⟩,
        { c with previousCpu := (cpuStep c s).previousCpu }) := by
  have start : (TelemetryReadings.unavailable c.rootFilesystem).cpu = {} := rfl
  have unread : (TelemetryReadings.unavailable c.rootFilesystem).uptimeSeconds = none := rfl
  simp only [collect, start, collectCpuUsage_fst, collectLoadAverage_fst, collectTemperature_fst,
    collectFrequency_fst, Option.or_none]
  rw [collectMemory_fst _ _ _ rfl rfl]
  simp only [collectUptime_fst, collectDisk_fst, collectPower_fst, unread, Option.or_none]
  simp only [collectCpuUsage, collectLoadAverage, collectTemperature, collectFrequency,
    collectMemory, collectUptime, collectDisk, collectPower, record_snd]
  rfl

end RpiHealth
