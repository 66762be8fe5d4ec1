import RpiHealth.Collector.Payloads
import RpiHealth.Metrics.Kernel

/-! A board by its numbers, and what the collector tells of it, cycle after cycle. -/
namespace RpiHealth

/-- Loads and the uptime are in hundredths. -/
structure Board where
  times : CpuTimes
  later : CpuTimes
  oneMinute : Nat
  fiveMinutes : Nat
  fifteenMinutes : Nat
  celsius : ℚ
  megahertz : Option ℚ
  memory : MemoryFigures
  uptime : Nat
  disk : StatvfsValues
  mask : Nat

namespace Board

/-- The counters that usage is counted from. -/
def base (h : Board) (previous : Option CpuTimes) : CpuTimes := previous.getD h.times

/-- The counters read last: a first cycle reads them twice. -/
def last (h : Board) : Option CpuTimes → CpuTimes
  | some _ => h.times
  | none => h.later

def usage (h : Board) (previous : Option CpuTimes) : Option ℚ :=
  let total := (h.base previous).totalDelta (h.last previous)
  if total = 0 then none
  else some (100 * ((h.base previous).busyDelta (h.last previous) : ℚ) / total)

/-- Current flags go before those since boot. -/
def status (h : Board) : HealthStatus :=
  if [0, 1, 2, 3].any h.mask.testBit then .critical
  else if [16, 17, 18, 19].any h.mask.testBit then .warning
  else .ok

end Board

/-- The kernel's file decides, and the firmware where there is none. -/
inductive ShowsTemperature (c : Collector) (s : Sources) (celsius : ℚ) : Prop where
  | zone (millidegrees : Int) (shown : s.readText THERMAL_ZONE 0 = .ok (thermalZone millidegrees))
      (low : -2 ^ 63 ≤ millidegrees) (high : millidegrees < 2 ^ 63)
      (is : celsius = millidegrees / 1000)
  | firmware (tenths : Nat) (absent : s.Absent THERMAL_ZONE)
      (answered : s.run c.vcgencmdPath ["measure_temp"] c.commandTimeout =
        .ok (measureTemp tenths))
      (small : tenths < 2 ^ 64) (is : celsius = tenths / 10)

inductive ShowsFrequency (s : Sources) : List String → Option ℚ → Prop where
  | unknown : ShowsFrequency s [] none
  | absent (path : String) (rest : List String) (megahertz : Option ℚ)
      (missing : s.Absent path) (other : ShowsFrequency s rest megahertz) :
      ShowsFrequency s (path :: rest) megahertz
  | here (path : String) (rest : List String) (kilohertz : U64)
      (shown : s.readText path 0 = .ok (cpufreq kilohertz)) :
      ShowsFrequency s (path :: rest) (some (kilohertz.toNat / 1000))

inductive ShowsMemory (s : Sources) (f : MemoryFigures) : Prop where
  | lines (lines : List MeminfoLine) (shown : s.readText PROC_MEMINFO 0 = .ok (procMeminfo lines))
      (printable : ∀ line ∈ lines, line.Printable)
      (once : ((lines.filterMap MeminfoLine.entry?).map Prod.fst).Nodup)
      (described : Describes
        (fun key value => (key, value) ∈ lines.filterMap MeminfoLine.entry?) f)

/-- What one cycle meets shows a board's numbers, and the processor's counters do not move
backwards. -/
structure Shows (c : Collector) (s : Sources) (h : Board) : Prop where
  times : ∃ guests rest, s.readText PROC_STAT 0 = .ok (procStat h.times guests rest)
  later : c.previousCpu = none →
    ∃ guests rest, s.readText PROC_STAT 1 = .ok (procStat h.later guests rest)
  advances : (h.base c.previousCpu).Advances (h.last c.previousCpu)
  countable : (h.base c.previousCpu).totalDelta (h.last c.previousCpu) < 2 ^ 64
  load : ∃ rest, s.readText PROC_LOADAVG 0 =
    .ok (procLoadavg h.oneMinute h.fiveMinutes h.fifteenMinutes rest)
  oneMinute : h.oneMinute < 2 ^ 64
  fiveMinutes : h.fiveMinutes < 2 ^ 64
  fifteenMinutes : h.fifteenMinutes < 2 ^ 64
  temperature : ShowsTemperature c s h.celsius
  frequency : ShowsFrequency s FREQUENCY_PATHS h.megahertz
  memory : ShowsMemory s h.memory
  uptime : ∃ rest, s.readText PROC_UPTIME 0 = .ok (procUptime h.uptime rest)
  running : h.uptime / 100 < 2 ^ 64
  disk : s.statvfs c.rootFilesystem = .ok h.disk
  accepted : h.disk.Accepted
  mask : s.run c.vcgencmdPath ["get_throttled"] c.commandTimeout = .ok (getThrottled h.mask)
  flags : h.mask < 2 ^ 32

/-- The telemetry of a board, in bytes, seconds, degrees, megahertz and percent. -/
structure Reported (previous : Option CpuTimes) (mount : String) (h : Board)
    (t : TelemetryState) : Prop where
  uptime : t.uptimeSeconds.map U64.toNat = some (h.uptime / 100)
  usage : t.cpu.usagePercent.map F64.value? = (h.usage previous).map some
  load1 : t.cpu.load1.bind F64.value? = some ((h.oneMinute : ℚ) / 100)
  load5 : t.cpu.load5.bind F64.value? = some ((h.fiveMinutes : ℚ) / 100)
  load15 : t.cpu.load15.bind F64.value? = some ((h.fifteenMinutes : ℚ) / 100)
  temperature : t.cpu.temperatureC.bind F64.value? = some h.celsius
  frequency : t.cpu.frequencyMhz.map F64.value? = h.megahertz.map some
  memory : t.memory.totalBytes.map U64.toNat = some (1024 * h.memory.total.toNat)
  available : t.memory.availableBytes.map U64.toNat =
    some (1024 * min h.memory.total.toNat h.memory.available.toNat)
  used : t.memory.usedBytes.map U64.toNat =
    some (1024 * (h.memory.total.toNat - h.memory.available.toNat))
  usedPercent : t.memory.usedPercent.bind F64.value? =
    some (percentOf (h.memory.total.toNat - h.memory.available.toNat) h.memory.total.toNat)
  swap : t.swap.totalBytes.map U64.toNat = some (1024 * h.memory.swapTotal.toNat)
  swapUsed : t.swap.usedBytes.map U64.toNat =
    some (1024 * (h.memory.swapTotal.toNat - h.memory.swapFree.toNat))
  swapPercent : t.swap.usedPercent.bind F64.value? =
    some (percentOf (h.memory.swapTotal.toNat - h.memory.swapFree.toNat)
      h.memory.swapTotal.toNat)
  disk : DiskReading mount h.disk t.disk
  power : t.power = powerMetrics (statusOf h.mask)
  health : t.health = ⟨h.status, []⟩

/-! Each part of a cycle. -/

theorem Sources.parsed_printed {A : Type} (s : Sources) (path input message : String)
    (parse : String → Except ParseError A) (a : A) (read : s.readText path 0 = .ok input)
    (parsed : parse input = .ok a) : s.parsed path parse message = .ok a := by
  rw [Sources.parsed, read]
  exact (okOr_toOption _ _ a).mpr parsed

theorem readCpuSample_printed (s : Sources) (before : Nat) (times : CpuTimes)
    (guests : List Nat) (rest : String)
    (read : s.readText PROC_STAT before = .ok (procStat times guests rest)) :
    readCpuSample s before = some times := by
  rw [readCpuSample, read]
  simp [parseProcStat_printed, Except.toOption]

section

variable (c : Collector) (s : Sources) (h : Board) (shows : Shows c s h)
include shows

/-- The counters read last are kept, and compared with those before. -/
theorem cpuStep_shown : (cpuStep c s).previousCpu = some (h.last c.previousCpu) ∧
    ∃ usage, (cpuStep c s).outcome = .ok usage ∧
      usage.map F64.value? = (h.usage c.previousCpu).map some := by
  obtain ⟨guests, rest, read⟩ := shows.times
  have first := readCpuSample_printed s 0 h.times guests rest read
  have compared : ∃ usage, usagePercent (h.base c.previousCpu) (h.last c.previousCpu) = .ok usage ∧
      usage.map F64.value? = (h.usage c.previousCpu).map some := by
    refine ⟨_, (usagePercent_eq_ok _ _ _).mpr ⟨shows.advances, shows.countable, rfl⟩, ?_⟩
    unfold Board.usage
    by_cases still : (h.base c.previousCpu).totalDelta (h.last c.previousCpu) = 0
    · simp [still]
    · have busy : (h.base c.previousCpu).busyDelta (h.last c.previousCpu) < 2 ^ 64 :=
        (Nat.sub_le _ _).trans_lt shows.countable
      simp only [still, if_false, Option.map_some]
      rw [F64.percent_value _ _ (Nat.pos_of_ne_zero still) busy shows.countable]
  obtain ⟨usage, computed, stands⟩ := compared
  unfold cpuStep
  cases known : c.previousCpu with
  | some previous =>
    rw [known] at computed stands
    simp only [first, compareSample]
    refine ⟨rfl, usage, (okOr_toOption _ _ usage).mpr computed, stands⟩
  | none =>
    obtain ⟨guests, rest, again⟩ := shows.later known
    have second := readCpuSample_printed s 1 h.later guests rest again
    rw [known] at computed stands
    simp only [first, second, compareSample]
    exact ⟨rfl, usage, (okOr_toOption _ _ usage).mpr computed, stands⟩

theorem loadOutcome_shown : ∃ load, loadOutcome s = .ok load ∧
    load.oneMinute.value? = some ((h.oneMinute : ℚ) / 100) ∧
    load.fiveMinutes.value? = some ((h.fiveMinutes : ℚ) / 100) ∧
    load.fifteenMinutes.value? = some ((h.fifteenMinutes : ℚ) / 100) := by
  obtain ⟨rest, read⟩ := shows.load
  have large : 2 ^ 64 ≤ 2 ^ 100 := by decide
  obtain ⟨load, parsed, values⟩ := parseLoadavg_printed h.oneMinute h.fiveMinutes
    h.fifteenMinutes rest (shows.oneMinute.le.trans large) (shows.fiveMinutes.le.trans large)
    (shows.fifteenMinutes.le.trans large)
  exact ⟨load, s.parsed_printed _ _ _ _ load read parsed, values⟩

theorem temperatureOutcome_shown :
    ∃ v, temperatureOutcome c s = .ok v ∧ v.value? = some h.celsius := by
  cases shows.temperature with
  | zone millidegrees shown low high is =>
    obtain ⟨v, parsed, stands⟩ := parseMillidegrees_printed millidegrees low high
    refine ⟨v, ?_, by rw [stands, is]⟩
    rw [temperatureOutcome, shown]
    exact (okOr_toOption _ _ v).mpr parsed
  | firmware tenths absent answered small is =>
    obtain ⟨v, parsed, stands⟩ := parseVcgencmdTemperature_printed tenths
      (small.le.trans (by decide))
    obtain ⟨e, missing, kind⟩ := absent
    refine ⟨v, ?_, by rw [stands, is]⟩
    rw [temperatureOutcome, missing]
    simp only [kind, if_true, answered]
    exact (okOr_toOption _ _ v).mpr parsed

theorem memoryOutcome_shown : ∃ m, memoryOutcome s = .ok m ∧ MemoryReading m h.memory := by
  cases shows.memory with
  | lines lines shown printable once described =>
    obtain ⟨m, parsed, reading⟩ := parseMeminfo_printed lines printable once h.memory described
    exact ⟨m, s.parsed_printed _ _ _ _ m shown parsed, reading⟩

theorem uptimeOutcome_shown :
    ∃ seconds, uptimeOutcome s = .ok seconds ∧ seconds.toNat = h.uptime / 100 := by
  obtain ⟨rest, read⟩ := shows.uptime
  let seconds : U64 := ⟨h.uptime / 100, shows.running⟩
  exact ⟨seconds, s.parsed_printed _ _ _ _ seconds read
    (parseUptimeSeconds_printed h.uptime rest seconds rfl), rfl⟩

theorem diskOutcome_shown :
    ∃ m, diskOutcome c s = .ok m ∧ DiskReading c.rootFilesystem h.disk m := by
  obtain ⟨sound, complete⟩ := calculateDiskMetrics_spec c.rootFilesystem h.disk
  obtain ⟨m, calculated⟩ := complete shows.accepted
  refine ⟨m, ?_, (sound m calculated).2⟩
  rw [diskOutcome, shows.disk]
  exact (okOr_toOption _ _ m).mpr calculated

theorem powerOutcome_shown : powerOutcome c s = .ok (statusOf h.mask) := by
  rw [powerOutcome, shows.mask]
  exact (okOr_toOption _ _ _).mpr (parseThrottled_printed h.mask shows.flags)

end

theorem frequencyOutcome_shown (s : Sources) (paths : List String) (megahertz : Option ℚ)
    (shows : ShowsFrequency s paths megahertz) :
    ∃ v, frequencyOutcome s paths = .ok v ∧ v.map F64.value? = megahertz.map some := by
  induction shows with
  | unknown => exact ⟨none, rfl, rfl⟩
  | absent path rest megahertz missing other ih =>
    obtain ⟨e, missing, kind⟩ := missing
    obtain ⟨v, found, stands⟩ := ih
    refine ⟨v, ?_, stands⟩
    rw [frequencyOutcome, missing]
    simp only [kind, if_true, found]
  | here path rest kilohertz shown =>
    obtain ⟨v, parsed, stands⟩ := parseFrequencyKhz_printed kilohertz
    refine ⟨some v, ?_, by rw [Option.map_some, stands]; rfl⟩
    rw [frequencyOutcome, shown]
    simp only [(okOr_toOption _ _ v).mpr parsed]
    rfl

/-- What memory is used, of all there is, in kibibytes as in bytes. -/
theorem percentage_kib (used total : U64) (a b : Nat) (part : used.toNat = 1024 * a)
    (whole : total.toNat = 1024 * b) : (percentage used total).value? = some (percentOf a b) := by
  have value : (percentage used total).value? = some (percentOf used.toNat total.toNat) :=
    F64.percentOf_value _ _ used.small total.small
  rw [value, part, whole, percentOf, percentOf]
  by_cases empty : b = 0
  · simp [empty]
  · have nonzero : (b : ℚ) ≠ 0 := by exact_mod_cast empty
    rw [if_neg (by omega), if_neg empty]
    push_cast
    rw [← mul_assoc, mul_comm (100 : ℚ) 1024, mul_assoc, mul_div_mul_left _ _ (by norm_num)]

theorem status_printed (mask : Nat) (h : Board) (is : h.mask = mask) :
    Health.evaluate (powerMetrics (statusOf mask)) [] = ⟨h.status, []⟩ := by
  subst is
  have flag (b : Bool) : (some b == some true) = b := by cases b <;> rfl
  simp [Health.evaluate, HealthStatus.evaluate, Board.status, PowerMetrics.hasCurrentProblem,
    PowerMetrics.hasHistoricalProblem, powerMetrics, statusOf]

theorem collect_reported (c : Collector) (s : Sources) (h : Board) (shows : Shows c s h) :
    Reported c.previousCpu c.rootFilesystem h (collect c s).1.state ∧
      (collect c s).2 = { c with previousCpu := some (h.last c.previousCpu) } := by
  obtain ⟨kept, usage, counted, usage_is⟩ := cpuStep_shown c s h shows
  obtain ⟨load, loaded, one, five, fifteen⟩ := loadOutcome_shown c s h shows
  obtain ⟨celsius, measured, celsius_is⟩ := temperatureOutcome_shown c s h shows
  obtain ⟨megahertz, clocked, megahertz_is⟩ := frequencyOutcome_shown s _ _ shows.frequency
  obtain ⟨memory, remembered, reading⟩ := memoryOutcome_shown c s h shows
  obtain ⟨seconds, running, seconds_is⟩ := uptimeOutcome_shown c s h shows
  obtain ⟨disk, calculated, disk_is⟩ := diskOutcome_shown c s h shows
  have powered := powerOutcome_shown c s h shows
  have whole : errorsOf c s = [] := by
    simp [errorsOf, counted, loaded, measured, clocked, remembered, running, calculated, powered,
      failure]
  have readings : readingsOf c s =
      { uptimeSeconds := some seconds
        cpu := ⟨usage, some load.oneMinute, some load.fiveMinutes, some load.fifteenMinutes,
          some celsius, megahertz⟩
        memory := memoryReading (some memory)
        swap := swapReading (some memory)
        disk := disk
        power := powerMetrics (statusOf h.mask) } := by
    simp [readingsOf, counted, loaded, measured, clocked, remembered, running, calculated,
      powered, Except.toOption]
  have used : memory.usedBytes.toNat =
      1024 * (h.memory.total.toNat - h.memory.available.toNat) := by
    have := reading.total
    have := reading.available
    have := reading.used
    omega
  have swapUsed : memory.swapUsedBytes.toNat =
      1024 * (h.memory.swapTotal.toNat - h.memory.swapFree.toNat) := by
    have := reading.swapTotal
    have := reading.swapFree
    have := reading.swapUsed
    omega
  rw [collect_eq, kept, whole, readings]
  refine ⟨?_, rfl⟩
  exact
    { uptime := congrArg some seconds_is
      usage := usage_is
      load1 := one
      load5 := five
      load15 := fifteen
      temperature := celsius_is
      frequency := megahertz_is
      memory := congrArg some reading.total
      available := congrArg some reading.available
      used := congrArg some used
      usedPercent := by
        rw [← percentage_kib _ _ _ _ used reading.total, ← reading.usedPercent]
        rfl
      swap := congrArg some reading.swapTotal
      swapUsed := congrArg some swapUsed
      swapPercent := by
        rw [← percentage_kib _ _ _ _ swapUsed reading.swapTotal, ← reading.swapUsedPercent]
        rfl
      disk := disk_is
      power := rfl
      health := status_printed h.mask h rfl }

/-! The life of a collector. -/

/-- Cycle after cycle shows a board to the collector that the cycle before left. -/
def Watches (c : Collector) : List (Sources × Board) → Prop
  | [] => True
  | (s, h) :: rest =>
    Shows c s h ∧ Watches { c with previousCpu := some (h.last c.previousCpu) } rest

/-- Each cycle tells of its own board, and of the processor since the cycle before. -/
inductive Tells (mount : String) : Option CpuTimes → List Board → List Cycle → Prop where
  | nothing (previous : Option CpuTimes) : Tells mount previous [] []
  | cycle (previous : Option CpuTimes) (h : Board) (boards : List Board) (told : Cycle)
      (cycles : List Cycle) (reported : Reported previous mount h told.state)
      (rest : Tells mount (some (h.last previous)) boards cycles) :
      Tells mount previous (h :: boards) (told :: cycles)

theorem shown_roundable (c : Collector) (s : Sources) (h : Board) (shows : Shows c s h) :
    s.Roundable c := by
  have bounded (v : F64) (units places size : Nat) (positive : 0 < size)
      (stands : v.value? = some ((units : ℚ) / size)) (small : units < 2 ^ 64)
      (few : places ≤ 2) : Roundable v places := by
    have at_least : (1 : ℚ) ≤ size := by exact_mod_cast positive
    have below : |(units : ℚ) / size| ≤ ((2 ^ 64 : ℚ≥0) : ℚ) := by
      rw [abs_of_nonneg (by positivity)]
      exact (div_le_self (by positivity) at_least).trans (by exact_mod_cast small.le)
    exact roundable_of_within (2 ^ 64) v places (F64.within_of_value v _ _ stands below)
      (pow_le_pow_right₀ (by norm_num) (by decide)) few
  constructor
  · intro input load read parsed
    obtain ⟨found, loaded, one, five, fifteen⟩ := loadOutcome_shown c s h shows
    have same : load = found := by
      have stored := s.parsed_printed _ input "load averages are unavailable or malformed"
        parseLoadavg load read parsed
      exact Except.ok.inj (stored.symm.trans loaded)
    subst same
    exact ⟨bounded _ _ 2 100 (by decide) (by exact_mod_cast one) shows.oneMinute le_rfl,
      bounded _ _ 2 100 (by decide) (by exact_mod_cast five) shows.fiveMinutes le_rfl,
      bounded _ _ 2 100 (by decide) (by exact_mod_cast fifteen) shows.fifteenMinutes le_rfl⟩
  · intro output value absent answered parsed
    cases shows.temperature with
    | zone millidegrees shown low high is =>
      obtain ⟨e, missing, -⟩ := absent
      rw [shown] at missing
      cases missing
    | firmware tenths absent asked small is =>
      obtain ⟨v, read, stands⟩ := parseVcgencmdTemperature_printed tenths
        (small.le.trans (by decide))
      rw [asked] at answered
      rw [← Except.ok.inj answered, read] at parsed
      rw [← Except.ok.inj parsed]
      exact bounded v tenths 1 10 (by decide) (by exact_mod_cast stands) small (by decide)

theorem collector_cons (c : Collector) (s : Sources) (rest : List Sources) :
    (collector c).run (s :: rest) = ((collector (collect c s).2).run rest).map
      (fun ran => ((collect c s).1 :: ran.1, ran.2)) := by
  have same (d : Collector) (inputs : List Sources) (start : Collector) :
      (collector c).runFrom start inputs = (collector d).runFrom start inputs := by
    induction inputs generalizing start with
    | nil => rfl
    | cons input inputs ih =>
      rw [Machines.Machine.runFrom, Machines.Machine.runFrom]
      exact congrArg (Option.map _) (ih (collect start input).2)
  have rest_is := same (collect c s).2 rest (collect c s).2
  rw [Machines.Machine.run, Machines.Machine.run, Machines.Machine.runFrom]
  exact congrArg (Option.map _) rest_is

/-- As long as the board prints its numbers, every cycle reports them and no error, and
ends in a payload. -/
theorem boards_reported (times : TimeFormat) (c : Collector) (life : List (Sources × Board))
    (watches : Watches c life)
    (formats : ∀ t : ObservationTime, t.WithinYears → (times.format t).isSome)
    (clock : ∀ shown ∈ life, shown.1.observedAt.WithinYears) :
    (∃ cycles final, (collector c).run (life.map Prod.fst) = some (cycles, final) ∧
      Tells c.rootFilesystem c.previousCpu (life.map Prod.snd) cycles) ∧
    ∀ p ∈ payloads times c (life.map Prod.fst), ∃ document, p = .ok document := by
  induction life generalizing c with
  | nil => exact ⟨⟨[], c, rfl, .nothing _⟩, by simp [payloads]⟩
  | cons shown rest ih =>
    obtain ⟨s, h⟩ := shown
    obtain ⟨shows, later⟩ := watches
    obtain ⟨reported, left⟩ := collect_reported c s h shows
    have next := ih _ later (fun other member => clock other (List.mem_cons_of_mem _ member))
    obtain ⟨⟨cycles, final, ran, tells⟩, documents⟩ := next
    refine ⟨⟨(collect c s).1 :: cycles, final, ?_, .cycle _ h _ _ _ reported tells⟩, ?_⟩
    · rw [List.map_cons, collector_cons, left, ran]
      rfl
    · rw [List.map_cons, payloads, List.forall_mem_cons]
      refine ⟨(collectPayload_ok times c s (formats _ (clock (s, h) List.mem_cons_self))).mpr
        (shown_roundable c s h shows), ?_⟩
      rw [collectPayload, left]
      exact documents

/-- A board that runs for a minute. -/
def youngBoard : Board where
  times := ⟨100, 0, 50, 800, 20, 0, 5, 0⟩
  later := ⟨150, 0, 60, 830, 20, 0, 5, 0⟩
  oneMinute := 52
  fiveMinutes := 8
  fifteenMinutes := 100
  celsius := 48312 / 1000
  megahertz := some (900000 / 1000)
  memory := ⟨1000000, 400000, 0, 0⟩
  uptime := 6042
  disk := ⟨4096, 1000, 400, 300⟩
  mask := 0x50005

/-- The same board a minute later, without thermal zone and frequency files. -/
def olderBoard : Board where
  times := ⟨200, 0, 70, 900, 20, 0, 5, 0⟩
  later := ⟨200, 0, 70, 900, 20, 0, 5, 0⟩
  oneMinute := 60
  fiveMinutes := 9
  fifteenMinutes := 100
  celsius := 505 / 10
  megahertz := none
  memory := ⟨1000000, 400000, 0, 0⟩
  uptime := 12042
  disk := ⟨4096, 1000, 400, 300⟩
  mask := 0x50000

def sampleMeminfo : List MeminfoLine :=
  [.known .memTotal 8 1000000, .known .memAvailable 4 400000, .other "HugePages_Total:       0",
    .known .swapTotal 15 0, .known .swapFree 16 0]

/-- Files by their paths, in the order in which they are read, and the firmware's answers. -/
def printedSources (files : List (String × String)) (answers : List (List String × String))
    (disk : StatvfsValues) : Sources where
  readText path before :=
    ((files.filter (fun file => file.1 == path))[before]?).elim
      (.error ⟨.notFound, "no such file"⟩) (fun file => .ok file.2)
  run _ arguments _ := (answers.find? (fun answer => answer.1 == arguments)).elim
    (.error .nonZeroExit) (fun answer => .ok answer.2)
  statvfs _ := .ok disk
  observedAt := ⟨0⟩
  startedAt := 0
  endedAt := 0

def youngSources : Sources := printedSources
  [(PROC_STAT, procStat youngBoard.times [0, 0] "intr 1\n"),
    (PROC_STAT, procStat youngBoard.later [0, 0] "intr 2\n"),
    (PROC_LOADAVG, procLoadavg 52 8 100 "1/99 321\n"), (THERMAL_ZONE, thermalZone 48312),
    ("/sys/devices/system/cpu/cpu0/cpufreq/cpuinfo_cur_freq", cpufreq 900000),
    (PROC_MEMINFO, procMeminfo sampleMeminfo), (PROC_UPTIME, procUptime 6042 "100.00\n")]
  [(["get_throttled"], getThrottled 0x50005)] youngBoard.disk

def olderSources : Sources := printedSources
  [(PROC_STAT, procStat olderBoard.times [0, 0] "intr 3\n"),
    (PROC_LOADAVG, procLoadavg 60 9 100 "1/99 321\n"),
    (PROC_MEMINFO, procMeminfo sampleMeminfo), (PROC_UPTIME, procUptime 12042 "200.00\n")]
  [(["measure_temp"], measureTemp 505), (["get_throttled"], getThrottled 0x50000)] olderBoard.disk

theorem sampleMeminfo_printable : ∀ line ∈ sampleMeminfo, line.Printable := by
  simp only [sampleMeminfo, List.forall_mem_cons, MeminfoLine.Printable, true_and]
  exact ⟨⟨Text.oneLine_printable _ (by simp), by decide⟩, by simp⟩

theorem sampleMeminfo_described :
    Describes (fun key value => (key, value) ∈ sampleMeminfo.filterMap MeminfoLine.entry?)
      ⟨1000000, 400000, 0, 0⟩ where
  total := by decide
  nonzero := by decide
  available := .inl (by decide)
  swapTotal := by decide
  swapFree := by decide
  totalFits := by decide
  swapFits := by decide

theorem youngBoard_advances : youngBoard.times.Advances youngBoard.later := by
  constructor <;> decide

theorem youngBoard_countable : youngBoard.times.totalDelta youngBoard.later < 2 ^ 64 := by decide

theorem youngSources_shows (commandTimeout : Nat) :
    Shows { sampleCollector with commandTimeout := commandTimeout } youngSources youngBoard where
  times := ⟨_, _, rfl⟩
  later _ := ⟨_, _, rfl⟩
  advances := youngBoard_advances
  countable := youngBoard_countable
  load := ⟨_, rfl⟩
  oneMinute := by decide
  fiveMinutes := by decide
  fifteenMinutes := by decide
  temperature := .zone 48312 rfl (by decide) (by decide) rfl
  frequency := .absent _ _ _ ⟨_, rfl, rfl⟩ (.here _ _ 900000 rfl)
  memory := .lines sampleMeminfo rfl sampleMeminfo_printable (by decide) sampleMeminfo_described
  uptime := ⟨_, rfl⟩
  running := by decide
  disk := rfl
  accepted := by constructor <;> decide
  mask := rfl
  flags := by decide

theorem olderSources_shows :
    Shows { sampleCollector with previousCpu := some youngBoard.later } olderSources olderBoard where
  times := ⟨_, _, rfl⟩
  later first := absurd first (Option.some_ne_none _)
  advances := by constructor <;> decide
  countable := by decide
  load := ⟨_, rfl⟩
  oneMinute := by decide
  fiveMinutes := by decide
  fifteenMinutes := by decide
  temperature := .firmware 505 ⟨_, rfl, rfl⟩ rfl (by decide) rfl
  frequency := .absent _ _ _ ⟨_, rfl, rfl⟩ (.absent _ _ _ ⟨_, rfl, rfl⟩ .unknown)
  memory := .lines sampleMeminfo rfl sampleMeminfo_printable (by decide) sampleMeminfo_described
  uptime := ⟨_, rfl⟩
  running := by decide
  disk := rfl
  accepted := by constructor <;> decide
  mask := rfl
  flags := by decide

/-- Two minutes of a board. -/
theorem boards_reported_minutes :
    (∃ cycles final, (collector sampleCollector).run [youngSources, olderSources] =
        some (cycles, final) ∧ Tells "/" none [youngBoard, olderBoard] cycles) ∧
      ∀ p ∈ payloads sampleTimes sampleCollector [youngSources, olderSources],
        ∃ document, p = .ok document := by
  apply boards_reported sampleTimes sampleCollector
    [(youngSources, youngBoard), (olderSources, olderBoard)]
    ⟨youngSources_shows 3000000000, olderSources_shows, True.intro⟩
  · intro t _
    rfl
  · simp only [List.forall_mem_cons]
    have epoch : (ObservationTime.mk 0).WithinYears := by
      unfold ObservationTime.WithinYears
      decide
    exact ⟨epoch, epoch, by simp⟩

end RpiHealth
