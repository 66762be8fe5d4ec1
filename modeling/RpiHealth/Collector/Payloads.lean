import RpiHealth.Collector.Baseline
import RpiHealth.Collector.Isolation
import RpiHealth.Telemetry.Payload

/-! Which contents of the sources end in a payload, over the life of a collector. -/
namespace RpiHealth

inductive DaemonError where
  | stateSerialization (source : String)
  deriving DecidableEq, Repr

def collectPayload (times : TimeFormat) (c : Collector) (s : Sources) :
    Except DaemonError Document × Collector :=
  let (cycle, next) := collect c s
  ((cycle.state.serialize times).mapError .stateSerialization, next)

/-- The payloads of a run of cycles. -/
def payloads (times : TimeFormat) (c : Collector) : List Sources → List (Except DaemonError Document)
  | [] => []
  | s :: rest => (collectPayload times c s).1 :: payloads times (collectPayload times c s).2 rest

/-- The years 0 to 9999, in nanoseconds. -/
def ObservationTime.WithinYears (t : ObservationTime) : Prop :=
  -62167219200 * 10 ^ 9 ≤ t.unixNanos ∧ t.unixNanos < 253402300800 * 10 ^ 9

/-- An accepted load average stays in range with two decimal places, and so does an
accepted temperature of the firmware with one, where the firmware is asked. -/
structure Sources.Roundable (c : Collector) (s : Sources) : Prop where
  load : ∀ input load, s.readText PROC_LOADAVG 0 = .ok input → parseLoadavg input = .ok load →
    RpiHealth.Roundable load.oneMinute 2 ∧ RpiHealth.Roundable load.fiveMinutes 2 ∧
      RpiHealth.Roundable load.fifteenMinutes 2
  temperature : ∀ output value, s.Absent THERMAL_ZONE →
    s.run c.vcgencmdPath ["measure_temp"] c.commandTimeout = .ok output →
    parseVcgencmdTemperature output = .ok value → RpiHealth.Roundable value 1

/-! Every other measurement is small. -/

theorem roundable_of_within (bound : ℚ≥0) (v : F64) (decimalPlaces : Nat)
    (within : F64.Within bound v) (small : bound ≤ 2 ^ 80) (few : decimalPlaces ≤ 2) :
    Roundable v decimalPlaces := by
  obtain ⟨negative, x, inside, rfl, bounded⟩ := within
  refine ⟨negative, x, inside, rfl, ?_⟩
  have hundred : 10 ^ decimalPlaces ≤ 2 ^ 7 := (Nat.pow_le_pow_right (by decide) few).trans (by decide)
  have factor : ((10 ^ decimalPlaces : Nat) : ℚ≥0) ≤ 2 ^ 7 := by exact_mod_cast hundred
  calc x * ((10 ^ decimalPlaces : Nat) : ℚ≥0) ≤ 2 ^ 80 * 2 ^ 7 :=
        mul_le_mul' (bounded.trans small) factor
    _ = 2 ^ 87 := by rw [← pow_add]
    _ ≤ F64.MAX := F64.power_le_max 87 (by decide)

theorem writable_of_within (bound : ℚ≥0) (decimalPlaces : Nat) (value : Option F64)
    (within : ∀ v ∈ value, F64.Within bound v) (small : bound ≤ 2 ^ 80)
    (few : decimalPlaces ≤ 2) : Writable decimalPlaces value :=
  fun v member => roundable_of_within bound v decimalPlaces (within v member) small few

theorem percent_within (v : F64) (part whole : Nat) (stands : v.value? = some (percentOf part whole))
    (within : part ≤ whole) : F64.Within 100 v := by
  obtain ⟨lower, upper⟩ := percentOf_range part whole within
  apply F64.within_of_value v _ 100 stands
  rw [abs_of_nonneg lower]
  exact_mod_cast upper

theorem usage_within (c : Collector) (s : Sources) :
    ∀ v ∈ (cpuStep c s).outcome.toOption.join, F64.Within 100 v := by
  intro v reported
  obtain ⟨-, -, used⟩ := cpuStep_calls c s
  obtain ⟨a, b, -, computed⟩ := used v reported
  obtain ⟨-, positive, -, stands⟩ := usagePercent_eq_some a b v computed
  apply percent_within v (a.busyDelta b) (a.totalDelta b) _ (Nat.sub_le _ _)
  rw [stands, percentOf, if_neg positive.ne']

theorem millidegrees_within (input : String) (v : F64)
    (parsed : parseMillidegreesCelsius input = .ok v) : F64.Within (2 ^ 63) v := by
  unfold parseMillidegreesCelsius at parsed
  split at parsed
  · cases parsed
  · obtain ⟨n, read, same⟩ := (okOr_bind _ _ _ _).mp parsed
    rw [← Except.ok.inj same]
    have small := Text.parseSigned_natAbs _ _ _ n read
    have bounded : ((n.natAbs : ℕ) : ℚ≥0) ≤ 2 ^ 63 := by exact_mod_cast small
    have numerator := F64.ofInt_within n (small.trans (by decide))
    obtain ⟨negative, x, within, whole, bound⟩ :=
      F64.div_within _ _ 1000 numerator (by decide) (by decide)
    exact ⟨negative, x, within, whole, bound.trans bounded⟩
  · cases parsed

theorem frequency_within (input : String) (v : F64) (parsed : parseFrequencyKhz input = .ok v) :
    F64.Within (2 ^ 64) v := by
  unfold parseFrequencyKhz at parsed
  split at parsed
  · cases parsed
  · obtain ⟨n, -, same⟩ := (okOr_bind _ _ _ _).mp parsed
    rw [← Except.ok.inj same]
    have small := n.small
    have bounded : ((n.toNat : ℕ) : ℚ≥0) ≤ 2 ^ 64 := by exact_mod_cast small.le
    have numerator := F64.ofNat_within n.toNat (by omega)
    obtain ⟨negative, x, within, whole, bound⟩ :=
      F64.div_within _ _ 1000 numerator (by decide) (by decide)
    exact ⟨negative, x, within, whole, bound.trans bounded⟩
  · cases parsed

theorem memory_within (input : String) (m : Memory.MemoryMetrics)
    (parsed : parseMeminfo input = .ok m) :
    F64.Within 100 m.usedPercent ∧ F64.Within 100 m.swapUsedPercent := by
  obtain ⟨-, f, -, reading⟩ := (parseMeminfo_eq_ok input m).mp parsed
  have used := reading.used
  have swapUsed := reading.swapUsed
  constructor
  · rw [reading.usedPercent]
    apply percent_within _ m.usedBytes.toNat m.totalBytes.toNat _ (by omega)
    exact F64.percentOf_value _ _ m.usedBytes.small m.totalBytes.small
  · rw [reading.swapUsedPercent]
    apply percent_within _ m.swapUsedBytes.toNat m.swapTotalBytes.toNat _ (by omega)
    exact F64.percentOf_value _ _ m.swapUsedBytes.small m.swapTotalBytes.small

theorem disk_within (c : Collector) (s : Sources) (m : DiskMetrics)
    (stored : diskOutcome c s = .ok m) : ∀ v ∈ m.usedPercent, F64.Within 100 v := by
  obtain ⟨values, reading⟩ := diskOutcome_ok c s m stored
  intro v member
  have percent := reading.percent
  rw [member] at percent
  exact percent_within v values.used (values.used + values.available) percent (Nat.le_add_right _ _)

theorem parsed_ok {A : Type} (s : Sources) (path : String) (parse : String → Except ParseError A)
    (message : String) (a : A) : s.parsed path parse message = .ok a ↔
      ∃ input, s.readText path 0 = .ok input ∧ parse input = .ok a := by
  unfold Sources.parsed
  cases s.readText path 0 with
  | error e => simp
  | ok input => simp [okOr_toOption]

theorem temperatureOutcome_ok (c : Collector) (s : Sources) (v : F64) :
    temperatureOutcome c s = .ok v ↔
      (∃ input, s.readText THERMAL_ZONE 0 = .ok input ∧ parseMillidegreesCelsius input = .ok v) ∨
      (s.Absent THERMAL_ZONE ∧ ∃ output,
        s.run c.vcgencmdPath ["measure_temp"] c.commandTimeout = .ok output ∧
          parseVcgencmdTemperature output = .ok v) := by
  unfold temperatureOutcome Sources.Absent
  cases s.readText THERMAL_ZONE 0 with
  | ok input => simp [okOr_toOption]
  | error e =>
    by_cases absent : e.kind = .notFound
    · cases s.run c.vcgencmdPath ["measure_temp"] c.commandTimeout with
      | ok output => simp [absent, okOr_toOption]
      | error failure => simp [absent]
    · simp [absent]

theorem frequencyOutcome_some (s : Sources) (paths : List String) (v : F64)
    (stored : frequencyOutcome s paths = .ok (some v)) :
    ∃ input, parseFrequencyKhz input = .ok v := by
  induction paths with
  | nil => cases stored
  | cons path rest ih =>
    rw [frequencyOutcome] at stored
    cases read : s.readText path 0 with
    | ok input =>
      simp only [read] at stored
      cases parsed : parseFrequencyKhz input with
      | error e =>
        rw [parsed] at stored
        cases stored
      | ok w =>
        rw [parsed] at stored
        cases stored
        exact ⟨input, parsed⟩
    | error e =>
      simp only [read] at stored
      split at stored
      · exact ih stored
      · cases stored

/-! The payload of a cycle, and of all of them. -/

theorem loads_writable (s : Sources) (places : Nat) :
    (Writable places ((loadOutcome s).toOption.map LoadAverage.oneMinute) ∧
      Writable places ((loadOutcome s).toOption.map LoadAverage.fiveMinutes) ∧
      Writable places ((loadOutcome s).toOption.map LoadAverage.fifteenMinutes)) ↔
    ∀ input load, s.readText PROC_LOADAVG 0 = .ok input → parseLoadavg input = .ok load →
      Roundable load.oneMinute places ∧ Roundable load.fiveMinutes places ∧
        Roundable load.fifteenMinutes places := by
  have stored (load : LoadAverage) : loadOutcome s = .ok load ↔ ∃ input,
      s.readText PROC_LOADAVG 0 = .ok input ∧ parseLoadavg input = .ok load :=
    parsed_ok s _ _ _ load
  cases outcome : loadOutcome s with
  | error message =>
    have never (load : LoadAverage) : loadOutcome s ≠ .ok load := by simp [outcome]
    constructor
    · intro _ input load read parsed
      exact absurd ((stored load).mpr ⟨input, read, parsed⟩) (never load)
    · intro _
      simp [Writable, Except.toOption]
  | ok found =>
    simp only [Writable, Except.toOption, Option.map_some, Option.mem_some, forall_eq']
    constructor
    · intro writable input load read parsed
      have same := (stored load).mpr ⟨input, read, parsed⟩
      rw [outcome] at same
      rwa [← Except.ok.inj same]
    · intro all
      obtain ⟨input, read, parsed⟩ := (stored found).mp outcome
      exact all input found read parsed

theorem temperature_writable (c : Collector) (s : Sources) :
    Writable 1 (temperatureOutcome c s).toOption ↔
      ∀ output value, s.Absent THERMAL_ZONE →
        s.run c.vcgencmdPath ["measure_temp"] c.commandTimeout = .ok output →
        parseVcgencmdTemperature output = .ok value → Roundable value 1 := by
  simp only [Writable, mem_toOption, temperatureOutcome_ok]
  constructor
  · intro writable output value absent answered parsed
    exact writable value (.inr ⟨absent, output, answered, parsed⟩)
  · rintro all v (⟨input, -, parsed⟩ | ⟨absent, output, answered, parsed⟩)
    · exact roundable_of_within _ v 1 (millidegrees_within input v parsed)
        (pow_le_pow_right₀ (by norm_num) (by decide)) (by decide)
    · exact all output v absent answered parsed

theorem cpu_writable (c : Collector) (s : Sources) :
    (∃ d, (readingsOf c s).cpu.serialize = .ok d) ↔ s.Roundable c := by
  rw [CpuMetrics.serialize_ok]
  have usage : Writable 1 (readingsOf c s).cpu.usagePercent :=
    writable_of_within 100 1 _ (usage_within c s) (by norm_num) (by decide)
  have frequency : Writable 1 (readingsOf c s).cpu.frequencyMhz := by
    intro v member
    have reported := Option.join_eq_some_iff.mp member
    have stored := (mem_toOption _ _).mp reported
    obtain ⟨input, parsed⟩ := frequencyOutcome_some s _ v stored
    exact roundable_of_within _ v 1 (frequency_within input v parsed)
      (pow_le_pow_right₀ (by norm_num) (by decide)) (by decide)
  have loads := loads_writable s 2
  have temperature := temperature_writable c s
  constructor
  · rintro ⟨-, load1, load5, load15, measured, -⟩
    exact ⟨loads.mp ⟨load1, load5, load15⟩, temperature.mp measured⟩
  · intro roundable
    obtain ⟨load1, load5, load15⟩ := loads.mpr roundable.load
    exact ⟨usage, load1, load5, load15, temperature.mpr roundable.temperature, frequency⟩

/-- Percentages of memory, swap and disk can always be written. -/
theorem percentages_writable (c : Collector) (s : Sources) :
    Writable 1 (readingsOf c s).memory.usedPercent ∧ Writable 1 (readingsOf c s).swap.usedPercent ∧
      Writable 1 (readingsOf c s).disk.usedPercent := by
  have hundred : (100 : ℚ≥0) ≤ 2 ^ 80 := by norm_num
  have memory (m : Memory.MemoryMetrics) (member : m ∈ (memoryOutcome s).toOption) :
      F64.Within 100 m.usedPercent ∧ F64.Within 100 m.swapUsedPercent := by
    have stored := (mem_toOption _ m).mp member
    obtain ⟨input, -, parsed⟩ := (parsed_ok s _ _ _ m).mp stored
    exact memory_within input m parsed
  refine ⟨?_, ?_, ?_⟩
  · apply writable_of_within 100 1 _ _ hundred (by decide)
    intro v member
    obtain ⟨m, stored, rfl⟩ := Option.mem_map.mp member
    exact (memory m stored).1
  · apply writable_of_within 100 1 _ _ hundred (by decide)
    intro v member
    obtain ⟨m, stored, rfl⟩ := Option.mem_map.mp member
    exact (memory m stored).2
  · apply writable_of_within 100 1 _ _ hundred (by decide)
    cases outcome : diskOutcome c s with
    | error message =>
      intro v member
      simp only [readingsOf, outcome] at member
      cases member
    | ok m =>
      have stored : (readingsOf c s).disk = m := by simp [readingsOf, outcome, Except.toOption]
      rw [stored]
      exact disk_within c s m outcome

theorem collectPayload_ok (times : TimeFormat) (c : Collector) (s : Sources)
    (formatted : (times.format s.observedAt).isSome) :
    (∃ d, (collectPayload times c s).1 = .ok d) ↔ s.Roundable c := by
  have written (d : Document) : (collectPayload times c s).1 = .ok d ↔
      (collect c s).1.state.serialize times = .ok d := by
    simp only [collectPayload]
    cases (collect c s).1.state.serialize times with
    | error message => simp [Except.mapError]
    | ok document => simp [Except.mapError]
  obtain ⟨memory, swap, disk⟩ := percentages_writable c s
  simp only [written, TelemetryState.serialize_ok]
  rw [collect_eq]
  constructor
  · rintro ⟨-, cpu, -⟩
    exact (cpu_writable c s).mp cpu
  · intro roundable
    exact ⟨formatted, (cpu_writable c s).mpr roundable, memory, swap, disk⟩

/-- The configuration of a collector does not change, and the condition reads nothing else. -/
theorem roundable_next (times : TimeFormat) (c : Collector) (s t : Sources) :
    t.Roundable (collectPayload times c s).2 ↔ t.Roundable c := by
  have kept : (collectPayload times c s).2 = { c with previousCpu := (cpuStep c s).previousCpu } := by
    simp only [collectPayload, collect_eq]
  rw [kept]
  constructor
  · rintro ⟨load, temperature⟩
    exact ⟨load, temperature⟩
  · rintro ⟨load, temperature⟩
    exact ⟨load, temperature⟩

/-- All payloads of a life are there exactly if no cycle accepts a load average or a
firmware temperature that leaves the range when it is rounded. -/
theorem payloads_ok_iff (times : TimeFormat) (c : Collector) (cycles : List Sources)
    (formats : ∀ t : ObservationTime, t.WithinYears → (times.format t).isSome)
    (clock : ∀ s ∈ cycles, s.observedAt.WithinYears) :
    (∀ p ∈ payloads times c cycles, ∃ d, p = .ok d) ↔ ∀ s ∈ cycles, s.Roundable c := by
  induction cycles generalizing c with
  | nil => simp [payloads]
  | cons s rest ih =>
    rw [List.forall_mem_cons] at clock
    rw [payloads, List.forall_mem_cons, List.forall_mem_cons,
      collectPayload_ok times c s (formats _ clock.1), ih _ clock.2]
    simp only [roundable_next]

/-- The format of the one instant that the samples use. -/
def sampleTimes : TimeFormat where
  format _ := some "1970-01-01T00:00:00Z"

theorem payloads_ok_sample : (∀ p ∈ payloads sampleTimes sampleCollector sampleCycles,
    ∃ d, p = .ok d) ↔ ∀ s ∈ sampleCycles, s.Roundable sampleCollector := by
  apply payloads_ok_iff sampleTimes sampleCollector sampleCycles
  · intro t _
    rfl
  · intro s member
    have instant : s.observedAt = ⟨0⟩ := by
      simp only [sampleCycles, List.mem_cons, List.not_mem_nil, or_false] at member
      rcases member with rfl | rfl | rfl
      · rfl
      · rfl
      · rfl
    rw [instant]
    unfold ObservationTime.WithinYears
    decide

theorem huge_le_max : (10 : ℚ≥0) ^ 308 ≤ F64.MAX := by
  have small : 10 ^ 308 ≤ (2 ^ 53 - 1) * 2 ^ 971 := by decide +kernel
  rw [F64.max_natCast]
  exact_mod_cast small

theorem huge_overflows : ¬ (10 : ℚ≥0) ^ 308 * ((10 ^ 2 : Nat) : ℚ≥0) ≤ F64.MAX := by
  have large : ¬ 10 ^ 308 * 10 ^ 2 ≤ (2 ^ 53 - 1) * 2 ^ 971 := by decide +kernel
  rw [F64.max_natCast]
  intro small
  exact large (by exact_mod_cast small)

theorem parse_huge : F64.parse "1e308" = some (.finite false (10 ^ 308) huge_le_max) := by
  have read : F64.parse "1e308" = some (F64.ofMagnitude false (((1 : ℕ) : ℚ≥0) * 10 ^ 308)) := rfl
  have one : ((1 : ℕ) : ℚ≥0) * 10 ^ 308 = 10 ^ 308 := by rw [Nat.cast_one, one_mul]
  rw [read, one, F64.ofMagnitude_of_le _ _ huge_le_max]

theorem parseNonNegativeFloat_finite (raw name : String) (x : ℚ≥0) (within : x ≤ F64.MAX)
    (parsed : F64.parse raw = some (.finite false x within)) :
    parseNonNegativeFloat (some raw) name = .ok (.finite false x within) := by
  rw [parseNonNegativeFloat, okOr_bind]
  refine ⟨raw, rfl, ?_⟩
  rw [okOr_bind]
  exact ⟨_, parsed, rfl⟩

/-- A load average that is accepted and cannot be written. -/
theorem huge_load_accepted : parseLoadavg "1e308 0 0" =
    .ok ⟨.finite false (10 ^ 308) huge_le_max, .finite false 0 zero_le, .finite false 0 zero_le⟩ := by
  have words : Text.words "1e308 0 0" = ["1e308", "0", "0"] := by decide +kernel
  have zero : F64.parse "0" = some (.finite false 0 zero_le) := by
    have read : F64.parse "0" = some (F64.ofMagnitude false ((0 : ℕ) : ℚ≥0)) := rfl
    rw [read, Nat.cast_zero, F64.ofMagnitude_of_le _ _ zero_le]
  simp only [parseLoadavg, words, List.getElem?_cons_zero, List.getElem?_cons_succ,
    parseNonNegativeFloat_finite _ _ _ _ parse_huge, parseNonNegativeFloat_finite _ _ _ _ zero]
  rfl

/-- Nothing can be read but the load averages. -/
def hugeLoad : Sources where
  readText path _ :=
    if path = PROC_LOADAVG then .ok "1e308 0 0" else .error ⟨.other, "permission denied"⟩
  run _ _ _ := .error .timedOut
  statvfs _ := .error ⟨.other, "permission denied"⟩
  observedAt := ⟨0⟩
  startedAt := 0
  endedAt := 0

theorem huge_load_stops :
    ¬ ∀ (times : TimeFormat) (c : Collector) (cycles : List Sources),
      (∀ t : ObservationTime, t.WithinYears → (times.format t).isSome) →
      (∀ s ∈ cycles, s.observedAt.WithinYears) →
      ∀ p ∈ payloads times c cycles, ∃ d, p = .ok d := by
  intro never
  have instant : ∀ s ∈ [hugeLoad], s.observedAt.WithinYears := by
    intro s member
    rw [List.mem_singleton.mp member]
    unfold ObservationTime.WithinYears
    decide
  have first := never sampleTimes sampleCollector [hugeLoad] (fun _ _ => rfl) instant _
    List.mem_cons_self
  have roundable := (collectPayload_ok sampleTimes sampleCollector hugeLoad rfl).mp first
  obtain ⟨⟨negative, x, within, same, small⟩, -, -⟩ := roundable.load _ _ rfl huge_load_accepted
  cases same
  exact huge_overflows small

end RpiHealth
