import RpiHealth.Collector.Collector

/-! Partial failure: each group of readings stands or falls with its own source, and
the list of errors says which. -/
namespace RpiHealth

inductive MetricGroup where
  | cpuUsage | loadAverage | temperature | frequency | memory | uptime | disk | power
  deriving DecidableEq, Repr

namespace MetricGroup

def metric : MetricGroup → String
  | .cpuUsage => "cpu.usage_percent"
  | .loadAverage => "cpu.load_average"
  | .temperature => "cpu.temperature_c"
  | .frequency => "cpu.frequency_mhz"
  | .memory => "memory"
  | .uptime => "uptime_seconds"
  | .disk => "disk"
  | .power => "power"

/-- In the order of the steps of a cycle. -/
def all : List MetricGroup :=
  [.cpuUsage, .loadAverage, .temperature, .frequency, .memory, .uptime, .disk, .power]

theorem mem_all (g : MetricGroup) : g ∈ all := by
  cases g <;> decide

theorem metric_injective (g h : MetricGroup) (same : g.metric = h.metric) : g = h := by
  revert same
  cases g <;> cases h <;> decide

end MetricGroup

namespace TelemetryState

def HasError (t : TelemetryState) (g : MetricGroup) : Prop :=
  ∃ e ∈ t.health.collectorErrors, e.metric = g.metric

/-- Which fields of a group have a value. -/
def presence (t : TelemetryState) : MetricGroup → List Bool
  | .cpuUsage => [t.cpu.usagePercent.isSome]
  | .loadAverage => [t.cpu.load1.isSome, t.cpu.load5.isSome, t.cpu.load15.isSome]
  | .temperature => [t.cpu.temperatureC.isSome]
  | .frequency => [t.cpu.frequencyMhz.isSome]
  | .memory =>
    [t.memory.totalBytes.isSome, t.memory.availableBytes.isSome, t.memory.usedBytes.isSome,
      t.memory.usedPercent.isSome, t.swap.totalBytes.isSome, t.swap.usedBytes.isSome,
      t.swap.usedPercent.isSome]
  | .uptime => [t.uptimeSeconds.isSome]
  | .disk =>
    [t.disk.totalBytes.isSome, t.disk.availableBytes.isSome, t.disk.usedBytes.isSome,
      t.disk.usedPercent.isSome]
  | .power =>
    [t.power.throttledRaw.isSome, t.power.undervoltageNow.isSome,
      t.power.armFrequencyCappedNow.isSome, t.power.throttledNow.isSome,
      t.power.softTemperatureLimitNow.isSome, t.power.undervoltageSinceBoot.isSome,
      t.power.armFrequencyCappedSinceBoot.isSome, t.power.throttledSinceBoot.isSome,
      t.power.softTemperatureLimitSinceBoot.isSome]

def Present (t : TelemetryState) (g : MetricGroup) : Prop := ∀ p ∈ t.presence g, p = true

def Null (t : TelemetryState) (g : MetricGroup) : Prop := ∀ p ∈ t.presence g, p = false

/-- Two states have the same readings of a group, and the same errors. -/
def SameGroup (g : MetricGroup) (a b : TelemetryState) : Prop :=
  (match g with
    | .cpuUsage => a.cpu.usagePercent = b.cpu.usagePercent
    | .loadAverage =>
      a.cpu.load1 = b.cpu.load1 ∧ a.cpu.load5 = b.cpu.load5 ∧ a.cpu.load15 = b.cpu.load15
    | .temperature => a.cpu.temperatureC = b.cpu.temperatureC
    | .frequency => a.cpu.frequencyMhz = b.cpu.frequencyMhz
    | .memory => a.memory = b.memory ∧ a.swap = b.swap
    | .uptime => a.uptimeSeconds = b.uptimeSeconds
    | .disk => a.disk = b.disk
    | .power => a.power = b.power) ∧
  ∀ e : CollectorError, e.metric = g.metric →
    (e ∈ a.health.collectorErrors ↔ e ∈ b.health.collectorErrors)

end TelemetryState

/-- Two cycles meet the same source of a group. -/
def AgreeOn (c : Collector) (s t : Sources) : MetricGroup → Prop
  | .cpuUsage => ∀ n, s.readText PROC_STAT n = t.readText PROC_STAT n
  | .loadAverage => s.readText PROC_LOADAVG 0 = t.readText PROC_LOADAVG 0
  | .temperature =>
    s.readText THERMAL_ZONE 0 = t.readText THERMAL_ZONE 0 ∧
      s.run c.vcgencmdPath ["measure_temp"] c.commandTimeout =
        t.run c.vcgencmdPath ["measure_temp"] c.commandTimeout
  | .frequency => ∀ path ∈ FREQUENCY_PATHS, s.readText path 0 = t.readText path 0
  | .memory => s.readText PROC_MEMINFO 0 = t.readText PROC_MEMINFO 0
  | .uptime => s.readText PROC_UPTIME 0 = t.readText PROC_UPTIME 0
  | .disk => s.statvfs c.rootFilesystem = t.statvfs c.rootFilesystem
  | .power =>
    s.run c.vcgencmdPath ["get_throttled"] c.commandTimeout =
      t.run c.vcgencmdPath ["get_throttled"] c.commandTimeout

/-- The file is not there, which is not an error of its own. -/
def Sources.Absent (s : Sources) (path : String) : Prop :=
  ∃ e, s.readText path 0 = .error e ∧ e.kind = .notFound

def PowerMetrics.Current (p : PowerMetrics) : Prop :=
  p.undervoltageNow = some true ∨ p.armFrequencyCappedNow = some true ∨
    p.throttledNow = some true ∨ p.softTemperatureLimitNow = some true

def PowerMetrics.Historical (p : PowerMetrics) : Prop :=
  p.undervoltageSinceBoot = some true ∨ p.armFrequencyCappedSinceBoot = some true ∨
    p.throttledSinceBoot = some true ∨ p.softTemperatureLimitSinceBoot = some true

/-- A current condition goes before errors, errors before a condition since boot. -/
structure Health.Precedence (h : Health) (power : PowerMetrics) : Prop where
  critical : h.status = .critical ↔ power.Current
  degraded : h.status = .degraded ↔ ¬ power.Current ∧ h.collectorErrors ≠ []
  warning : h.status = .warning ↔ ¬ power.Current ∧ h.collectorErrors = [] ∧ power.Historical
  ok : h.status = .ok ↔ ¬ power.Current ∧ h.collectorErrors = [] ∧ ¬ power.Historical

/-! Which error a group leaves. -/

def failureOf (c : Collector) (s : Sources) : MetricGroup → Option CollectorError
  | .cpuUsage => failure MetricGroup.cpuUsage.metric (cpuStep c s).outcome
  | .loadAverage => failure MetricGroup.loadAverage.metric (loadOutcome s)
  | .temperature => failure MetricGroup.temperature.metric (temperatureOutcome c s)
  | .frequency => failure MetricGroup.frequency.metric (frequencyOutcome s FREQUENCY_PATHS)
  | .memory => failure MetricGroup.memory.metric (memoryOutcome s)
  | .uptime => failure MetricGroup.uptime.metric (uptimeOutcome s)
  | .disk => failure MetricGroup.disk.metric (diskOutcome c s)
  | .power => failure MetricGroup.power.metric (powerOutcome c s)

theorem failure_metric {A : Type} (metric : String) (outcome : Except String A)
    (e : CollectorError) (failed : failure metric outcome = some e) : e.metric = metric := by
  cases outcome with
  | ok value => cases failed
  | error message =>
    rw [← Option.some.inj failed]

theorem failureOf_metric (c : Collector) (s : Sources) (g : MetricGroup) (e : CollectorError)
    (failed : failureOf c s g = some e) : e.metric = g.metric := by
  cases g with
  | _ => exact failure_metric _ _ e failed

theorem filterMap_cons_toList {A B : Type} (f : A → Option B) (a : A) (rest : List A) :
    (a :: rest).filterMap f = (f a).toList ++ rest.filterMap f := by
  rw [List.filterMap_cons]
  cases f a with
  | none => rfl
  | some b => rfl

theorem errorsOf_eq (c : Collector) (s : Sources) :
    errorsOf c s = MetricGroup.all.filterMap (failureOf c s) := by
  simp only [MetricGroup.all, filterMap_cons_toList, List.filterMap_nil, List.append_nil]
  simp only [errorsOf, List.append_assoc]
  rfl

theorem mem_errorsOf (c : Collector) (s : Sources) (g : MetricGroup) (e : CollectorError)
    (named : e.metric = g.metric) : e ∈ errorsOf c s ↔ failureOf c s g = some e := by
  rw [errorsOf_eq, List.mem_filterMap]
  constructor
  · rintro ⟨h, -, failed⟩
    have same := (failureOf_metric c s h e failed).symm.trans named
    rwa [← MetricGroup.metric_injective h g same]
  · intro failed
    exact ⟨g, g.mem_all, failed⟩

theorem hasError_iff (c : Collector) (s : Sources) (g : MetricGroup) :
    (collect c s).1.state.HasError g ↔ failureOf c s g ≠ none := by
  rw [collect_eq, Option.ne_none_iff_exists']
  constructor
  · rintro ⟨e, member, named⟩
    exact ⟨e, (mem_errorsOf c s g e named).mp member⟩
  · rintro ⟨e, failed⟩
    have named := failureOf_metric c s g e failed
    exact ⟨e, (mem_errorsOf c s g e named).mpr failed, named⟩

/-- Errors keep the order of the groups, and no group has two. -/
theorem named_sublist (f : MetricGroup → Option CollectorError)
    (named : ∀ g e, f g = some e → e.metric = g.metric) (groups : List MetricGroup) :
    ((groups.filterMap f).map CollectorError.metric).Sublist (groups.map MetricGroup.metric) := by
  induction groups with
  | nil => exact List.Sublist.refl []
  | cons g rest ih =>
    rw [filterMap_cons_toList, List.map_append, List.map_cons]
    cases failed : f g with
    | none => exact ih.cons _
    | some e =>
      have same : e.metric = g.metric := named g e failed
      rw [Option.toList_some, List.map_singleton, same]
      exact ih.cons_cons _

theorem errors_once (c : Collector) (s : Sources) :
    ((errorsOf c s).map CollectorError.metric).Nodup := by
  rw [errorsOf_eq]
  have distinct : (MetricGroup.all.map MetricGroup.metric).Nodup := by decide
  exact distinct.sublist (named_sublist _ (failureOf_metric c s) _)

/-! What a group holds, by its outcome. -/

theorem diskOutcome_ok (c : Collector) (s : Sources) (m : DiskMetrics)
    (stored : diskOutcome c s = .ok m) : ∃ v, DiskReading c.rootFilesystem v m := by
  cases values : s.statvfs c.rootFilesystem with
  | error e =>
    simp only [diskOutcome, values] at stored
    cases stored
  | ok v =>
    simp only [diskOutcome, values, okOr_toOption] at stored
    exact ⟨v, ((calculateDiskMetrics_spec c.rootFilesystem v).1 m stored).2⟩

theorem diskReading_present (mount : String) (v : StatvfsValues) (m : DiskMetrics)
    (reading : DiskReading mount v m) : m.totalBytes.isSome = true ∧ m.availableBytes.isSome = true ∧
      m.usedBytes.isSome = true ∧ m.usedPercent.isSome = true := by
  have total := Option.isSome_of_eq_some reading.total
  have available := Option.isSome_of_eq_some reading.available
  have used := Option.isSome_of_eq_some reading.used
  simp only [Option.isSome_map] at total available used
  obtain ⟨percent, stored, -⟩ := Option.bind_eq_some_iff.mp reading.percent
  exact ⟨total, available, used, Option.isSome_of_eq_some stored⟩

/-- A group other than usage and frequency is whole: all of it or nothing. -/
theorem group_whole (c : Collector) (s : Sources) (g : MetricGroup)
    (whole : g ≠ .cpuUsage ∧ g ≠ .frequency) :
    (failureOf c s g = none → (collect c s).1.state.Present g) ∧
      (failureOf c s g ≠ none → (collect c s).1.state.Null g) := by
  rw [collect_eq]
  cases g with
  | cpuUsage => exact absurd rfl whole.1
  | frequency => exact absurd rfl whole.2
  | loadAverage =>
    cases outcome : loadOutcome s with
    | _ => simp [failureOf, outcome, failure, TelemetryState.Present, TelemetryState.Null,
        TelemetryState.presence, TelemetryState.new, readingsOf, Except.toOption]
  | temperature =>
    cases outcome : temperatureOutcome c s with
    | _ => simp [failureOf, outcome, failure, TelemetryState.Present, TelemetryState.Null,
        TelemetryState.presence, TelemetryState.new, readingsOf, Except.toOption]
  | memory =>
    cases outcome : memoryOutcome s with
    | _ => simp [failureOf, outcome, failure, TelemetryState.Present, TelemetryState.Null,
        TelemetryState.presence, TelemetryState.new, readingsOf, memoryReading, swapReading,
        Except.toOption]
  | uptime =>
    cases outcome : uptimeOutcome s with
    | _ => simp [failureOf, outcome, failure, TelemetryState.Present, TelemetryState.Null,
        TelemetryState.presence, TelemetryState.new, readingsOf, Except.toOption]
  | power =>
    cases outcome : powerOutcome c s with
    | _ => simp [failureOf, outcome, failure, TelemetryState.Present, TelemetryState.Null,
        TelemetryState.presence, TelemetryState.new, readingsOf, powerMetrics, Except.toOption]
  | disk =>
    cases outcome : diskOutcome c s with
    | error message => simp [failureOf, outcome, failure, TelemetryState.Present,
        TelemetryState.Null, TelemetryState.presence, TelemetryState.new, readingsOf,
        DiskMetrics.unavailable, Except.toOption]
    | ok m =>
      obtain ⟨v, reading⟩ := diskOutcome_ok c s m outcome
      obtain ⟨total, available, used, percent⟩ := diskReading_present _ v m reading
      simp [failureOf, outcome, failure, TelemetryState.Present, TelemetryState.presence,
        TelemetryState.new, readingsOf, Except.toOption, total, available, used, percent]

theorem compareSample_null (previous : CpuTimes) (sample : Option CpuTimes) :
    (compareSample previous sample).outcome.toOption.join = none ↔
      failure MetricGroup.cpuUsage.metric (compareSample previous sample).outcome ≠ none ∨
        ∃ a, .usagePercent a a ∈ (compareSample previous sample).calls := by
  cases sample with
  | none => simp [compareSample, failure, Except.toOption]
  | some current =>
    cases computed : usagePercent previous current with
    | error e => simp [compareSample, computed, okOr, failure, Except.toOption]
    | ok value =>
      obtain ⟨advances, -, result⟩ := (usagePercent_eq_ok previous current value).mp computed
      have still : value = none ↔ previous = current := by
        rw [← totalDelta_eq_zero previous current advances, result]
        split
        · rename_i zero
          simp [zero]
        · rename_i moved
          simp [moved]
      simp only [compareSample, computed, Except.toOption, okOr, Option.join_some, failure,
        ne_eq, not_true_eq_false, false_or, still, List.mem_cons, reduceCtorEq,
        CpuCall.usagePercent.injEq, List.not_mem_nil, or_false]
      constructor
      · rintro rfl
        exact ⟨previous, rfl, rfl⟩
      · rintro ⟨a, rfl, same⟩
        exact same

/-- Usage is missing for an error, or because the counters stand still. -/
theorem usage_null (c : Collector) (s : Sources) :
    (cpuStep c s).outcome.toOption.join = none ↔
      failureOf c s .cpuUsage ≠ none ∨ ∃ a, .usagePercent a a ∈ (cpuStep c s).calls := by
  unfold failureOf cpuStep
  cases c.previousCpu with
  | some previous => exact compareSample_null previous _
  | none =>
    cases readCpuSample s 0 with
    | none => simp [failure, Except.toOption]
    | some initial =>
      simp only [List.mem_cons, reduceCtorEq, false_or]
      exact compareSample_null initial _

theorem frequencyOutcome_none (s : Sources) (paths : List String) :
    frequencyOutcome s paths = .ok none ↔ ∀ path ∈ paths, s.Absent path := by
  induction paths with
  | nil => simp [frequencyOutcome]
  | cons path rest ih =>
    rw [List.forall_mem_cons, frequencyOutcome, Sources.Absent]
    cases read : s.readText path 0 with
    | ok input =>
      cases parsed : parseFrequencyKhz input with
      | error e => simp [okOr, parsed, Except.toOption, Except.map]
      | ok v => simp [okOr, parsed, Except.toOption, Except.map]
    | error e =>
      by_cases absent : e.kind = .notFound
      · simp [absent, ih]
      · simp [absent]

theorem frequency_null (c : Collector) (s : Sources) :
    (frequencyOutcome s FREQUENCY_PATHS).toOption.join = none ↔
      failureOf c s .frequency ≠ none ∨ ∀ path ∈ FREQUENCY_PATHS, s.Absent path := by
  rw [← frequencyOutcome_none, failureOf]
  cases frequencyOutcome s FREQUENCY_PATHS with
  | error message => simp [failure, Except.toOption]
  | ok value => simp [failure, Except.toOption]

/-! What a group depends on. -/

theorem parsed_congr {A : Type} (s t : Sources) (path : String)
    (parse : String → Except ParseError A) (message : String)
    (same : s.readText path 0 = t.readText path 0) :
    s.parsed path parse message = t.parsed path parse message := by
  rw [Sources.parsed, Sources.parsed, same]

theorem cpuStep_congr (c : Collector) (s t : Sources)
    (same : ∀ n, s.readText PROC_STAT n = t.readText PROC_STAT n) : cpuStep c s = cpuStep c t := by
  have samples (n : Nat) : readCpuSample s n = readCpuSample t n := by
    rw [readCpuSample, readCpuSample, same]
  rw [cpuStep, cpuStep, samples, samples]

theorem frequencyOutcome_congr (s t : Sources) (paths : List String)
    (same : ∀ path ∈ paths, s.readText path 0 = t.readText path 0) :
    frequencyOutcome s paths = frequencyOutcome t paths := by
  induction paths with
  | nil => rfl
  | cons path rest ih =>
    rw [List.forall_mem_cons] at same
    rw [frequencyOutcome, frequencyOutcome, same.1, ih same.2]

theorem sameGroup_of_failure (c : Collector) (s t : Sources) (g : MetricGroup)
    (same : failureOf c s g = failureOf c t g) (e : CollectorError) (named : e.metric = g.metric) :
    e ∈ (collect c s).1.state.health.collectorErrors ↔
      e ∈ (collect c t).1.state.health.collectorErrors := by
  rw [collect_eq, collect_eq]
  have first := mem_errorsOf c s g e named
  have second := mem_errorsOf c t g e named
  rw [same] at first
  exact first.trans second.symm

theorem group_independent (c : Collector) (s t : Sources) (g : MetricGroup)
    (agree : AgreeOn c s t g) :
    TelemetryState.SameGroup g (collect c s).1.state (collect c t).1.state := by
  have errors (same : failureOf c s g = failureOf c t g) := sameGroup_of_failure c s t g same
  cases g with
  | cpuUsage =>
    have same := cpuStep_congr c s t agree
    refine ⟨?_, errors (by rw [failureOf, failureOf, same])⟩
    simp only [collect_eq, TelemetryState.new, readingsOf, same]
  | loadAverage =>
    have same : loadOutcome s = loadOutcome t := parsed_congr s t _ _ _ agree
    refine ⟨?_, errors (by rw [failureOf, failureOf, same])⟩
    simp only [collect_eq, TelemetryState.new, readingsOf, same, and_self]
  | temperature =>
    have same : temperatureOutcome c s = temperatureOutcome c t := by
      rw [temperatureOutcome, temperatureOutcome, agree.1, agree.2]
    refine ⟨?_, errors (by rw [failureOf, failureOf, same])⟩
    simp only [collect_eq, TelemetryState.new, readingsOf, same]
  | frequency =>
    have same := frequencyOutcome_congr s t FREQUENCY_PATHS agree
    refine ⟨?_, errors (by rw [failureOf, failureOf, same])⟩
    simp only [collect_eq, TelemetryState.new, readingsOf, same]
  | memory =>
    have same : memoryOutcome s = memoryOutcome t := parsed_congr s t _ _ _ agree
    refine ⟨?_, errors (by rw [failureOf, failureOf, same])⟩
    simp only [collect_eq, TelemetryState.new, readingsOf, same, and_self]
  | uptime =>
    have same : uptimeOutcome s = uptimeOutcome t := parsed_congr s t _ _ _ agree
    refine ⟨?_, errors (by rw [failureOf, failureOf, same])⟩
    simp only [collect_eq, TelemetryState.new, readingsOf, same]
  | disk =>
    have same : diskOutcome c s = diskOutcome c t := by
      rw [diskOutcome, diskOutcome, agree]
    refine ⟨?_, errors (by rw [failureOf, failureOf, same])⟩
    simp only [collect_eq, TelemetryState.new, readingsOf, same]
  | power =>
    have same : powerOutcome c s = powerOutcome c t := by
      rw [powerOutcome, powerOutcome, agree]
    refine ⟨?_, errors (by rw [failureOf, failureOf, same])⟩
    simp only [collect_eq, TelemetryState.new, readingsOf, same]

theorem current_iff (p : PowerMetrics) : p.hasCurrentProblem = true ↔ p.Current := by
  simp [PowerMetrics.hasCurrentProblem, PowerMetrics.Current]

theorem historical_iff (p : PowerMetrics) : p.hasHistoricalProblem = true ↔ p.Historical := by
  simp [PowerMetrics.hasHistoricalProblem, PowerMetrics.Historical]

theorem evaluate_precedence (power : PowerMetrics) (errors : Errors) :
    (Health.evaluate power errors).Precedence power := by
  have empty : (!errors.isEmpty) = true ↔ errors ≠ [] := by simp
  unfold Health.evaluate HealthStatus.evaluate
  by_cases current : power.Current
  · rw [if_pos ((current_iff power).mpr current)]
    constructor <;> simp [current]
  rw [if_neg (mt (current_iff power).mp current)]
  by_cases failed : errors = []
  · rw [if_neg (mt empty.mp (not_not.mpr failed))]
    by_cases historical : power.Historical
    · rw [if_pos ((historical_iff power).mpr historical)]
      constructor <;> simp [current, failed, historical]
    · rw [if_neg (mt (historical_iff power).mp historical)]
      constructor <;> simp [current, failed, historical]
  · rw [if_pos (empty.mpr failed)]
    constructor <;> simp [current, failed]

/-- What a cycle says of its own failures. -/
structure Isolated (c : Collector) (s : Sources) (cycle : Cycle) : Prop where
  once : (cycle.state.health.collectorErrors.map CollectorError.metric).Nodup
  known : ∀ e ∈ cycle.state.health.collectorErrors, ∃ g : MetricGroup, e.metric = g.metric
  whole : ∀ g : MetricGroup, g ≠ .cpuUsage ∧ g ≠ .frequency →
    (¬ cycle.state.HasError g → cycle.state.Present g) ∧
      (cycle.state.HasError g → cycle.state.Null g)
  mount : cycle.state.disk.mount = c.rootFilesystem
  usage : cycle.state.cpu.usagePercent = none ↔
    cycle.state.HasError .cpuUsage ∨ ∃ a, .usagePercent a a ∈ cycle.calls
  frequency : cycle.state.cpu.frequencyMhz = none ↔
    cycle.state.HasError .frequency ∨ ∀ path ∈ FREQUENCY_PATHS, s.Absent path
  independent : ∀ t g, AgreeOn c s t g →
    TelemetryState.SameGroup g cycle.state (collect c t).1.state
  precedence : cycle.state.health.Precedence cycle.state.power

/-- Whatever the collector has seen before and whatever its sources do now. -/
theorem collect_isolated (c : Collector) (s : Sources) : Isolated c s (collect c s).1 := by
  constructor
  · rw [collect_eq]
    exact errors_once c s
  · intro e member
    rw [collect_eq] at member
    change e ∈ errorsOf c s at member
    rw [errorsOf_eq, List.mem_filterMap] at member
    obtain ⟨g, -, failed⟩ := member
    exact ⟨g, failureOf_metric c s g e failed⟩
  · intro g other
    rw [hasError_iff, not_not]
    exact group_whole c s g other
  · rw [collect_eq]
    cases outcome : diskOutcome c s with
    | error message => simp [TelemetryState.new, readingsOf, outcome, Except.toOption,
        DiskMetrics.unavailable]
    | ok m =>
      obtain ⟨v, reading⟩ := diskOutcome_ok c s m outcome
      simp [TelemetryState.new, readingsOf, outcome, Except.toOption, reading.mount]
  · rw [hasError_iff, collect_eq]
    exact usage_null c s
  · rw [hasError_iff, collect_eq]
    exact frequency_null c s
  · exact fun t g agree => group_independent c s t g agree
  · rw [collect_eq]
    exact evaluate_precedence _ _

end RpiHealth
