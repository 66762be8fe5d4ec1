import RpiHealth.Collector.Collector

/-! The CPU baseline over the life of a collector: which samples were taken, when it
slept, and between which samples usage was computed. -/
namespace RpiHealth
open Machines

/-- Neighbours in a list. -/
def consecutive {A : Type} (xs : List A) : List (A × A) := xs.zip xs.tail

/-- The samples that could be read and parsed. -/
def samples (calls : List CpuCall) : List CpuTimes :=
  calls.filterMap (fun call => match call with
    | .readSample sample => sample
    | _ => none)

def sleeps (calls : List CpuCall) : List Nat :=
  calls.filterMap (fun call => match call with
    | .sleep nanos => some nanos
    | _ => none)

def intervals (calls : List CpuCall) : List (CpuTimes × CpuTimes) :=
  calls.filterMap (fun call => match call with
    | .usagePercent previous current => some (previous, current)
    | _ => none)

def callsOf (trace : List Cycle) : List CpuCall := trace.flatMap Cycle.calls

/-- What a run leaves behind. -/
structure Baseline (calls : List CpuCall) (previousCpu : Option CpuTimes) : Prop where
  newest : previousCpu = (samples calls).getLast?
  warmup : sleeps calls = if samples calls = [] then [] else [CPU_WARMUP]
  spans : intervals calls = consecutive (samples calls)

@[simp] theorem consecutive_nil {A : Type} : consecutive ([] : List A) = [] := rfl

@[simp] theorem consecutive_single {A : Type} (x : A) : consecutive [x] = [] := rfl

theorem consecutive_snoc {A : Type} (xs : List A) (x y : A) (last : xs.getLast? = some x) :
    consecutive (xs ++ [y]) = consecutive xs ++ [(x, y)] := by
  induction xs with
  | nil => cases last
  | cons a rest ih =>
    cases rest with
    | nil =>
      obtain rfl : a = x := by simpa using last
      rfl
    | cons b rest =>
      have tail := ih (by simpa using last)
      have unfolded (zs : List A) : consecutive (a :: b :: zs) = (a, b) :: consecutive (b :: zs) :=
        rfl
      rw [List.cons_append, List.cons_append, unfolded, unfolded, List.cons_append, ← tail]
      rfl

@[simp] theorem samples_append (first second : List CpuCall) :
    samples (first ++ second) = samples first ++ samples second := List.filterMap_append

@[simp] theorem sleeps_append (first second : List CpuCall) :
    sleeps (first ++ second) = sleeps first ++ sleeps second := List.filterMap_append

@[simp] theorem intervals_append (first second : List CpuCall) :
    intervals (first ++ second) = intervals first ++ intervals second := List.filterMap_append

/-- A read that fails changes nothing. -/
theorem failed_read_keeps (calls : List CpuCall) (previousCpu : Option CpuTimes)
    (kept : Baseline calls previousCpu) :
    Baseline (calls ++ [.readSample none]) previousCpu := by
  have sampled : samples [.readSample none] = [] := rfl
  have slept : sleeps [.readSample none] = [] := rfl
  have spanned : intervals [.readSample none] = [] := rfl
  obtain ⟨newest, warmup, spans⟩ := kept
  constructor
  · rw [samples_append, sampled, List.append_nil, newest]
  · rw [sleeps_append, samples_append, slept, sampled, List.append_nil, List.append_nil, warmup]
  · rw [intervals_append, samples_append, spanned, sampled, List.append_nil, List.append_nil, spans]

/-- A comparison takes the run's newest sample on. -/
theorem compareSample_keeps (calls : List CpuCall) (previous : CpuTimes)
    (sample : Option CpuTimes) (kept : Baseline calls (some previous)) :
    Baseline (calls ++ (compareSample previous sample).calls)
      (compareSample previous sample).previousCpu := by
  cases sample with
  | none => exact failed_read_keeps calls _ kept
  | some current =>
    obtain ⟨newest, warmup, spans⟩ := kept
    have filled : samples calls ≠ [] := by
      intro empty
      rw [empty] at newest
      cases newest
    have sampled : samples (compareSample previous (some current)).calls = [current] := rfl
    have slept : sleeps (compareSample previous (some current)).calls = [] := rfl
    have spanned : intervals (compareSample previous (some current)).calls =
      [(previous, current)] := rfl
    constructor
    · rw [samples_append, sampled, List.getLast?_concat]
      rfl
    · rw [sleeps_append, samples_append, slept, List.append_nil, warmup, if_neg filled,
        if_neg (by simp [sampled])]
    · rw [intervals_append, samples_append, spanned, sampled, spans,
        consecutive_snoc _ previous current newest.symm]

/-- The first sample of a life is followed by the warm-up. -/
theorem cpuStep_keeps (c : Collector) (s : Sources) (calls : List CpuCall)
    (kept : Baseline calls c.previousCpu) :
    Baseline (calls ++ (cpuStep c s).calls) (cpuStep c s).previousCpu := by
  unfold cpuStep
  cases baseline : c.previousCpu with
  | some previous =>
    rw [baseline] at kept
    exact compareSample_keeps calls previous _ kept
  | none =>
    rw [baseline] at kept
    cases read : readCpuSample s 0 with
    | none => exact failed_read_keeps calls none kept
    | some initial =>
      obtain ⟨newest, warmup, spans⟩ := kept
      have empty : samples calls = [] := List.getLast?_eq_none_iff.mp newest.symm
      have sampled : samples [.readSample (some initial), .sleep CPU_WARMUP] = [initial] := rfl
      have slept : sleeps [.readSample (some initial), .sleep CPU_WARMUP] = [CPU_WARMUP] := rfl
      have spanned : intervals [.readSample (some initial), .sleep CPU_WARMUP] = [] := rfl
      have started : Baseline (calls ++ [.readSample (some initial), .sleep CPU_WARMUP])
          (some initial) := by
        constructor
        · rw [samples_append, sampled, List.getLast?_concat]
        · rw [sleeps_append, samples_append, sampled, slept, warmup, if_pos empty, List.nil_append,
            if_neg (by simp)]
        · rw [intervals_append, samples_append, sampled, spanned, spans, empty, List.append_nil,
            List.nil_append, consecutive_nil, consecutive_single]
      have later := compareSample_keeps _ initial (readCpuSample s 1) started
      rwa [List.append_assoc] at later

theorem baseline_run (c : Collector) (cycles : List Sources) (trace : List Cycle)
    (last : Collector) (fresh : c.previousCpu = none)
    (ran : (collector c).run cycles = some (trace, last)) :
    Baseline (callsOf trace) last.previousCpu := by
  apply Machine.invariant (collector c) (fun trace d => Baseline (callsOf trace) d.previousCpu)
    ⟨fresh, rfl, rfl⟩ _ cycles trace last ran
  intro before d s emitted next kept taken
  obtain ⟨rfl, rfl⟩ := Prod.mk.inj (Option.some.inj taken)
  have step := cpuStep_keeps d s (callsOf before) kept
  simpa [callsOf, collect] using step

/-- What the reads of a cycle's counters come to. -/
def readSamples (s : Sources) (baseline : Bool) : List CpuTimes :=
  if baseline then (readCpuSample s 0).toList
  else
    match readCpuSample s 0 with
    | none => []
    | some initial => initial :: (readCpuSample s 1).toList

theorem compareSample_usage (previous : CpuTimes) (sample : Option CpuTimes) (v : F64)
    (reported : (compareSample previous sample).outcome.toOption.join = some v) :
    ∃ current, sample = some current ∧ usagePercent previous current = .ok (some v) ∧
      intervals (compareSample previous sample).calls = [(previous, current)] := by
  cases sample with
  | none => cases reported
  | some current =>
    refine ⟨current, rfl, ?_, rfl⟩
    simp only [compareSample] at reported
    cases computed : usagePercent previous current with
    | error e =>
      rw [computed] at reported
      cases reported
    | ok value =>
      rw [computed] at reported
      exact congrArg Except.ok reported

theorem compareSample_samples (previous : CpuTimes) (sample : Option CpuTimes) :
    samples (compareSample previous sample).calls = sample.toList ∧
      sleeps (compareSample previous sample).calls = [] := by
  cases sample with
  | none => exact ⟨rfl, rfl⟩
  | some current => exact ⟨rfl, rfl⟩

/-- The next cycle, by the baseline it starts with. -/
theorem cpuStep_calls (c : Collector) (s : Sources) :
    samples (cpuStep c s).calls = readSamples s c.previousCpu.isSome ∧
      sleeps (cpuStep c s).calls =
        (if c.previousCpu = none ∧ (readCpuSample s 0).isSome then [CPU_WARMUP] else []) ∧
      ∀ v, (cpuStep c s).outcome.toOption.join = some v →
        ∃ a b, intervals (cpuStep c s).calls = [(a, b)] ∧ usagePercent a b = .ok (some v) := by
  unfold cpuStep readSamples
  cases c.previousCpu with
  | some previous =>
    obtain ⟨sampled, slept⟩ := compareSample_samples previous (readCpuSample s 0)
    refine ⟨sampled, by simpa using slept, ?_⟩
    intro v reported
    obtain ⟨current, -, computed, spanned⟩ := compareSample_usage previous _ v reported
    exact ⟨previous, current, spanned, computed⟩
  | none =>
    cases readCpuSample s 0 with
    | none =>
      refine ⟨rfl, rfl, ?_⟩
      intro v reported
      cases reported
    | some initial =>
      obtain ⟨sampled, slept⟩ := compareSample_samples initial (readCpuSample s 1)
      refine ⟨?_, ?_, ?_⟩
      · exact congrArg (fun later => initial :: later) sampled
      · exact congrArg (fun later => CPU_WARMUP :: later) slept
      · intro v reported
        obtain ⟨current, -, computed, spanned⟩ := compareSample_usage initial _ v reported
        exact ⟨initial, current, spanned, computed⟩

/-- A cycle that follows. It sleeps exactly if its initial sample is the first one of
all, and reports usage only of the interval that it adds. -/
structure NextCycle (calls : List CpuCall) (s : Sources) (cycle : Cycle) : Prop where
  sampled : samples cycle.calls = readSamples s (samples calls != [])
  warmup : sleeps cycle.calls =
    if samples calls = [] ∧ (readCpuSample s 0).isSome then [CPU_WARMUP] else []
  spans : intervals (calls ++ cycle.calls) = consecutive (samples (calls ++ cycle.calls))
  reported : ∀ v, cycle.state.cpu.usagePercent = some v →
    ∃ a b, intervals cycle.calls = [(a, b)] ∧ usagePercent a b = .ok (some v)

/-- After every run of cycles the baseline is the newest sample, there was one warm-up
if there was a sample, and the intervals compared are those between neighbouring samples. -/
theorem cpu_baseline_run (c : Collector) (cycles : List Sources) (trace : List Cycle)
    (last : Collector) (fresh : c.previousCpu = none)
    (ran : (collector c).run cycles = some (trace, last)) :
    Baseline (callsOf trace) last.previousCpu ∧
      ∀ s, NextCycle (callsOf trace) s (collect last s).1 := by
  have kept := baseline_run c cycles trace last fresh ran
  refine ⟨kept, fun s => ?_⟩
  rw [collect_eq]
  obtain ⟨sampled, slept, reported⟩ := cpuStep_calls last s
  have empty_iff : last.previousCpu = none ↔ samples (callsOf trace) = [] := by
    rw [kept.newest, List.getLast?_eq_none_iff]
  have filled : last.previousCpu.isSome = (samples (callsOf trace) != []) := by
    rw [Bool.eq_iff_iff, Option.isSome_iff_ne_none, bne_iff_ne, ne_eq, ne_eq, empty_iff]
  rw [filled] at sampled
  simp only [empty_iff] at slept
  exact ⟨sampled, slept, (cpuStep_keeps last s _ kept).spans, reported⟩

def sampleCollector : Collector where
  rootFilesystem := "/"
  vcgencmdPath := "/usr/bin/vcgencmd"
  commandTimeout := 3000000000
  metadata := {}

/-- Only the CPU counters can be read. -/
def sampleSources (first second : String) : Sources where
  readText path readsBefore :=
    if path = PROC_STAT then
      if readsBefore = 0 then .ok first else .ok second
    else .error ⟨.notFound, "entity not found"⟩
  run _ _ _ := .error .timedOut
  statvfs _ := .error ⟨.other, "permission denied"⟩
  observedAt := ⟨0⟩
  startedAt := 0
  endedAt := 0

def sampleCycles : List Sources :=
  [sampleSources "" "", sampleSources "cpu 100 0 50 850 0 0 0 0\n" "",
    sampleSources "cpu 200 0 100 850 0 0 0 0\n" ""]

theorem cpu_baseline_sample : ∃ trace last,
    (collector sampleCollector).run sampleCycles = some (trace, last) ∧
      Baseline (callsOf trace) last.previousCpu ∧
      ∀ s, NextCycle (callsOf trace) s (collect last s).1 :=
  ⟨_, _, rfl, cpu_baseline_run sampleCollector sampleCycles _ _ rfl rfl⟩

end RpiHealth
