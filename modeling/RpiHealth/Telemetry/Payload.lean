import RpiHealth.Telemetry.State

/-! The payload of a state: a document of named fields, in which measurements are
rounded. A measurement that cannot be rounded has no document. -/
namespace RpiHealth

/-- A document as it is written out, with its numbers still as numbers. -/
inductive Document where
  | null
  | bool (b : Bool)
  | unsigned (n : Nat)
  | float (v : F64)
  | string (s : String)
  | array (items : List Document)
  | object (fields : List (String × Document))

/-- Negative zero becomes zero. -/
def roundedMetric (value : F64) (decimalPlaces : Nat) : Option F64 :=
  if value.isFinite = false then none
  else if 2 ^ 31 ≤ decimalPlaces then none
  else
    let factor := F64.ofNat (10 ^ decimalPlaces)
    if factor.isFinite = false then none
    else
      let rounded := (value * factor).round / factor
      if rounded.isFinite = false then none
      else some (if rounded.isZero then F64.ofNat 0 else rounded)

def serializeOptionalF64 (decimalPlaces : Nat) : Option F64 → Except String Document
  | none => .ok .null
  | some value =>
    (okOr (roundedMetric value decimalPlaces) "measurement must be finite").map Document.float

def serializeOptionalOneDecimal : Option F64 → Except String Document := serializeOptionalF64 1

def serializeOptionalTwoDecimals : Option F64 → Except String Document := serializeOptionalF64 2

namespace Document

def optionalUnsigned (value : Option U64) : Document :=
  (value.map (fun n => .unsigned n.toNat)).getD .null

def optionalBool (value : Option Bool) : Document := (value.map .bool).getD .null

def optionalString (value : Option String) : Document := (value.map .string).getD .null

end Document

open Document

def CpuMetrics.serialize (m : CpuMetrics) : Except String Document := do
  let usagePercent ← serializeOptionalOneDecimal m.usagePercent
  let load1 ← serializeOptionalTwoDecimals m.load1
  let load5 ← serializeOptionalTwoDecimals m.load5
  let load15 ← serializeOptionalTwoDecimals m.load15
  let temperatureC ← serializeOptionalOneDecimal m.temperatureC
  let frequencyMhz ← serializeOptionalOneDecimal m.frequencyMhz
  return .object [("usage_percent", usagePercent), ("load_1", load1), ("load_5", load5),
    ("load_15", load15), ("temperature_c", temperatureC), ("frequency_mhz", frequencyMhz)]

def MemoryMetrics.serialize (m : MemoryMetrics) : Except String Document := do
  let usedPercent ← serializeOptionalOneDecimal m.usedPercent
  return .object [("total_bytes", optionalUnsigned m.totalBytes),
    ("available_bytes", optionalUnsigned m.availableBytes),
    ("used_bytes", optionalUnsigned m.usedBytes), ("used_percent", usedPercent)]

def SwapMetrics.serialize (m : SwapMetrics) : Except String Document := do
  let usedPercent ← serializeOptionalOneDecimal m.usedPercent
  return .object [("total_bytes", optionalUnsigned m.totalBytes),
    ("used_bytes", optionalUnsigned m.usedBytes), ("used_percent", usedPercent)]

def DiskMetrics.serialize (m : DiskMetrics) : Except String Document := do
  let usedPercent ← serializeOptionalOneDecimal m.usedPercent
  return .object [("mount", .string m.mount), ("total_bytes", optionalUnsigned m.totalBytes),
    ("available_bytes", optionalUnsigned m.availableBytes),
    ("used_bytes", optionalUnsigned m.usedBytes), ("used_percent", usedPercent)]

def PowerMetrics.serialize (m : PowerMetrics) : Document :=
  .object [("throttled_raw", optionalString m.throttledRaw),
    ("undervoltage_now", optionalBool m.undervoltageNow),
    ("arm_frequency_capped_now", optionalBool m.armFrequencyCappedNow),
    ("throttled_now", optionalBool m.throttledNow),
    ("soft_temperature_limit_now", optionalBool m.softTemperatureLimitNow),
    ("undervoltage_since_boot", optionalBool m.undervoltageSinceBoot),
    ("arm_frequency_capped_since_boot", optionalBool m.armFrequencyCappedSinceBoot),
    ("throttled_since_boot", optionalBool m.throttledSinceBoot),
    ("soft_temperature_limit_since_boot", optionalBool m.softTemperatureLimitSinceBoot)]

def HealthStatus.serialize : HealthStatus → Document
  | .ok => .string "ok"
  | .warning => .string "warning"
  | .critical => .string "critical"
  | .degraded => .string "degraded"

def CollectorError.serialize (e : CollectorError) : Document :=
  .object [("metric", .string e.metric), ("message", .string e.message)]

def Health.serialize (h : Health) : Document :=
  .object [("status", h.status.serialize),
    ("collector_errors", .array (h.collectorErrors.map CollectorError.serialize))]

def ServiceMetrics.serialize (m : ServiceMetrics) : Document :=
  .object [("version", .string m.version),
    ("collection_duration_ms", .unsigned m.collectionDurationMs.toNat)]

/-- How an instant is written is up to a library, which refuses some. -/
structure TimeFormat where
  format : ObservationTime → Option String

def TelemetryState.serialize (times : TimeFormat) (t : TelemetryState) :
    Except String Document := do
  let observedAt ← okOr (times.format t.observedAt) "the year cannot be formatted"
  let cpu ← t.cpu.serialize
  let memory ← t.memory.serialize
  let swap ← t.swap.serialize
  let disk ← t.disk.serialize
  return .object [("schema_version", .unsigned t.schemaVersion),
    ("observed_at", .string observedAt), ("uptime_seconds", optionalUnsigned t.uptimeSeconds),
    ("cpu", cpu), ("memory", memory), ("swap", swap), ("disk", disk),
    ("power", t.power.serialize), ("health", t.health.serialize),
    ("service", t.service.serialize)]

/-! What can be written. -/

/-- The number stays in range when it is shifted by so many places. -/
def Roundable (value : F64) (decimalPlaces : Nat) : Prop :=
  ∃ negative x, ∃ within : x ≤ F64.MAX, value = .finite negative x within ∧
    x * ((10 ^ decimalPlaces : Nat) : ℚ≥0) ≤ F64.MAX

theorem factor_le_max (decimalPlaces : Nat) (few : decimalPlaces ≤ 2) :
    ((10 ^ decimalPlaces : Nat) : ℚ≥0) ≤ F64.MAX := by
  apply F64.natCast_le_max
  calc 10 ^ decimalPlaces ≤ 10 ^ 2 := Nat.pow_le_pow_right (by decide) few
    _ ≤ 2 ^ 100 := by decide

theorem roundable_finite (negative : Bool) (x : ℚ≥0) (within : x ≤ F64.MAX) (decimalPlaces : Nat) :
    Roundable (.finite negative x within) decimalPlaces ↔
      x * ((10 ^ decimalPlaces : Nat) : ℚ≥0) ≤ F64.MAX := by
  constructor
  · rintro ⟨n, y, w, same, small⟩
    cases same
    exact small
  · intro small
    exact ⟨negative, x, within, rfl, small⟩

/-- Only the product can overflow: rounding and dividing keep it in range. -/
theorem roundedMetric_isSome (value : F64) (decimalPlaces : Nat) (few : decimalPlaces ≤ 2) :
    (roundedMetric value decimalPlaces).isSome ↔ Roundable value decimalPlaces := by
  have factor_small := factor_le_max decimalPlaces few
  have places : ¬ 2 ^ 31 ≤ decimalPlaces := by omega
  have positive : 0 < 10 ^ decimalPlaces := Nat.pow_pos (by decide)
  have nonzero : ((10 ^ decimalPlaces : Nat) : ℚ≥0) ≠ 0 := Nat.cast_ne_zero.mpr positive.ne'
  have at_least : (1 : ℚ≥0) ≤ ((10 ^ decimalPlaces : Nat) : ℚ≥0) := Nat.one_le_cast.mpr positive
  cases value with
  | nan => simp [roundedMetric, F64.isFinite, Roundable]
  | infinite negative => simp [roundedMetric, F64.isFinite, Roundable]
  | finite negative x within =>
    rw [roundable_finite]
    simp only [roundedMetric, F64.isFinite, if_neg places, F64.ofNat,
      F64.ofMagnitude_of_le _ _ factor_small, Bool.true_eq_false, if_false, F64.finite_mul]
    by_cases small : x * ((10 ^ decimalPlaces : Nat) : ℚ≥0) ≤ F64.MAX
    · have rounded := F64.rounded_le_max _ small
      have quotient := (div_le_self zero_le at_least).trans rounded
      rw [F64.ofMagnitude_of_le _ _ small, F64.round, F64.ofMagnitude_of_le _ _ rounded,
        F64.finite_div _ _ _ _ _ _ nonzero, F64.ofMagnitude_of_le _ _ quotient]
      simpa using small
    · have overflow (negative : Bool) :
          F64.ofMagnitude negative (x * ((10 ^ decimalPlaces : Nat) : ℚ≥0)) =
            .infinite negative := dif_neg small
      rw [overflow]
      simp only [small, iff_false, Bool.not_eq_true, Option.isSome_eq_false_iff]
      rfl

/-- A missing measurement can always be written. -/
def Writable (decimalPlaces : Nat) (value : Option F64) : Prop :=
  ∀ v ∈ value, Roundable v decimalPlaces

theorem serializeOptionalF64_ok (decimalPlaces : Nat) (few : decimalPlaces ≤ 2)
    (value : Option F64) :
    (∃ d, serializeOptionalF64 decimalPlaces value = .ok d) ↔ Writable decimalPlaces value := by
  cases value with
  | none => simp [serializeOptionalF64, Writable]
  | some v =>
    have rounds := roundedMetric_isSome v decimalPlaces few
    simp only [Writable, Option.mem_some, forall_eq', ← rounds, serializeOptionalF64]
    cases roundedMetric v decimalPlaces with
    | none => simp [okOr, Except.map]
    | some r => simp [okOr, Except.map]

theorem oneDecimal_ok (value : Option F64) :
    (∃ d, serializeOptionalOneDecimal value = .ok d) ↔ Writable 1 value :=
  serializeOptionalF64_ok 1 (by decide) value

theorem twoDecimals_ok (value : Option F64) :
    (∃ d, serializeOptionalTwoDecimals value = .ok d) ↔ Writable 2 value :=
  serializeOptionalF64_ok 2 (by decide) value

/-- A sequence comes through if every part of it does, whatever it comes to. -/
theorem exists_bind_iff {E A B : Type} (first : Except E A) (next : A → Except E B) (rest : Prop)
    (later : ∀ a, first = .ok a → ((∃ b, next a = .ok b) ↔ rest)) :
    (∃ b, (first >>= next) = .ok b) ↔ (∃ a, first = .ok a) ∧ rest := by
  simp only [bind_eq_ok]
  constructor
  · rintro ⟨b, a, done, ended⟩
    exact ⟨⟨a, done⟩, (later a done).mp ⟨b, ended⟩⟩
  · rintro ⟨⟨a, done⟩, holds⟩
    obtain ⟨b, ended⟩ := (later a done).mpr holds
    exact ⟨b, a, done, ended⟩

theorem exists_pure {E A : Type} (a : A) : (∃ b, (pure a : Except E A) = .ok b) ↔ True :=
  iff_true_intro ⟨a, rfl⟩

theorem CpuMetrics.serialize_ok (m : CpuMetrics) :
    (∃ d, m.serialize = .ok d) ↔ Writable 1 m.usagePercent ∧ Writable 2 m.load1 ∧
      Writable 2 m.load5 ∧ Writable 2 m.load15 ∧ Writable 1 m.temperatureC ∧
      Writable 1 m.frequencyMhz := by
  rw [← oneDecimal_ok, ← twoDecimals_ok, ← twoDecimals_ok, ← twoDecimals_ok, ← oneDecimal_ok,
    ← oneDecimal_ok]
  unfold CpuMetrics.serialize
  apply exists_bind_iff
  intro usagePercent _
  apply exists_bind_iff
  intro load1 _
  apply exists_bind_iff
  intro load5 _
  apply exists_bind_iff
  intro load15 _
  apply exists_bind_iff
  intro temperatureC _
  rw [exists_bind_iff _ _ True (fun _ _ => exists_pure _), and_true]

theorem MemoryMetrics.serialize_ok (m : MemoryMetrics) :
    (∃ d, m.serialize = .ok d) ↔ Writable 1 m.usedPercent := by
  rw [MemoryMetrics.serialize, exists_bind_iff _ _ True (fun _ _ => exists_pure _), and_true,
    oneDecimal_ok]

theorem SwapMetrics.serialize_ok (m : SwapMetrics) :
    (∃ d, m.serialize = .ok d) ↔ Writable 1 m.usedPercent := by
  rw [SwapMetrics.serialize, exists_bind_iff _ _ True (fun _ _ => exists_pure _), and_true,
    oneDecimal_ok]

theorem DiskMetrics.serialize_ok (m : DiskMetrics) :
    (∃ d, m.serialize = .ok d) ↔ Writable 1 m.usedPercent := by
  rw [DiskMetrics.serialize, exists_bind_iff _ _ True (fun _ _ => exists_pure _), and_true,
    oneDecimal_ok]

/-- A state can be written exactly if its instant and all its measurements can. -/
theorem TelemetryState.serialize_ok (times : TimeFormat) (t : TelemetryState) :
    (∃ d, t.serialize times = .ok d) ↔ (times.format t.observedAt).isSome ∧
      (∃ d, t.cpu.serialize = .ok d) ∧ Writable 1 t.memory.usedPercent ∧
      Writable 1 t.swap.usedPercent ∧ Writable 1 t.disk.usedPercent := by
  have written : (∃ text, okOr (times.format t.observedAt) "the year cannot be formatted" =
      .ok text) ↔ (times.format t.observedAt).isSome := by
    cases times.format t.observedAt with
    | none => simp [okOr]
    | some text => simp [okOr]
  rw [← written, ← MemoryMetrics.serialize_ok, ← SwapMetrics.serialize_ok,
    ← DiskMetrics.serialize_ok]
  unfold TelemetryState.serialize
  apply exists_bind_iff
  intro observedAt _
  apply exists_bind_iff
  intro cpu _
  apply exists_bind_iff
  intro memory _
  apply exists_bind_iff
  intro swap _
  rw [exists_bind_iff _ _ True (fun _ _ => exists_pure _), and_true]

end RpiHealth
