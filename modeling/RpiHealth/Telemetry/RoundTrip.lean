import RpiHealth.Telemetry.Reading
import RpiHealth.Telemetry.Rounding

/-! Writing a state, reading it back and writing it again. -/
namespace RpiHealth
open Document

/-- The value at the end of a path of keys. -/
def Document.at? : Document → List String → Option Document
  | d, [] => some d
  | .object entries, key :: rest => (entries.lookup key).bind (fun d => d.at? rest)
  | _, _ => none

/-! One field. -/

theorem readU32_unsigned (n : Nat) (small : n < 2 ^ 32) : readU32 (.unsigned n) = .ok n :=
  if_pos small

theorem readU64_unsigned (n : U64) : readU64 (.unsigned n.toNat) = .ok n :=
  dif_pos n.small

theorem readOption_optionalUnsigned (value : Option U64) :
    readOption readU64 (optionalUnsigned value) = .ok value := by
  cases value with
  | none => rfl
  | some n => exact congrArg (Except.map some) (readU64_unsigned n)

theorem readOption_optionalBool (value : Option Bool) :
    readOption readBool (optionalBool value) = .ok value := by
  cases value with
  | none => rfl
  | some b => rfl

theorem readOption_optionalString (value : Option String) :
    readOption readString (optionalString value) = .ok value := by
  cases value with
  | none => rfl
  | some s => rfl

/-- A measurement comes back rounded, and stays as it is from then on. -/
theorem measurement_round_trip (decimalPlaces : Nat) (few : decimalPlaces ≤ 2)
    (value : Option F64) (writable : Writable decimalPlaces value) :
    ∃ d rounded, serializeOptionalF64 decimalPlaces value = .ok d ∧
      deserializeOptionalFinite d = .ok rounded ∧
      serializeOptionalF64 decimalPlaces rounded = .ok d ∧
      Option.Rel (RoundedTo decimalPlaces) value rounded ∧ (d = .null ↔ value.isNone = true) := by
  cases value with
  | none => exact ⟨.null, none, rfl, rfl, rfl, .none, by simp⟩
  | some v =>
    obtain ⟨rounded, done, law, finite, again⟩ :=
      roundedMetric_law v decimalPlaces few (writable v rfl)
    refine ⟨.float rounded, some rounded, ?_, ?_, ?_, .some law, by simp⟩
    · rw [serializeOptionalF64, done]
      rfl
    · change (if rounded.isFinite then Except.ok (some rounded)
        else .error (ReadError.custom "measurement must be finite")) = .ok (some rounded)
      rw [if_pos finite]
    · rw [serializeOptionalF64, again]
      rfl

/-! One record. -/

theorem firstDuplicate_none (names : List String) (distinct : names.Nodup) :
    firstDuplicate names = none := by
  induction names with
  | nil => rfl
  | cons name rest ih =>
    rw [List.nodup_cons] at distinct
    rw [firstDuplicate, if_neg (by simpa using distinct.1)]
    exact ih distinct.2

/-- A record that names each of its fields once is taken as it is. -/
theorem record_object (expected : String) (entries : List (String × Document))
    (distinct : (entries.map (·.1)).Nodup) :
    Document.record expected (entries.map (·.1)) (.object entries) = .ok entries := by
  have all : entries.filter (fun entry => (entries.map (·.1)).contains entry.1) = entries := by
    rw [List.filter_eq_self]
    intro entry member
    rw [List.contains_iff_mem]
    exact List.mem_map_of_mem member
  simp only [Document.record, all, firstDuplicate_none _ distinct]

/-- The fields are there, and null exactly where they say so. -/
def Document.Nulls (d : Document) (fields : List (String × Bool)) : Prop :=
  ∀ field ∈ fields, ∃ value, d.at? [field.1] = some value ∧ (value = .null ↔ field.2 = true)

/-- A record's way through its document. -/
structure RoundTrips {A : Type} (write : A → Except String Document)
    (read : Document → Except ReadError A) (nullables : A → List (String × Bool)) (a : A)
    (d : Document) (b : A) : Prop where
  written : write a = .ok d
  read : read d = .ok b
  again : write b = .ok d
  nulls : d.Nulls (nullables a)

theorem null_optionalUnsigned (value : Option U64) :
    optionalUnsigned value = .null ↔ value.isNone = true := by
  cases value <;> simp [optionalUnsigned]

theorem null_optionalBool (value : Option Bool) :
    optionalBool value = .null ↔ value.isNone = true := by
  cases value <;> simp [optionalBool]

theorem null_optionalString (value : Option String) :
    optionalString value = .null ↔ value.isNone = true := by
  cases value <;> simp [optionalString]

def CpuMetrics.nullables (m : CpuMetrics) : List (String × Bool) :=
  [("usage_percent", m.usagePercent.isNone), ("load_1", m.load1.isNone),
    ("load_5", m.load5.isNone), ("load_15", m.load15.isNone),
    ("temperature_c", m.temperatureC.isNone), ("frequency_mhz", m.frequencyMhz.isNone)]

def MemoryMetrics.nullables (m : MemoryMetrics) : List (String × Bool) :=
  [("total_bytes", m.totalBytes.isNone), ("available_bytes", m.availableBytes.isNone),
    ("used_bytes", m.usedBytes.isNone), ("used_percent", m.usedPercent.isNone)]

def SwapMetrics.nullables (m : SwapMetrics) : List (String × Bool) :=
  [("total_bytes", m.totalBytes.isNone), ("used_bytes", m.usedBytes.isNone),
    ("used_percent", m.usedPercent.isNone)]

def DiskMetrics.nullables (m : DiskMetrics) : List (String × Bool) :=
  [("total_bytes", m.totalBytes.isNone), ("available_bytes", m.availableBytes.isNone),
    ("used_bytes", m.usedBytes.isNone), ("used_percent", m.usedPercent.isNone)]

def PowerMetrics.nullables (m : PowerMetrics) : List (String × Bool) :=
  [("throttled_raw", m.throttledRaw.isNone), ("undervoltage_now", m.undervoltageNow.isNone),
    ("arm_frequency_capped_now", m.armFrequencyCappedNow.isNone),
    ("throttled_now", m.throttledNow.isNone),
    ("soft_temperature_limit_now", m.softTemperatureLimitNow.isNone),
    ("undervoltage_since_boot", m.undervoltageSinceBoot.isNone),
    ("arm_frequency_capped_since_boot", m.armFrequencyCappedSinceBoot.isNone),
    ("throttled_since_boot", m.throttledSinceBoot.isNone),
    ("soft_temperature_limit_since_boot", m.softTemperatureLimitSinceBoot.isNone)]

/-- What is left of the CPU readings. -/
structure CpuMetrics.Rounds (m r : CpuMetrics) : Prop where
  usagePercent : Option.Rel (RoundedTo 1) m.usagePercent r.usagePercent
  load1 : Option.Rel (RoundedTo 2) m.load1 r.load1
  load5 : Option.Rel (RoundedTo 2) m.load5 r.load5
  load15 : Option.Rel (RoundedTo 2) m.load15 r.load15
  temperatureC : Option.Rel (RoundedTo 1) m.temperatureC r.temperatureC
  frequencyMhz : Option.Rel (RoundedTo 1) m.frequencyMhz r.frequencyMhz

theorem CpuMetrics.round_trip (m : CpuMetrics) (writable : ∃ d, m.serialize = .ok d) :
    ∃ d r, RoundTrips serialize deserialize nullables m d r ∧ m.Rounds r := by
  obtain ⟨usage, load1, load5, load15, temperature, frequency⟩ := m.serialize_ok.mp writable
  obtain ⟨d₁, r₁, written₁, read₁, again₁, law₁, null₁⟩ :=
    measurement_round_trip 1 (by decide) _ usage
  obtain ⟨d₂, r₂, written₂, read₂, again₂, law₂, null₂⟩ :=
    measurement_round_trip 2 (by decide) _ load1
  obtain ⟨d₃, r₃, written₃, read₃, again₃, law₃, null₃⟩ :=
    measurement_round_trip 2 (by decide) _ load5
  obtain ⟨d₄, r₄, written₄, read₄, again₄, law₄, null₄⟩ :=
    measurement_round_trip 2 (by decide) _ load15
  obtain ⟨d₅, r₅, written₅, read₅, again₅, law₅, null₅⟩ :=
    measurement_round_trip 1 (by decide) _ temperature
  obtain ⟨d₆, r₆, written₆, read₆, again₆, law₆, null₆⟩ :=
    measurement_round_trip 1 (by decide) _ frequency
  have whole := record_object "CpuMetrics" [("usage_percent", d₁), ("load_1", d₂),
    ("load_5", d₃), ("load_15", d₄), ("temperature_c", d₅), ("frequency_mhz", d₆)] (by simp)
  simp only [List.map_cons, List.map_nil] at whole
  refine ⟨.object [("usage_percent", d₁), ("load_1", d₂), ("load_5", d₃), ("load_15", d₄),
    ("temperature_c", d₅), ("frequency_mhz", d₆)], ⟨r₁, r₂, r₃, r₄, r₅, r₆⟩, ⟨?_, ?_, ?_, ?_⟩,
    ⟨law₁, law₂, law₃, law₄, law₅, law₆⟩⟩
  · simp only [CpuMetrics.serialize, serializeOptionalOneDecimal, serializeOptionalTwoDecimals,
      written₁, written₂, written₃, written₄, written₅, written₆]
    rfl
  · simp only [CpuMetrics.deserialize, whole, bind, Except.bind]
    simp [required, List.lookup_cons, read₁, read₂, read₃, read₄, read₅, read₆, pure, Except.pure]
  · simp only [CpuMetrics.serialize, serializeOptionalOneDecimal, serializeOptionalTwoDecimals,
      again₁, again₂, again₃, again₄, again₅, again₆]
    rfl
  · simp only [Document.Nulls, CpuMetrics.nullables, List.forall_mem_cons]
    exact ⟨⟨d₁, rfl, null₁⟩, ⟨d₂, rfl, null₂⟩, ⟨d₃, rfl, null₃⟩, ⟨d₄, rfl, null₄⟩,
      ⟨d₅, rfl, null₅⟩, ⟨d₆, rfl, null₆⟩, by simp⟩

theorem MemoryMetrics.round_trip (m : MemoryMetrics) (writable : Writable 1 m.usedPercent) :
    ∃ d percent, RoundTrips serialize deserialize nullables m d { m with usedPercent := percent } ∧
      Option.Rel (RoundedTo 1) m.usedPercent percent := by
  obtain ⟨d, r, written, read, again, law, null⟩ :=
    measurement_round_trip 1 (by decide) _ writable
  have whole := record_object "MemoryMetrics" [("total_bytes", optionalUnsigned m.totalBytes),
    ("available_bytes", optionalUnsigned m.availableBytes),
    ("used_bytes", optionalUnsigned m.usedBytes), ("used_percent", d)] (by simp)
  simp only [List.map_cons, List.map_nil] at whole
  refine ⟨.object [("total_bytes", optionalUnsigned m.totalBytes),
    ("available_bytes", optionalUnsigned m.availableBytes),
    ("used_bytes", optionalUnsigned m.usedBytes), ("used_percent", d)], r, ⟨?_, ?_, ?_, ?_⟩, law⟩
  · simp only [MemoryMetrics.serialize, serializeOptionalOneDecimal, written]
    rfl
  · simp only [MemoryMetrics.deserialize, whole, bind, Except.bind]
    simp [required, nullable, List.lookup_cons, readOption_optionalUnsigned, read, pure, Except.pure]
  · simp only [MemoryMetrics.serialize, serializeOptionalOneDecimal, again]
    rfl
  · simp only [Document.Nulls, MemoryMetrics.nullables, List.forall_mem_cons]
    exact ⟨⟨_, rfl, null_optionalUnsigned _⟩, ⟨_, rfl, null_optionalUnsigned _⟩,
      ⟨_, rfl, null_optionalUnsigned _⟩, ⟨d, rfl, null⟩, by simp⟩

theorem SwapMetrics.round_trip (m : SwapMetrics) (writable : Writable 1 m.usedPercent) :
    ∃ d percent, RoundTrips serialize deserialize nullables m d { m with usedPercent := percent } ∧
      Option.Rel (RoundedTo 1) m.usedPercent percent := by
  obtain ⟨d, r, written, read, again, law, null⟩ :=
    measurement_round_trip 1 (by decide) _ writable
  have whole := record_object "SwapMetrics" [("total_bytes", optionalUnsigned m.totalBytes),
    ("used_bytes", optionalUnsigned m.usedBytes), ("used_percent", d)] (by simp)
  simp only [List.map_cons, List.map_nil] at whole
  refine ⟨.object [("total_bytes", optionalUnsigned m.totalBytes),
    ("used_bytes", optionalUnsigned m.usedBytes), ("used_percent", d)], r, ⟨?_, ?_, ?_, ?_⟩, law⟩
  · simp only [SwapMetrics.serialize, serializeOptionalOneDecimal, written]
    rfl
  · simp only [SwapMetrics.deserialize, whole, bind, Except.bind]
    simp [required, nullable, List.lookup_cons, readOption_optionalUnsigned, read, pure, Except.pure]
  · simp only [SwapMetrics.serialize, serializeOptionalOneDecimal, again]
    rfl
  · simp only [Document.Nulls, SwapMetrics.nullables, List.forall_mem_cons]
    exact ⟨⟨_, rfl, null_optionalUnsigned _⟩, ⟨_, rfl, null_optionalUnsigned _⟩,
      ⟨d, rfl, null⟩, by simp⟩

theorem DiskMetrics.round_trip (m : DiskMetrics) (writable : Writable 1 m.usedPercent) :
    ∃ d percent, RoundTrips serialize deserialize nullables m d { m with usedPercent := percent } ∧
      Option.Rel (RoundedTo 1) m.usedPercent percent := by
  obtain ⟨d, r, written, read, again, law, null⟩ :=
    measurement_round_trip 1 (by decide) _ writable
  have whole := record_object "DiskMetrics" [("mount", .string m.mount),
    ("total_bytes", optionalUnsigned m.totalBytes),
    ("available_bytes", optionalUnsigned m.availableBytes),
    ("used_bytes", optionalUnsigned m.usedBytes), ("used_percent", d)] (by simp)
  simp only [List.map_cons, List.map_nil] at whole
  refine ⟨.object [("mount", .string m.mount), ("total_bytes", optionalUnsigned m.totalBytes),
    ("available_bytes", optionalUnsigned m.availableBytes),
    ("used_bytes", optionalUnsigned m.usedBytes), ("used_percent", d)], r, ⟨?_, ?_, ?_, ?_⟩, law⟩
  · simp only [DiskMetrics.serialize, serializeOptionalOneDecimal, written]
    rfl
  · simp only [DiskMetrics.deserialize, whole, bind, Except.bind]
    simp [required, nullable, List.lookup_cons, readString, readOption_optionalUnsigned, read, pure,
      Except.pure]
  · simp only [DiskMetrics.serialize, serializeOptionalOneDecimal, again]
    rfl
  · simp only [Document.Nulls, DiskMetrics.nullables, List.forall_mem_cons]
    exact ⟨⟨_, rfl, null_optionalUnsigned _⟩, ⟨_, rfl, null_optionalUnsigned _⟩,
      ⟨_, rfl, null_optionalUnsigned _⟩, ⟨d, rfl, null⟩, by simp⟩

theorem PowerMetrics.round_trip (m : PowerMetrics) :
    PowerMetrics.deserialize m.serialize = .ok m ∧ m.serialize.Nulls m.nullables := by
  constructor
  · have whole := record_object "PowerMetrics" [("throttled_raw", optionalString m.throttledRaw),
      ("undervoltage_now", optionalBool m.undervoltageNow),
      ("arm_frequency_capped_now", optionalBool m.armFrequencyCappedNow),
      ("throttled_now", optionalBool m.throttledNow),
      ("soft_temperature_limit_now", optionalBool m.softTemperatureLimitNow),
      ("undervoltage_since_boot", optionalBool m.undervoltageSinceBoot),
      ("arm_frequency_capped_since_boot", optionalBool m.armFrequencyCappedSinceBoot),
      ("throttled_since_boot", optionalBool m.throttledSinceBoot),
      ("soft_temperature_limit_since_boot", optionalBool m.softTemperatureLimitSinceBoot)]
      (by simp)
    simp only [List.map_cons, List.map_nil] at whole
    simp only [PowerMetrics.deserialize, PowerMetrics.serialize, whole, bind, Except.bind]
    simp [nullable, List.lookup_cons, readOption_optionalBool, readOption_optionalString, pure,
      Except.pure]
  · simp only [Document.Nulls, PowerMetrics.nullables, List.forall_mem_cons]
    exact ⟨⟨_, rfl, null_optionalString _⟩, ⟨_, rfl, null_optionalBool _⟩,
      ⟨_, rfl, null_optionalBool _⟩, ⟨_, rfl, null_optionalBool _⟩, ⟨_, rfl, null_optionalBool _⟩,
      ⟨_, rfl, null_optionalBool _⟩, ⟨_, rfl, null_optionalBool _⟩, ⟨_, rfl, null_optionalBool _⟩,
      ⟨_, rfl, null_optionalBool _⟩, by simp⟩

theorem HealthStatus.round_trip (status : HealthStatus) :
    HealthStatus.deserialize status.serialize = .ok status := by
  cases status <;> rfl

theorem CollectorError.round_trip (e : CollectorError) :
    CollectorError.deserialize e.serialize = .ok e := by
  have whole := record_object "CollectorError"
    [("metric", .string e.metric), ("message", .string e.message)] (by simp)
  simp only [List.map_cons, List.map_nil] at whole
  simp only [CollectorError.deserialize, CollectorError.serialize, whole, bind, Except.bind]
  simp [required, List.lookup_cons, readString, pure, Except.pure]

theorem readSequence_map {A : Type} (write : A → Document) (read : Document → Except ReadError A)
    (each : ∀ a, read (write a) = .ok a) (items : List A) :
    readSequence read (.array (items.map write)) = .ok items := by
  rw [readSequence]
  induction items with
  | nil => rfl
  | cons a rest ih =>
    rw [List.map_cons, List.mapM_cons, each, ih]
    rfl

theorem Health.round_trip (h : Health) : Health.deserialize h.serialize = .ok h := by
  have errors := readSequence_map CollectorError.serialize CollectorError.deserialize
    CollectorError.round_trip h.collectorErrors
  have whole := record_object "Health" [("status", h.status.serialize),
    ("collector_errors", .array (h.collectorErrors.map CollectorError.serialize))] (by simp)
  simp only [List.map_cons, List.map_nil] at whole
  simp only [Health.deserialize, Health.serialize, whole, bind, Except.bind]
  simp [required, List.lookup_cons, HealthStatus.round_trip, errors, pure, Except.pure]

theorem ServiceMetrics.round_trip (m : ServiceMetrics) :
    ServiceMetrics.deserialize m.serialize = .ok m := by
  have whole := record_object "ServiceMetrics" [("version", .string m.version),
    ("collection_duration_ms", .unsigned m.collectionDurationMs.toNat)] (by simp)
  simp only [List.map_cons, List.map_nil] at whole
  simp only [ServiceMetrics.deserialize, ServiceMetrics.serialize, whole, bind, Except.bind]
  simp [required, List.lookup_cons, readString, readU64_unsigned, pure, Except.pure]

/-! The whole state. -/

structure TelemetryState.Roundable (t : TelemetryState) : Prop where
  usagePercent : Writable 1 t.cpu.usagePercent
  load1 : Writable 2 t.cpu.load1
  load5 : Writable 2 t.cpu.load5
  load15 : Writable 2 t.cpu.load15
  temperatureC : Writable 1 t.cpu.temperatureC
  frequencyMhz : Writable 1 t.cpu.frequencyMhz
  memory : Writable 1 t.memory.usedPercent
  swap : Writable 1 t.swap.usedPercent
  disk : Writable 1 t.disk.usedPercent

/-- The states agree in all but the measurements, and those are rounded. -/
structure TelemetryState.Rounds (t u : TelemetryState) : Prop where
  cpu : t.cpu.Rounds u.cpu
  memory : Option.Rel (RoundedTo 1) t.memory.usedPercent u.memory.usedPercent
  swap : Option.Rel (RoundedTo 1) t.swap.usedPercent u.swap.usedPercent
  disk : Option.Rel (RoundedTo 1) t.disk.usedPercent u.disk.usedPercent
  others : u = { t with
    cpu := u.cpu
    memory := { t.memory with usedPercent := u.memory.usedPercent }
    swap := { t.swap with usedPercent := u.swap.usedPercent }
    disk := { t.disk with usedPercent := u.disk.usedPercent } }

/-- Every field that may be missing: where it is, and whether it is missing. -/
def TelemetryState.nullables (t : TelemetryState) : List (List String × Bool) :=
  let under (name : String) (fields : List (String × Bool)) :=
    fields.map (fun field => ([name, field.1], field.2))
  [(["uptime_seconds"], t.uptimeSeconds.isNone)] ++ under "cpu" t.cpu.nullables ++
    under "memory" t.memory.nullables ++ under "swap" t.swap.nullables ++
    under "disk" t.disk.nullables ++ under "power" t.power.nullables

theorem nulls_under (entries : List (String × Document)) (name : String) (d : Document)
    (fields : List (String × Bool)) (found : entries.lookup name = some d) (nulls : d.Nulls fields) :
    ∀ field ∈ fields.map (fun field => ([name, field.1], field.2)), ∃ value,
      (Document.object entries).at? field.1 = some value ∧ (value = .null ↔ field.2 = true) := by
  intro field member
  obtain ⟨inner, inside, rfl⟩ := List.mem_map.mp member
  obtain ⟨value, here, null⟩ := nulls inner inside
  refine ⟨value, ?_, null⟩
  rw [Document.at?, found]
  exact here

/-- Written, read and written again, a state is rounded once and its document stays. -/
theorem state_round_trip (times : TimeCodec) (t : TelemetryState) (text : String)
    (formatted : times.format t.observedAt = some text)
    (parsed : times.parse text = .ok t.observedAt) (version : t.schemaVersion < 2 ^ 32)
    (roundable : t.Roundable) :
    ∃ d u, t.serialize times.toTimeFormat = .ok d ∧ TelemetryState.deserialize times d = .ok u ∧
      u.serialize times.toTimeFormat = .ok d ∧ t.Rounds u ∧
      ∀ field ∈ t.nullables, ∃ value, d.at? field.1 = some value ∧
        (value = .null ↔ field.2 = true) := by
  obtain ⟨cpu_d, cpu, cpu_trip, cpu_law⟩ := t.cpu.round_trip (t.cpu.serialize_ok.mpr
    ⟨roundable.usagePercent, roundable.load1, roundable.load5, roundable.load15,
      roundable.temperatureC, roundable.frequencyMhz⟩)
  obtain ⟨memory_d, memory, memory_trip, memory_law⟩ := t.memory.round_trip roundable.memory
  obtain ⟨swap_d, swap, swap_trip, swap_law⟩ := t.swap.round_trip roundable.swap
  obtain ⟨disk_d, disk, disk_trip, disk_law⟩ := t.disk.round_trip roundable.disk
  have power_trip := t.power.round_trip
  have whole := record_object "TelemetryState" [("schema_version", .unsigned t.schemaVersion),
    ("observed_at", .string text), ("uptime_seconds", optionalUnsigned t.uptimeSeconds),
    ("cpu", cpu_d), ("memory", memory_d), ("swap", swap_d), ("disk", disk_d),
    ("power", t.power.serialize), ("health", t.health.serialize),
    ("service", t.service.serialize)] (by simp)
  simp only [List.map_cons, List.map_nil] at whole
  refine ⟨.object [("schema_version", .unsigned t.schemaVersion),
    ("observed_at", .string text), ("uptime_seconds", optionalUnsigned t.uptimeSeconds),
    ("cpu", cpu_d), ("memory", memory_d), ("swap", swap_d), ("disk", disk_d),
    ("power", t.power.serialize), ("health", t.health.serialize),
    ("service", t.service.serialize)],
    { t with
      cpu := cpu
      memory := { t.memory with usedPercent := memory }
      swap := { t.swap with usedPercent := swap }
      disk := { t.disk with usedPercent := disk } }, ?_, ?_, ?_,
    ⟨cpu_law, memory_law, swap_law, disk_law, rfl⟩, ?_⟩
  · simp only [TelemetryState.serialize, formatted, cpu_trip.written, memory_trip.written,
      swap_trip.written, disk_trip.written]
    rfl
  · simp only [TelemetryState.deserialize, whole, bind, Except.bind]
    simp [required, nullable, List.lookup_cons, readU32_unsigned _ version, ObservationTime.deserialize,
      readString, parsed, readOption_optionalUnsigned, cpu_trip.read, memory_trip.read,
      swap_trip.read, disk_trip.read, power_trip.1, Health.round_trip, ServiceMetrics.round_trip,
      Except.mapError, bind, Except.bind, pure, Except.pure]
  · simp only [TelemetryState.serialize, formatted, cpu_trip.again, memory_trip.again,
      swap_trip.again, disk_trip.again]
    rfl
  · simp only [TelemetryState.nullables, List.forall_mem_append, List.forall_mem_singleton]
    refine ⟨⟨⟨⟨⟨⟨_, rfl, null_optionalUnsigned _⟩, ?_⟩, ?_⟩, ?_⟩, ?_⟩, ?_⟩
    · exact nulls_under _ "cpu" cpu_d _ rfl cpu_trip.nulls
    · exact nulls_under _ "memory" memory_d _ rfl memory_trip.nulls
    · exact nulls_under _ "swap" swap_d _ rfl swap_trip.nulls
    · exact nulls_under _ "disk" disk_d _ rfl disk_trip.nulls
    · exact nulls_under _ "power" t.power.serialize _ rfl power_trip.2

def sampleCodec : TimeCodec where
  format time := if time.unixNanos = 1786883696000000000 then some "2026-08-16T12:34:56Z" else none
  parse text :=
    if text = "2026-08-16T12:34:56Z" then .ok ⟨1786883696000000000⟩ else .error "unexpected end"

/-- A state with a load of three and nothing else measured. -/
def sampleState : TelemetryState :=
  .new ⟨1786883696000000000⟩ { disk := .unavailable "/", cpu := { load1 := some (F64.ofNat 3) } } []
    ⟨12, by decide⟩

theorem sampleState_roundable : sampleState.Roundable := by
  have missing (decimalPlaces : Nat) : Writable decimalPlaces none := fun v absent => by cases absent
  have load : Roundable (F64.ofNat 3) 2 := by
    refine ⟨false, (3 : Nat), F64.natCast_le_max 3 (by decide), F64.ofMagnitude_of_le _ _ _, ?_⟩
    rw [← Nat.cast_mul]
    exact F64.natCast_le_max _ (by decide)
  exact {
    usagePercent := missing 1
    load1 := fun v measured => Option.some.inj measured ▸ load
    load5 := missing 2
    load15 := missing 2
    temperatureC := missing 1
    frequencyMhz := missing 1
    memory := missing 1
    swap := missing 1
    disk := missing 1 }

theorem state_round_trip_sample :
    ∃ d u, sampleState.serialize sampleCodec.toTimeFormat = .ok d ∧
      TelemetryState.deserialize sampleCodec d = .ok u ∧
      u.serialize sampleCodec.toTimeFormat = .ok d ∧ sampleState.Rounds u ∧
      ∀ field ∈ sampleState.nullables, ∃ value, d.at? field.1 = some value ∧
        (value = .null ↔ field.2 = true) :=
  state_round_trip sampleCodec sampleState "2026-08-16T12:34:56Z" (by decide) (by decide)
    (by decide) sampleState_roundable

end RpiHealth
