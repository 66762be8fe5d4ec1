import RpiHealth.Telemetry.RoundTrip

/-! The shape of a document: which fields it has, in their order, and what each of them
holds. A path that leads somewhere in a shape leads there in each of its documents. -/
namespace RpiHealth

mutual

inductive Shape where
  | bool | number | string
  | oneOf (names : List String)
  | nullable (shape : Shape)
  | array (item : Shape)
  | object (layout : Layout)

inductive Layout where
  | nil
  | cons (key : String) (shape : Shape) (rest : Layout)

end

mutual

inductive Shaped : Shape → Document → Prop where
  | bool (b : Bool) : Shaped .bool (.bool b)
  | unsigned (n : Nat) : Shaped .number (.unsigned n)
  | float (v : F64) : Shaped .number (.float v)
  | string (s : String) : Shaped .string (.string s)
  | named (names : List String) (s : String) (known : s ∈ names) :
      Shaped (.oneOf names) (.string s)
  | null (shape : Shape) : Shaped (.nullable shape) .null
  | present (shape : Shape) (d : Document) (shaped : Shaped shape d) : Shaped (.nullable shape) d
  | array (item : Shape) (items : List Document) (each : ∀ d ∈ items, Shaped item d) :
      Shaped (.array item) (.array items)
  | object (layout : Layout) (fields : List (String × Document)) (laid : LaidOut layout fields) :
      Shaped (.object layout) (.object fields)

inductive LaidOut : Layout → List (String × Document) → Prop where
  | nil : LaidOut .nil []
  | cons (key : String) (shape : Shape) (rest : Layout) (d : Document)
      (fields : List (String × Document)) (here : Shaped shape d) (later : LaidOut rest fields) :
      LaidOut (.cons key shape rest) ((key, d) :: fields)

end

/-! Paths. -/

def Layout.lookup (key : String) : Layout → Option Shape
  | .nil => none
  | .cons name shape rest => if key == name then some shape else rest.lookup key

def Shape.at? : Shape → List String → Option Shape
  | shape, [] => some shape
  | .object layout, key :: rest => (layout.lookup key).bind (fun shape => shape.at? rest)
  | _, _ => none

theorem laidOut_lookup (key : String) (layout : Layout) (fields : List (String × Document))
    (laid : LaidOut layout fields) (shape : Shape) (found : layout.lookup key = some shape) :
    ∃ d, fields.lookup key = some d ∧ Shaped shape d := by
  cases laid with
  | nil => cases found
  | cons name inner rest d fields here later =>
    rw [Layout.lookup] at found
    rw [List.lookup_cons]
    cases same : key == name with
    | true =>
      rw [same, if_pos rfl] at found
      exact ⟨d, rfl, Option.some.inj found ▸ here⟩
    | false =>
      rw [same, if_neg Bool.false_ne_true] at found
      exact laidOut_lookup key rest fields later shape found

theorem shaped_at (path : List String) (shape inner : Shape) (d : Document)
    (shaped : Shaped shape d) (leads : shape.at? path = some inner) :
    ∃ e, d.at? path = some e ∧ Shaped inner e := by
  induction path generalizing shape d with
  | nil =>
    rw [Shape.at?] at leads
    exact ⟨d, by rw [Document.at?], Option.some.inj leads ▸ shaped⟩
  | cons key path ih =>
    cases shaped with
    | object layout fields laid =>
      rw [Shape.at?] at leads
      obtain ⟨field, found, later⟩ := Option.bind_eq_some_iff.mp leads
      obtain ⟨e, read, fits⟩ := laidOut_lookup key layout fields laid field found
      obtain ⟨f, followed, ends⟩ := ih field e fits later
      exact ⟨f, by rw [Document.at?, read, Option.bind_some, followed], ends⟩
    | _ => cases leads

/-! The state. -/

/-- Fields in their order. -/
def Shape.record (fields : List (String × Shape)) : Shape :=
  .object (fields.foldr (fun field rest => .cons field.1 field.2 rest) .nil)

def CPU_SHAPE : Shape := .record
  [("usage_percent", .nullable .number), ("load_1", .nullable .number),
    ("load_5", .nullable .number), ("load_15", .nullable .number),
    ("temperature_c", .nullable .number), ("frequency_mhz", .nullable .number)]

def MEMORY_SHAPE : Shape := .record
  [("total_bytes", .nullable .number), ("available_bytes", .nullable .number),
    ("used_bytes", .nullable .number), ("used_percent", .nullable .number)]

def SWAP_SHAPE : Shape := .record
  [("total_bytes", .nullable .number), ("used_bytes", .nullable .number),
    ("used_percent", .nullable .number)]

def DISK_SHAPE : Shape := .record
  [("mount", .string), ("total_bytes", .nullable .number),
    ("available_bytes", .nullable .number), ("used_bytes", .nullable .number),
    ("used_percent", .nullable .number)]

def POWER_SHAPE : Shape := .record
  [("throttled_raw", .nullable .string), ("undervoltage_now", .nullable .bool),
    ("arm_frequency_capped_now", .nullable .bool), ("throttled_now", .nullable .bool),
    ("soft_temperature_limit_now", .nullable .bool), ("undervoltage_since_boot", .nullable .bool),
    ("arm_frequency_capped_since_boot", .nullable .bool),
    ("throttled_since_boot", .nullable .bool),
    ("soft_temperature_limit_since_boot", .nullable .bool)]

def HEALTH_SHAPE : Shape := .record
  [("status", .oneOf ["ok", "warning", "critical", "degraded"]),
    ("collector_errors", .array (.record [("metric", .string), ("message", .string)]))]

def STATE_SHAPE : Shape := .record
  [("schema_version", .number), ("observed_at", .string), ("uptime_seconds", .nullable .number),
    ("cpu", CPU_SHAPE), ("memory", MEMORY_SHAPE), ("swap", SWAP_SHAPE), ("disk", DISK_SHAPE),
    ("power", POWER_SHAPE), ("health", HEALTH_SHAPE),
    ("service", .record [("version", .string), ("collection_duration_ms", .number)])]

theorem shaped_unsigned (value : Option U64) :
    Shaped (.nullable .number) (Document.optionalUnsigned value) := by
  cases value with
  | none => exact .null _
  | some n => exact .present _ _ (.unsigned _)

theorem shaped_bool (value : Option Bool) :
    Shaped (.nullable .bool) (Document.optionalBool value) := by
  cases value with
  | none => exact .null _
  | some b => exact .present _ _ (.bool b)

theorem shaped_string (value : Option String) :
    Shaped (.nullable .string) (Document.optionalString value) := by
  cases value with
  | none => exact .null _
  | some s => exact .present _ _ (.string s)

theorem shaped_measurement (decimalPlaces : Nat) (value : Option F64) (d : Document)
    (written : serializeOptionalF64 decimalPlaces value = .ok d) :
    Shaped (.nullable .number) d := by
  cases value with
  | none =>
    obtain rfl := Except.ok.inj written
    exact .null _
  | some v =>
    rw [serializeOptionalF64] at written
    cases rounded : roundedMetric v decimalPlaces with
    | none =>
      rw [rounded] at written
      cases written
    | some r =>
      rw [rounded] at written
      obtain rfl := Except.ok.inj written
      exact .present _ _ (.float r)

theorem shaped_record (fields : List (String × Shape)) (documents : List (String × Document))
    (each : List.Forall₂ (fun field d => field.1 = d.1 ∧ Shaped field.2 d.2) fields documents) :
    Shaped (.record fields) (.object documents) := by
  refine .object _ _ ?_
  induction each with
  | nil => exact .nil
  | cons here rest ih =>
    rw [List.foldr_cons, here.1]
    exact .cons _ _ _ _ _ here.2 ih

theorem CpuMetrics.shaped (m : CpuMetrics) (d : Document) (written : m.serialize = .ok d) :
    Shaped CPU_SHAPE d := by
  simp only [CpuMetrics.serialize, bind_eq_ok] at written
  obtain ⟨usage, u, one, o, five, f, fifteen, n, temperature, t, frequency, q, made⟩ := written
  obtain rfl := Except.ok.inj made
  apply shaped_record
  simp only [List.forall₂_cons, List.forall₂_nil_left_iff, true_and, and_true]
  exact ⟨shaped_measurement 1 _ _ u, shaped_measurement 2 _ _ o, shaped_measurement 2 _ _ f,
    shaped_measurement 2 _ _ n, shaped_measurement 1 _ _ t, shaped_measurement 1 _ _ q⟩

theorem MemoryMetrics.shaped (m : MemoryMetrics) (d : Document) (written : m.serialize = .ok d) :
    Shaped MEMORY_SHAPE d := by
  simp only [MemoryMetrics.serialize, bind_eq_ok] at written
  obtain ⟨percent, p, made⟩ := written
  obtain rfl := Except.ok.inj made
  apply shaped_record
  simp only [List.forall₂_cons, List.forall₂_nil_left_iff, true_and, and_true]
  exact ⟨shaped_unsigned _, shaped_unsigned _, shaped_unsigned _, shaped_measurement 1 _ _ p⟩

theorem SwapMetrics.shaped (m : SwapMetrics) (d : Document) (written : m.serialize = .ok d) :
    Shaped SWAP_SHAPE d := by
  simp only [SwapMetrics.serialize, bind_eq_ok] at written
  obtain ⟨percent, p, made⟩ := written
  obtain rfl := Except.ok.inj made
  apply shaped_record
  simp only [List.forall₂_cons, List.forall₂_nil_left_iff, true_and, and_true]
  exact ⟨shaped_unsigned _, shaped_unsigned _, shaped_measurement 1 _ _ p⟩

theorem DiskMetrics.shaped (m : DiskMetrics) (d : Document) (written : m.serialize = .ok d) :
    Shaped DISK_SHAPE d := by
  simp only [DiskMetrics.serialize, bind_eq_ok] at written
  obtain ⟨percent, p, made⟩ := written
  obtain rfl := Except.ok.inj made
  apply shaped_record
  simp only [List.forall₂_cons, List.forall₂_nil_left_iff, true_and, and_true]
  exact ⟨.string _, shaped_unsigned _, shaped_unsigned _, shaped_unsigned _,
    shaped_measurement 1 _ _ p⟩

theorem PowerMetrics.shaped (m : PowerMetrics) : Shaped POWER_SHAPE m.serialize := by
  apply shaped_record
  simp only [List.forall₂_cons, List.forall₂_nil_left_iff, true_and, and_true]
  exact ⟨shaped_string _, shaped_bool _, shaped_bool _, shaped_bool _, shaped_bool _,
    shaped_bool _, shaped_bool _, shaped_bool _, shaped_bool _⟩

theorem Health.shaped (h : Health) : Shaped HEALTH_SHAPE h.serialize := by
  apply shaped_record
  simp only [List.forall₂_cons, List.forall₂_nil_left_iff, true_and, and_true]
  constructor
  · cases h.status <;> exact .named _ _ (by simp)
  · refine .array _ _ (fun d member => ?_)
    obtain ⟨e, -, rfl⟩ := List.mem_map.mp member
    apply shaped_record
    simp only [List.forall₂_cons, List.forall₂_nil_left_iff, true_and, and_true]
    exact ⟨.string _, .string _⟩

/-- Every state is written in one shape, whatever was measured. -/
theorem TelemetryState.shaped (times : TimeFormat) (t : TelemetryState) (d : Document)
    (written : t.serialize times = .ok d) : Shaped STATE_SHAPE d := by
  simp only [TelemetryState.serialize, bind_eq_ok] at written
  obtain ⟨observedAt, -, cpu, c, memory, m, swap, s, disk, k, made⟩ := written
  obtain rfl := Except.ok.inj made
  apply shaped_record
  simp only [List.forall₂_cons, List.forall₂_nil_left_iff, true_and, and_true]
  refine ⟨.unsigned _, .string _, shaped_unsigned _, t.cpu.shaped cpu c, t.memory.shaped memory m,
    t.swap.shaped swap s, t.disk.shaped disk k, t.power.shaped, t.health.shaped, ?_⟩
  apply shaped_record
  simp only [List.forall₂_cons, List.forall₂_nil_left_iff, true_and, and_true]
  exact ⟨.string _, .unsigned _⟩

end RpiHealth
