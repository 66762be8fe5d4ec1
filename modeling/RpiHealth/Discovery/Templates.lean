import RpiHealth.Discovery.Identity
import RpiHealth.Library.Parsing
import RpiHealth.Telemetry.Shape

/-! What the advertised templates read of a payload. Home Assistant evaluates them; what
they name is in their text. -/
namespace RpiHealth

def MARK : List Char := ['v', 'a', 'l', 'u', 'e', '_', 'j', 's', 'o', 'n', '.']

def isPathCharacter (c : Char) : Bool := Text.isAsciiAlphanumeric c || c == '_' || c == '.'

/-- The paths that a template names in a payload. -/
def references : List Char → List (List String)
  | [] => []
  | c :: rest =>
    if MARK.isPrefixOf (c :: rest) then
      ((((c :: rest).drop MARK.length).takeWhile isPathCharacter).splitOn '.').map String.ofList ::
        references rest
    else references rest

def COUNT_FILTER : String := " | count "
def NONE_CASE : String := " is not none else none"
def FLAG_CASES : String := "'ON' if v is true else ('OFF' if v is false else none)"

namespace ComponentConfig

def counts (c : ComponentConfig) : Bool := Text.contains COUNT_FILTER c.valueTemplate

/-- The template has a case for a value that is null. -/
def handlesNull (c : ComponentConfig) : Bool :=
  Text.contains NONE_CASE c.valueTemplate || Text.contains FLAG_CASES c.valueTemplate

/-- A value that an entity of this kind can show. -/
structure Takes (c : ComponentConfig) (value : Document) : Prop where
  enumerated : ∀ names, c.options = some names → ∃ name ∈ names, value = .string name
  binary : c.platform = "binary_sensor" → value = .null ∨ ∃ b, value = .bool b
  timestamp : c.deviceClass = some "timestamp" → ∃ text, value = .string text
  counted : c.counts = true → ∃ items, value = .array items
  measured : c.stateClass = some "measurement" → c.counts = false →
    value = .null ∨ (∃ n, value = .unsigned n) ∨ ∃ v, value = .float v
  null : value = .null → c.handlesNull = true

end ComponentConfig

/-! The same of shapes. -/

namespace Shape

def isEnumerated (names : List String) : Shape → Bool
  | .oneOf known => known.all names.contains
  | _ => false

def isBinary : Shape → Bool
  | .bool | .nullable .bool => true
  | _ => false

def isText : Shape → Bool
  | .string => true
  | _ => false

def isList : Shape → Bool
  | .array _ => true
  | _ => false

def isMeasured : Shape → Bool
  | .number | .nullable .number => true
  | _ => false

def isNullable : Shape → Bool
  | .nullable _ => true
  | _ => false

def suits (shape : Shape) (c : ComponentConfig) : Bool :=
  c.options.all shape.isEnumerated &&
    (c.platform != "binary_sensor" || shape.isBinary) &&
    (c.deviceClass != some "timestamp" || shape.isText) &&
    (!c.counts || shape.isList) &&
    (c.stateClass != some "measurement" || c.counts || shape.isMeasured) &&
    (!shape.isNullable || c.handlesNull)

end Shape

theorem suits_takes (c : ComponentConfig) (shape : Shape) (value : Document)
    (suits : shape.suits c = true) (shaped : Shaped shape value) : c.Takes value := by
  simp only [Shape.suits, Bool.and_eq_true, Option.all_eq_true, Bool.or_eq_true, bne_iff_ne,
    Bool.not_eq_true', ne_eq] at suits
  obtain ⟨⟨⟨⟨⟨options, binary⟩, timestamp⟩, counted⟩, measured⟩, null⟩ := suits
  constructor
  · intro names is
    have known := options names is
    cases shaped with
    | named names' s among =>
      exact ⟨s, by simpa using List.all_eq_true.mp known s among, rfl⟩
    | _ => cases known
  · intro is
    have two := binary.resolve_left (not_not_intro is)
    cases shaped with
    | bool b => exact .inr ⟨b, rfl⟩
    | null shape => exact .inl rfl
    | present shape d inner =>
      cases inner with
      | bool b => exact .inr ⟨b, rfl⟩
      | _ => cases two
    | _ => cases two
  · intro is
    have text := timestamp.resolve_left (not_not_intro is)
    cases shaped with
    | string s => exact ⟨s, rfl⟩
    | _ => cases text
  · intro is
    have list := counted.resolve_left (by simp [is])
    cases shaped with
    | array item items each => exact ⟨items, rfl⟩
    | _ => cases list
  · intro is single
    have number := (measured.resolve_left (by simp [is, single]))
    cases shaped with
    | unsigned n => exact .inr (.inl ⟨n, rfl⟩)
    | float v => exact .inr (.inr ⟨v, rfl⟩)
    | null shape => exact .inl rfl
    | present shape d inner =>
      cases inner with
      | unsigned n => exact .inr (.inl ⟨n, rfl⟩)
      | float v => exact .inr (.inr ⟨v, rfl⟩)
      | _ => cases number
    | _ => cases number
  · rintro rfl
    cases shaped with
    | null shape => exact null.resolve_left (by simp [Shape.isNullable])
    | present shape d inner => exact null.resolve_left (by simp [Shape.isNullable])

def ComponentDefinition.suited (d : ComponentDefinition) : Bool :=
  let paths := references d.valueTemplate.toList
  !paths.isEmpty && paths.all (fun path =>
    (STATE_SHAPE.at? path).any (fun shape => shape.suits (d.toConfig "" "" 0)))

theorem definitions_suited : ∀ d ∈ COMPONENT_DEFINITIONS, d.suited = true := by
  simp only [COMPONENT_DEFINITIONS, List.forall_mem_cons, List.not_mem_nil, false_imp_iff,
    implies_true, and_true]
  and_intros
  all_goals
    simp only [ComponentDefinition.suited, ComponentDefinition.toConfig, Shape.suits,
      ComponentConfig.counts, ComponentConfig.handlesNull, Text.contains, COUNT_FILTER, NONE_CASE,
      FLAG_CASES, sensor, binarySensor, valueOrNone, unlessNone, flag, expression,
      String.toList_append]
    -- the kernel takes long to decode a literal
    repeat rw [String.toList_ofList]
    decide +kernel

/-- Each template names something, and all that it names has a fitting shape. -/
theorem definition_suits (d : ComponentDefinition) (row : d ∈ COMPONENT_DEFINITIONS)
    (deviceId deviceSlug : String) (expireAfter : Nat) :
    references d.valueTemplate.toList ≠ [] ∧
      ∀ path ∈ references d.valueTemplate.toList, ∃ shape, STATE_SHAPE.at? path = some shape ∧
        shape.suits (d.toConfig deviceId deviceSlug expireAfter) = true := by
  have suited := definitions_suited d row
  simp only [ComponentDefinition.suited, Bool.and_eq_true, Bool.not_eq_true',
    List.isEmpty_eq_false_iff, List.all_eq_true, Option.any_eq_true] at suited
  refine ⟨suited.1, fun path named => ?_⟩
  obtain ⟨shape, leads, suits⟩ := suited.2 path named
  exact ⟨shape, leads, suits⟩

/-- Whatever was measured, each advertised entity finds what its template names in the
payload, in a form that it can show, and is ready for a null where one can stand. -/
theorem templates_resolve (times : TimeFormat) (t : TelemetryState) (payload : Document)
    (written : t.serialize times = .ok payload) (s : DiscoverySettings) (key : String)
    (component : ComponentConfig) (advertised : (key, component) ∈ s.document.components) :
    references component.valueTemplate.toList ≠ [] ∧
      ∀ path ∈ references component.valueTemplate.toList,
        ∃ value, payload.at? path = some value ∧ component.Takes value := by
  obtain ⟨d, row, -, rfl⟩ := (mem_components s key component).mp advertised
  obtain ⟨nonempty, suits⟩ := definition_suits d row s.deviceId (normalizeDeviceSlug s.deviceId)
    s.expireAfterSeconds
  refine ⟨nonempty, fun path named => ?_⟩
  obtain ⟨shape, leads, suited⟩ := suits path named
  obtain ⟨value, read, shaped⟩ := shaped_at path STATE_SHAPE shape payload
    (t.shaped times payload written) leads
  exact ⟨value, read, suits_takes _ shape value suited shaped⟩

def sampleDiscovery : DiscoverySettings where
  deviceId := "pi"
  name := "Pi"
  baseTopic := "pi"
  discoveryPrefix := "homeassistant"
  interval := 30

/-- The temperature of the processor in a payload without one. -/
theorem templates_resolve_temperature : ∃ payload,
    sampleState.serialize sampleCodec.toTimeFormat = .ok payload ∧
      references (valueOrNone "value_json.cpu.temperature_c").toList ≠ [] ∧
      ∀ path ∈ references (valueOrNone "value_json.cpu.temperature_c").toList,
        ∃ value, payload.at? path = some value ∧
          (COMPONENT_DEFINITIONS[1].toConfig "pi" "pi" 90).Takes value := by
  have roundable := sampleState_roundable
  obtain ⟨payload, written⟩ := (TelemetryState.serialize_ok sampleCodec.toTimeFormat
    sampleState).mpr ⟨by decide, (CpuMetrics.serialize_ok _).mpr ⟨roundable.usagePercent,
      roundable.load1, roundable.load5, roundable.load15, roundable.temperatureC,
      roundable.frequencyMhz⟩, roundable.memory, roundable.swap, roundable.disk⟩
  exact ⟨payload, written, templates_resolve sampleCodec.toTimeFormat sampleState payload written
    sampleDiscovery "cpu_temperature" (COMPONENT_DEFINITIONS[1].toConfig "pi" "pi" 90)
    ((mem_components _ _ _).mpr ⟨COMPONENT_DEFINITIONS[1], List.getElem_mem _, rfl, rfl⟩)⟩

end RpiHealth
