import RpiHealth.Discovery.Document

/-! The length of the Discovery document, from the lengths of what goes into it. -/
namespace RpiHealth
open Json

/-- The length of an object's fields, each with what separates it from the next. -/
def fieldsSize (fields : List (String × Value)) : Nat :=
  (fields.map (fun f => escapedSize f.1 + 4 + f.2.size)).sum

theorem size_fields (fields : List (String × Value)) (nonempty : fields ≠ []) :
    (Value.object fields).size = 1 + fieldsSize fields := by
  have each : (sizeFields fields).map (· + 1) =
      fields.map (fun f => escapedSize f.1 + 4 + f.2.size) := by
    rw [sizeFields_eq, List.map_map]
    refine List.map_congr_left (fun f _ => ?_)
    simp only [Function.comp_apply]
    omega
  rw [Value.size, enclosed, each, fieldsSize]
  obtain ⟨field, rest, rfl⟩ := List.exists_cons_of_ne_nil nonempty
  simp only [List.map_cons, List.sum_cons]
  omega

theorem size_object (field : String × Value) (rest : List (String × Value)) :
    (Value.object (field :: rest)).size = 1 + fieldsSize (field :: rest) :=
  size_fields _ (by simp)

@[simp] theorem fieldsSize_nil : fieldsSize [] = 0 := rfl

@[simp] theorem fieldsSize_cons (key : String) (v : Value) (rest : List (String × Value)) :
    fieldsSize ((key, v) :: rest) = escapedSize key + 4 + v.size + fieldsSize rest := by
  simp [fieldsSize]

@[simp] theorem fieldsSize_append (first second : List (String × Value)) :
    fieldsSize (first ++ second) = fieldsSize first + fieldsSize second := by
  simp [fieldsSize]

theorem fieldsSize_perm (first second : List (String × Value)) (perm : first.Perm second) :
    fieldsSize first = fieldsSize second :=
  (perm.map _).sum_nat

@[simp] theorem size_string (s : String) : (Value.string s).size = escapedSize s + 2 := rfl

@[simp] theorem size_natural (n : Nat) : (natural n).size = Text.size (toString n) := by
  simp [natural, Value.size]

theorem size_singleton (s : String) : (Value.array [.string s]).size = escapedSize s + 4 := by
  simp only [Value.size, sizeItems, enclosed, List.map_cons, List.map_nil, List.sum_cons,
    List.sum_nil]
  omega

/-- A text that is written under its key if it is there. -/
def optionalSize (keySize : Nat) : Option String → Nat
  | none => 0
  | some text => keySize + 6 + escapedSize text

theorem fieldsSize_optional (key : String) (text : Option String) :
    fieldsSize (optional key (text.map .string)) = optionalSize (escapedSize key) text := by
  cases text with
  | none => rfl
  | some text =>
    simp only [Option.map_some, Json.optional, fieldsSize_cons, fieldsSize_nil, size_string,
      optionalSize]
    omega

/-- A component as it is written for an empty identifier and no expiry. -/
def ComponentDefinition.blankSize (d : ComponentDefinition) : Nat :=
  (d.toConfig "" "" 0).toJson.size

/-- Identifier, slug and expiry are all that varies between devices. -/
theorem size_component (d : ComponentDefinition) (deviceId deviceSlug : String)
    (expireAfter : Nat) :
    (d.toConfig deviceId deviceSlug expireAfter).toJson.size + 1 =
      d.blankSize + escapedSize deviceId + escapedSize deviceSlug +
        Text.size (toString expireAfter) := by
  have zero : Text.size (toString 0) = 1 := by decide
  have empty : escapedSize "" = 0 := by decide
  simp only [ComponentDefinition.blankSize, ComponentConfig.toJson, List.cons_append,
    List.nil_append, size_object, fieldsSize_cons, fieldsSize_append,
    ComponentDefinition.toConfig, size_natural, size_string, escapedSize_append, zero, empty]
  omega

/-- Characters of a device identifier, and of its slug, take one byte each. -/
theorem identifier_character (c : Char)
    (allowed : (Text.isAsciiAlphanumeric c || ['_', '-'].contains c) = true) :
    (escape c = [c] ∧ c.utf8Size = 1) ∧
      escape (normalizeCharacter c) = [normalizeCharacter c] ∧
      (normalizeCharacter c).utf8Size = 1 := by
  have ascii : c.toNat < 128 := by
    simp only [Text.isAsciiAlphanumeric, List.contains_cons, List.contains_nil, Bool.or_false,
      Bool.or_eq_true, Bool.and_eq_true, decide_eq_true_eq, beq_iff_eq] at allowed
    rcases allowed with range | rfl | rfl
    · omega
    · decide
    · decide
  have all : ∀ n < 128,
      (Text.isAsciiAlphanumeric (Char.ofNat n) || ['_', '-'].contains (Char.ofNat n)) = true →
      (escape (Char.ofNat n) = [Char.ofNat n] ∧ (Char.ofNat n).utf8Size = 1) ∧
        escape (normalizeCharacter (Char.ofNat n)) = [normalizeCharacter (Char.ofNat n)] ∧
        (normalizeCharacter (Char.ofNat n)).utf8Size = 1 := by decide +kernel
  have here := all c.toNat ascii
  rw [Char.ofNat_toNat] at here
  exact here allowed

theorem identifier_sizes (deviceId : String)
    (valid : validIdentifier deviceId 64 ['_', '-'] = true) :
    escapedSize deviceId = Text.size deviceId ∧
      escapedSize (normalizeDeviceSlug deviceId) = Text.size deviceId := by
  simp only [validIdentifier, Bool.and_eq_true, List.all_eq_true] at valid
  have each := fun c member => identifier_character c (valid.2 c member)
  refine ⟨escapedSize_plain _ (fun c member => (each c member).1.1), ?_⟩
  rw [escapedSize_plain]
  · rw [normalizeDeviceSlug, Text.size_ofList, Text.size_eq_sum, List.map_map]
    refine congrArg List.sum (List.map_congr_left (fun c member => ?_))
    rw [Function.comp_apply, (each c member).2.2, (each c member).1.2]
  · intro d member
    rw [normalizeDeviceSlug, String.toList_ofList] at member
    obtain ⟨c, inside, rfl⟩ := List.mem_map.mp member
    exact (each c inside).2.1

/-- A table of components: a fixed text, and the device in two places of each. -/
theorem size_table (table : List ComponentDefinition) (distinct : (table.map (·.key)).Nodup)
    (deviceId deviceSlug : String) (expireAfter : Nat) :
    fieldsSize ((collect (table.map (fun d =>
        (d.key, d.toConfig deviceId deviceSlug expireAfter)))).map (fun c => (c.1, c.2.toJson))) =
      (table.map (fun d => escapedSize d.key + 3 + d.blankSize)).sum + table.length *
        (escapedSize deviceId + escapedSize deviceSlug + Text.size (toString expireAfter)) := by
  have perm := collect_perm (table.map (fun d =>
    (d.key, d.toConfig deviceId deviceSlug expireAfter)))
    (by simpa [List.map_map, Function.comp_def] using distinct)
  rw [fieldsSize_perm _ _ (perm.map (fun c => (c.1, c.2.toJson)))]
  clear perm distinct
  induction table with
  | nil => simp
  | cons d rest ih =>
    have here := size_component d deviceId deviceSlug expireAfter
    simp only [List.map_cons, List.sum_cons, List.length_cons, Nat.add_mul, fieldsSize_cons, ih]
    omega

theorem components_fixed :
    (COMPONENT_DEFINITIONS.map (fun d => escapedSize d.key + 3 + d.blankSize)).sum = 10676 := by
  decide +kernel

theorem components_distinct : (COMPONENT_DEFINITIONS.map (·.key)).Nodup := by
  decide +kernel

theorem buildComponents_nonempty (s : DiscoverySettings) :
    (buildComponents s).map (fun c => (c.1, c.2.toJson)) ≠ [] := by
  have rows : 0 < COMPONENT_DEFINITIONS.length := by decide
  have perm : (buildComponents s).Perm _ := collect_perm _
    (by simpa [List.map_map, Function.comp_def] using components_distinct)
  intro empty
  have length := perm.length_eq
  simp only [List.map_eq_nil_iff] at empty
  simp only [empty, List.length_nil, List.length_map] at length
  omega

/-- The document's length, for a device identifier that needs no escapes. -/
theorem size_document (s : DiscoverySettings)
    (valid : validIdentifier s.deviceId 64 ['_', '-'] = true) :
    s.document.toJson.size = 10952 + 53 * Text.size s.deviceId + escapedSize s.name +
      escapedSize s.stateTopic + escapedSize s.availabilityTopic +
      26 * Text.size (toString s.expireAfterSeconds) + optionalSize 5 s.model +
      optionalSize 13 s.serialNumber + optionalSize 10 s.hardwareVersion := by
  have rows : COMPONENT_DEFINITIONS.length = 26 := rfl
  have table := size_table COMPONENT_DEFINITIONS components_distinct s.deviceId
    (normalizeDeviceSlug s.deviceId) s.expireAfterSeconds
  rw [components_fixed, rows, (identifier_sizes s.deviceId valid).1,
    (identifier_sizes s.deviceId valid).2] at table
  have components := size_fields _ (buildComponents_nonempty s)
  rw [buildComponents, table] at components
  have keys : escapedSize "model" = 5 ∧ escapedSize "serial_number" = 13 ∧
      escapedSize "hw_version" = 10 := by decide +kernel
  have names : escapedSize "device" = 6 ∧ escapedSize "origin" = 6 ∧
      escapedSize "state_topic" = 11 ∧ escapedSize "availability_topic" = 18 ∧
      escapedSize "payload_available" = 17 ∧ escapedSize "payload_not_available" = 21 ∧
      escapedSize "qos" = 3 ∧ escapedSize "components" = 10 ∧ escapedSize "identifiers" = 11 ∧
      escapedSize "name" = 4 ∧ escapedSize "manufacturer" = 12 ∧
      escapedSize "sw_version" = 10 := by decide +kernel
  have texts : escapedSize MANUFACTURER = 12 ∧ escapedSize SOFTWARE_VERSION = 5 ∧
      escapedSize ORIGIN_NAME = 15 ∧ escapedSize ONLINE_PAYLOAD = 6 ∧
      escapedSize OFFLINE_PAYLOAD = 7 ∧ Text.size (toString 0) = 1 := by
    decide +kernel
  simp only [DiscoveryDocument.toJson, DiscoverySettings.document, DeviceInfo.toJson,
    OriginInfo.toJson, List.map_cons, List.map_nil, List.cons_append, List.nil_append, size_object,
    fieldsSize_cons, fieldsSize_append, fieldsSize_nil, fieldsSize_optional, size_string,
    size_natural, size_singleton, keys, names, texts, (identifier_sizes s.deviceId valid).1,
    buildComponents, components]
  omega

end RpiHealth
