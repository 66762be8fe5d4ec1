import RpiHealth.Discovery.Identity
import RpiHealth.Library.JsonReading

/-! What a consumer reads in the Discovery message. Names and metadata may hold any
characters. -/
namespace RpiHealth
open Json

theorem text_numbered (key : String) (text : Option String) :
    numberedFields (optional key (text.map .string)) = true := by
  refine optional_numbered key _ (fun v found => ?_)
  obtain ⟨s, -, rfl⟩ := Option.map_eq_some_iff.mp found
  rfl

theorem texts_numbered (names : List String) : (Value.array (names.map .string)).numbered = true := by
  rw [Value.numbered, numberedItems_eq, List.all_map]
  exact List.all_eq_true.mpr (fun _ _ => rfl)

theorem ComponentConfig.numbered (c : ComponentConfig) : c.toJson.numbered = true := by
  have precision : numberedFields (optional "suggested_display_precision"
      (c.suggestedDisplayPrecision.map natural)) = true := by
    refine optional_numbered _ _ (fun v found => ?_)
    obtain ⟨n, -, rfl⟩ := Option.map_eq_some_iff.mp found
    exact natural_numbered n
  have options : numberedFields (optional "options"
      (c.options.map (fun names => .array (names.map .string)))) = true := by
    refine optional_numbered _ _ (fun v found => ?_)
    obtain ⟨names, -, rfl⟩ := Option.map_eq_some_iff.mp found
    exact texts_numbered names
  simp only [ComponentConfig.toJson, Value.numbered, numberedFields_append, text_numbered, precision,
    options, numberedFields, natural_numbered, Bool.and_self]

theorem DeviceInfo.numbered (d : DeviceInfo) : d.toJson.numbered = true := by
  simp only [DeviceInfo.toJson, Value.numbered, numberedFields_append, text_numbered, numberedFields,
    Bool.and_true]
  exact texts_numbered d.identifiers

theorem DiscoveryDocument.numbered (d : DiscoveryDocument) : d.toJson.numbered = true := by
  have components : numberedFields (d.components.map (fun c => (c.1, c.2.toJson))) = true := by
    rw [numberedFields_eq, List.all_map]
    exact List.all_eq_true.mpr (fun c _ => c.2.numbered)
  simp only [DiscoveryDocument.toJson, OriginInfo.toJson, Value.numbered, numberedFields,
    d.device.numbered, natural_numbered, components, Bool.and_self]

theorem components_field (d : DiscoveryDocument) : d.toJson.field? "components" =
    some (.object (d.components.map (fun c => (c.1, c.2.toJson)))) := by
  simp [DiscoveryDocument.toJson, Value.field?, List.lookup_cons]

theorem written_keys (components : List (String × ComponentConfig)) :
    (components.map (fun c => (c.1, c.2.toJson))).map Prod.fst = components.map Prod.fst := by
  rw [List.map_map]
  rfl

theorem component_keys (s : DiscoverySettings) : (s.document.components.map Prod.fst).Nodup := by
  have distinct : ((COMPONENT_DEFINITIONS.map (fun d => (d.key, d.toConfig s.deviceId
      (normalizeDeviceSlug s.deviceId) s.expireAfterSeconds))).map Prod.fst).Nodup := by
    simpa [List.map_map, Function.comp_def] using components_distinct
  have built : s.document.components = buildComponents s := by simp only [DiscoverySettings.document]
  rw [built]
  exact ((collect_perm _ distinct).map Prod.fst).nodup_iff.mpr distinct

/-- The document tells whose it is. -/
theorem identifiers_told (d e : DiscoveryDocument) (same : d.toJson = e.toJson) :
    d.device.identifiers.map Value.string = e.device.identifiers.map Value.string := by
  simp only [DiscoveryDocument.toJson, DeviceInfo.toJson, Value.object.injEq, List.cons.injEq,
    List.cons_append, Prod.mk.injEq, true_and, Value.array.injEq] at same
  exact same.1.1

/-- The payload of the Discovery message is read as the document it was made from, whatever the
names and the metadata are: a component is found under a key if and only if the table has it
there, configured for the device, and the payloads of two devices differ. -/
theorem discovery_readable (config : Config) (metadata : DeviceMetadata) :
    read (discoveryMessage config metadata).payload =
      some (discoverySettings config metadata).document.toJson ∧
    (∀ key value, ((read (discoveryMessage config metadata).payload).bind
        (fun document => (document.field? "components").bind (Value.field? key))) = some value ↔
      ∃ d ∈ COMPONENT_DEFINITIONS, d.key = key ∧ (d.toConfig config.device.id
        (normalizeDeviceSlug config.device.id)
        (discoverySettings config metadata).expireAfterSeconds).toJson = value) ∧
    ∀ other otherMetadata,
      (discoveryMessage config metadata).payload = (discoveryMessage other otherMetadata).payload →
      config.device.id = other.device.id := by
  have whole (config : Config) (metadata : DeviceMetadata) :
      read (discoveryMessage config metadata).payload =
        some (discoverySettings config metadata).document.toJson :=
    read_render _ (discoverySettings config metadata).document.numbered
  refine ⟨whole config metadata, fun key value => ?_, fun other otherMetadata same => ?_⟩
  · rw [whole, Option.bind_some]
    rw [components_field, Option.bind_some,
      field?_object _ ((written_keys _).symm ▸ component_keys _)]
    simp only [List.mem_map, Prod.mk.injEq, Prod.exists, mem_components]
    constructor
    · rintro ⟨_, _, ⟨d, row, rfl, rfl⟩, rfl, rfl⟩
      exact ⟨d, row, rfl, rfl⟩
    · rintro ⟨d, row, rfl, rfl⟩
      exact ⟨d.key, _, ⟨d, row, rfl, rfl⟩, rfl, rfl⟩
  · have documents := Option.some.inj ((whole config metadata).symm.trans
      ((congrArg read same).trans (whole other otherMetadata)))
    have told := identifiers_told _ _ documents
    simp only [DiscoverySettings.document, List.map_cons, List.map_nil, List.cons.injEq,
      Value.string.injEq, and_true] at told
    exact told

end RpiHealth
