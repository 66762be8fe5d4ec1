import RpiHealth.Discovery.Size

/-! The identifiers that Discovery derives from a device id. An entity's identifier
joins the id and the key with a character that both may contain. -/
namespace RpiHealth
open Json

theorem keys_tail_free : ∀ d ∈ COMPONENT_DEFINITIONS, ∀ e ∈ COMPONENT_DEFINITIONS,
    ¬ '_' :: d.key.toList <:+ e.key.toList := by
  decide +kernel

theorem uniqueId_toList (d : ComponentDefinition) (deviceId deviceSlug : String)
    (expireAfter : Nat) : (d.toConfig deviceId deviceSlug expireAfter).uniqueId.toList =
      deviceId.toList ++ '_' :: d.key.toList := by
  simp [ComponentDefinition.toConfig]

/-- The identifier of an entity tells its device and its key. -/
theorem uniqueId_injective (d e : ComponentDefinition) (known : d ∈ COMPONENT_DEFINITIONS)
    (known_other : e ∈ COMPONENT_DEFINITIONS) (id other slug other_slug : String)
    (expireAfter other_expireAfter : Nat)
    (same : (d.toConfig id slug expireAfter).uniqueId =
      (e.toConfig other other_slug other_expireAfter).uniqueId) : id = other ∧ d.key = e.key := by
  have joined := congrArg String.toList same
  rw [uniqueId_toList, uniqueId_toList] at joined
  obtain ⟨ids, keys⟩ := Text.join_unique '_' id.toList other.toList d.key.toList e.key.toList
    (keys_tail_free d known e known_other) (keys_tail_free e known_other d known) joined
  exact ⟨String.toList_inj.mp ids, String.toList_inj.mp keys⟩

/-- Every entity of the document is a row of the table, configured for the device. -/
theorem mem_components (s : DiscoverySettings) (key : String) (component : ComponentConfig) :
    (key, component) ∈ s.document.components ↔ ∃ d ∈ COMPONENT_DEFINITIONS, d.key = key ∧
      d.toConfig s.deviceId (normalizeDeviceSlug s.deviceId) s.expireAfterSeconds = component := by
  have perm : (buildComponents s).Perm _ := collect_perm _
    (by simpa [List.map_map, Function.comp_def] using components_distinct)
  have built : s.document.components = buildComponents s := by simp only [DiscoverySettings.document]
  rw [built, perm.mem_iff]
  simp

theorem discoveryTopic_injective (s t : DiscoverySettings)
    (prefixes : s.discoveryPrefix = t.discoveryPrefix) (same : s.discoveryTopic = t.discoveryTopic) :
    s.deviceId = t.deviceId := by
  have joined := congrArg String.toList same
  simp only [DiscoverySettings.discoveryTopic, prefixes, String.toList_append,
    List.append_assoc] at joined
  have ids := List.append_cancel_left (List.append_cancel_left joined)
  exact String.toList_inj.mp (List.append_cancel_right ids)

/-- Entities of two devices have one identifier only where device and key agree, and the
devices one Discovery topic under one prefix only where they agree: whatever the ids are. -/
theorem identities_distinct (s t : DiscoverySettings) :
    (∀ key₁ key₂ component₁ component₂, (key₁, component₁) ∈ s.document.components →
      (key₂, component₂) ∈ t.document.components →
      component₁.uniqueId = component₂.uniqueId → s.deviceId = t.deviceId ∧ key₁ = key₂) ∧
    (s.discoveryPrefix = t.discoveryPrefix →
      (buildDiscoveryMessage s).topic = (buildDiscoveryMessage t).topic →
      s.deviceId = t.deviceId) := by
  constructor
  · intro key₁ key₂ component₁ component₂ member₁ member₂ same
    obtain ⟨d, known, rfl, rfl⟩ := (mem_components s key₁ component₁).mp member₁
    obtain ⟨e, known_other, rfl, rfl⟩ := (mem_components t key₂ component₂).mp member₂
    exact uniqueId_injective d e known known_other _ _ _ _ _ _ same
  · intro prefixes same
    exact discoveryTopic_injective s t prefixes same

end RpiHealth
