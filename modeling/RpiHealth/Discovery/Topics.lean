import RpiHealth.Discovery.Document

/-! The topics that Discovery advertises are those that the supervisor publishes to. -/
namespace RpiHealth
open Json

/-- A validated topic has no slash to trim. -/
theorem trim_validTopic (topic : String) (valid : validTopic topic = true) :
    Text.trimEndMatches '/' topic = topic := by
  refine Text.trimEndMatches_of_not_endsWith '/' topic ?_
  simp only [validTopic, Bool.and_eq_true, Bool.not_eq_true'] at valid
  exact valid.1.1.1.2

theorem stateTopic_agrees (config : Config) (metadata : DeviceMetadata)
    (valid : config.Valid) : (discoverySettings config metadata).stateTopic =
    config.mqtt.stateTopic := by
  simp only [DiscoverySettings.stateTopic, childTopic, discoverySettings,
    trim_validTopic _ valid.baseTopic, MqttConfig.stateTopic, String.append_assoc]
  rfl

theorem availabilityTopic_agrees (config : Config) (metadata : DeviceMetadata)
    (valid : config.Valid) : (discoverySettings config metadata).availabilityTopic =
    config.mqtt.availabilityTopic := by
  simp only [DiscoverySettings.availabilityTopic, childTopic, discoverySettings,
    trim_validTopic _ valid.baseTopic, MqttConfig.availabilityTopic, String.append_assoc]
  rfl

theorem discoveryTopic_agrees (config : Config) (metadata : DeviceMetadata)
    (valid : config.Valid) : (discoverySettings config metadata).discoveryTopic =
    config.mqtt.discoveryTopic config.device.id := by
  simp only [DiscoverySettings.discoveryTopic, discoverySettings,
    trim_validTopic _ valid.discoveryPrefix, MqttConfig.discoveryTopic]

/-- What is published and what the Discovery message advertises. -/
structure TopicsAgree (settings : MqttSettings) (document : DiscoveryDocument)
    (message : DiscoveryMessage) : Prop where
  payload : message.payload = document.toJson.render
  stateTopic : document.toJson.field? "state_topic" = some (.string settings.stateTopic)
  availabilityTopic :
    document.toJson.field? "availability_topic" = some (.string settings.availabilityTopic)
  discovery : settings.request message.payload .publishDiscovery none =
    .publish message.topic .atLeastOnce true message.payload
  state : ∀ payload, settings.request message.payload .publishState (some payload) =
    .publish document.stateTopic .atMostOnce false payload
  online : settings.request message.payload .publishOnline none =
    .publish document.availabilityTopic .atLeastOnce true document.payloadAvailable
  offline : settings.request message.payload .publishOffline none =
    .publish document.availabilityTopic .atLeastOnce true document.payloadNotAvailable
  lastWill : ∀ credentials, (settings.options credentials).lastWill =
    ⟨document.availabilityTopic, document.payloadNotAvailable, .atLeastOnce, true⟩
  available : document.toJson.field? "payload_available" =
    some (.string document.payloadAvailable)
  notAvailable : document.toJson.field? "payload_not_available" =
    some (.string document.payloadNotAvailable)

/-- Two derivations of the topics, one result: validation leaves nothing to trim. -/
theorem advertised_topics_agree (raw : RawConfig) (config : Config) (metadata : DeviceMetadata)
    (accepted : raw.validate = .ok config) :
    TopicsAgree (MqttSettings.new config.mqtt config.device.id)
      (discoverySettings config metadata).document (discoveryMessage config metadata) := by
  have valid := (validate_eq_ok raw config accepted).1
  have state := stateTopic_agrees config metadata valid
  have availability := availabilityTopic_agrees config metadata valid
  have discovery := discoveryTopic_agrees config metadata valid
  exact {
    payload := rfl
    stateTopic := congrArg (fun topic => some (Value.string topic)) state
    availabilityTopic := congrArg (fun topic => some (Value.string topic)) availability
    discovery := by
      simp only [MqttSettings.request, discoveryMessage, buildDiscoveryMessage, discovery]
      rfl
    state := fun payload => by
      simp only [MqttSettings.request, DiscoverySettings.document, state]
      rfl
    online := by
      simp only [MqttSettings.request, DiscoverySettings.document, availability]
      rfl
    offline := by
      simp only [MqttSettings.request, DiscoverySettings.document, availability]
      rfl
    lastWill := fun credentials => by
      simp only [MqttSettings.options, MqttSettings.lastWill, DiscoverySettings.document,
        availability]
      rfl
    available := rfl
    notAvailable := rfl }

def sampleRaw : RawConfig where
  device := ⟨"Lab-Node_7", "Laboratory node"⟩
  mqtt := {
    host := "mqtt.example.test"
    port := 1883
    clientId := "rpi-health-pi"
    username := "rpi-health"
    passwordFile := "/etc/rpi-health-mqtt/mqtt-password"
    baseTopic := "building/monitor/Lab-Node_7"
    discoveryPrefix := defaultDiscoveryPrefix
    keepAliveSeconds := defaultKeepAlive }
  collector := RawCollector.default

theorem advertised_topics_agree_sample : ∃ config, sampleRaw.validate = .ok config ∧
    TopicsAgree (MqttSettings.new config.mqtt config.device.id)
      (discoverySettings config {}).document
      (discoveryMessage config {}) :=
  ⟨_, rfl, advertised_topics_agree sampleRaw _ {} rfl⟩

end RpiHealth
