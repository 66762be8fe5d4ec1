import RpiHealth.Discovery.Size
import RpiHealth.Discovery.Topics
import RpiHealth.Library.Mqtt311

/-! The packets that a configuration leads to, against the limit that the client
is given for outgoing packets. -/
namespace RpiHealth
open Json Mqtt311

def QoS.number : QoS → UInt8
  | .atMostOnce => 0
  | .atLeastOnce => 1

def MqttOptions.connect (o : MqttOptions) : Connect where
  clientId := o.clientId
  keepAlive := o.keepAlive
  cleanSession := o.cleanSession
  willTopic := o.lastWill.topic
  willMessage := o.lastWill.message
  willQos := o.lastWill.qos.number
  willRetain := o.lastWill.retain
  username := o.credentials.1
  password := o.credentials.2

/-- The packet for a request under the identifier that the client assigns. -/
def Request.encode (id : PacketId) : Request → Bytes
  | .publish topic qos retain payload =>
    (Publish.mk topic qos.number retain id payload).encode
  | .disconnect => packet 0xE0 []

def connectPacket (config : Config) (credentials : MqttCredentials) : Bytes :=
  ((MqttSettings.new config.mqtt config.device.id).options credentials).connect.encode

def discoveryPacket (config : Config) (metadata : DeviceMetadata) (id : PacketId) : Bytes :=
  ((MqttSettings.new config.mqtt config.device.id).request
    (discoveryMessage config metadata).payload .publishDiscovery none).encode id

def Fits (bytes : Bytes) : Prop := bytes.length ≤ MAX_PACKET_BYTES

instance (bytes : Bytes) : Decidable (Fits bytes) :=
  inferInstanceAs (Decidable (bytes.length ≤ MAX_PACKET_BYTES))

theorem packet_fits_iff (header : UInt8) (body : Bytes) :
    Fits (packet header body) ↔ body.length ≤ 65532 := by
  unfold Fits MAX_PACKET_BYTES
  rw [packet_fits header body (64 * 1024) (by decide) (by decide)]
  omega

/-- A limit on the lengths of what goes into the two packets. -/
structure WithinPacketLimit (config : Config) (credentials : MqttCredentials)
    (metadata : DeviceMetadata) : Prop where
  connect : Text.size config.mqtt.clientId + Text.size config.mqtt.baseTopic +
    Text.size config.mqtt.username + Text.size credentials.password ≤ 65492
  discovery : Text.size config.mqtt.discoveryPrefix + 54 * Text.size config.device.id +
    escapedSize config.device.name + 2 * escapedSize config.mqtt.baseTopic +
    26 * Text.size (toString (max (config.collector.interval * 3) 90)) +
    optionalSize 5 metadata.model + optionalSize 13 metadata.serialNumber +
    optionalSize 10 metadata.boardRevision ≤ 54542

theorem load_username (config : MqttConfig) (file : CredentialFile)
    (credentials : MqttCredentials) (loaded : MqttCredentials.load config file = .ok credentials) :
    credentials.username = config.username := by
  simp only [MqttCredentials.load, bind, Except.bind, throw, throwThe, MonadExceptOf.throw, pure,
    Except.pure] at loaded
  repeat' split at loaded
  all_goals first
    | contradiction
    | (obtain rfl := Except.ok.inj loaded; rfl)

theorem connect_fits_iff (config : Config) (credentials : MqttCredentials)
    (username : credentials.username = config.mqtt.username) :
    Fits (connectPacket config credentials) ↔
      Text.size config.mqtt.clientId + Text.size config.mqtt.baseTopic +
        Text.size config.mqtt.username + Text.size credentials.password ≤ 65492 := by
  have offline : Text.size "offline" = 7 := by decide
  have availability : Text.size "/availability" = 13 := by decide
  rw [connectPacket, Connect.encode, packet_fits_iff, length_connect]
  simp only [MqttOptions.connect, MqttSettings.options, MqttSettings.lastWill, MqttSettings.new,
    MqttConfig.availabilityTopic, Text.size_append, offline, availability, username]
  omega

theorem discovery_fits_iff (config : Config) (metadata : DeviceMetadata) (id : PacketId)
    (valid : config.Valid) :
    Fits (discoveryPacket config metadata id) ↔
      Text.size config.mqtt.discoveryPrefix + 54 * Text.size config.device.id +
        escapedSize config.device.name + 2 * escapedSize config.mqtt.baseTopic +
        26 * Text.size (toString (max (config.collector.interval * 3) 90)) +
        optionalSize 5 metadata.model + optionalSize 13 metadata.serialNumber +
        optionalSize 10 metadata.boardRevision ≤ 54542 := by
  have levels : Text.size "/device/" = 8 ∧ Text.size "/config" = 7 ∧
      escapedSize "/state" = 6 ∧ escapedSize "/availability" = 13 := by decide
  have expiry : (discoverySettings config metadata).expireAfterSeconds =
      max (config.collector.interval * 3) 90 := by
    have interval := valid.interval
    simp only [DiscoverySettings.expireAfterSeconds, discoverySettings, U64_MAX,
      MINIMUM_EXPIRE_AFTER_SECONDS]
    omega
  have document := size_document (discoverySettings config metadata) valid.deviceId
  rw [stateTopic_agrees config metadata valid, availabilityTopic_agrees config metadata valid,
    expiry] at document
  have size : Text.size (discoveryMessage config metadata).payload =
      (discoverySettings config metadata).document.toJson.size := size_render _
  have acknowledged : QoS.atLeastOnce.number ≠ 0 := by decide
  rw [discoveryPacket, MqttSettings.request, Request.encode, Publish.encode, packet_fits_iff,
    length_publish _ acknowledged]
  simp only [size, document]
  simp only [MqttSettings.new, MqttConfig.discoveryTopic, MqttConfig.stateTopic,
    MqttConfig.availabilityTopic, Text.size_append, escapedSize_append, levels,
    discoverySettings]
  omega

/-- Both packets of an accepted configuration and credential fit exactly where the
lengths of its fields are within the limit. -/
theorem accepted_packets_fit (raw : RawConfig) (config : Config) (file : CredentialFile)
    (credentials : MqttCredentials) (metadata : DeviceMetadata) (id : PacketId)
    (accepted : raw.validate = .ok config)
    (loaded : MqttCredentials.load config.mqtt file = .ok credentials) :
    Fits (connectPacket config credentials) ∧ Fits (discoveryPacket config metadata id) ↔
      WithinPacketLimit config credentials metadata := by
  have valid := (validate_eq_ok raw config accepted).1
  have username := load_username config.mqtt file credentials loaded
  rw [connect_fits_iff config credentials username, discovery_fits_iff config metadata id valid]
  exact ⟨fun both => ⟨both.1, both.2⟩, fun within => ⟨within.connect, within.discovery⟩⟩

/-- A readable credential file that holds the password and nothing else. -/
def credentialFile (password : String) : CredentialFile where
  metadata := .ok ⟨true, Text.size password, 0o640⟩
  contents := .ok password.toUTF8

theorem stripLineEnding_unterminated (password : String)
    (unterminated : Text.endsWith '\n' password = false) : stripLineEnding password = password := by
  have last : ∀ rest, password.toList.reverse ≠ '\n' :: rest := by
    intro rest reversed
    have forward : password.toList = rest.reverse ++ ['\n'] := by
      rw [← List.reverse_reverse password.toList, reversed, List.reverse_cons]
    simp [Text.endsWith, forward] at unterminated
  unfold stripLineEnding
  split
  · rename_i rest reversed
    exact absurd reversed (last _)
  · rename_i rest _ reversed
    exact absurd reversed (last _)
  · rfl

theorem load_credentialFile (config : MqttConfig) (password : String) (nonempty : password ≠ "")
    (short : Text.size password ≤ 65535)
    (unterminated : Text.endsWith '\n' password = false) :
    MqttCredentials.load config (credentialFile password) =
      .ok ⟨config.username, password⟩ := by
  have decoded : String.fromUTF8? password.toByteArray = some password := by
    unfold String.fromUTF8?
    rw [dif_pos password.isValidUTF8]
    rfl
  have stripped := stripLineEnding_unterminated password unterminated
  have within : ¬ MAX_PASSWORD_BYTES < Text.size password := by
    unfold MAX_PASSWORD_BYTES
    omega
  have fits : ¬ 65535 < Text.size password := by omega
  simp [MqttCredentials.load, credentialFile, Except.mapError, validateSecretPermissions, decoded,
    stripped, nonempty, within, fits, bind, Except.bind, pure, Except.pure]

/-- A password of the greatest length that the loader accepts. -/
@[irreducible] def longestPassword : String := String.ofList (List.replicate 65535 'x')

theorem size_longestPassword : Text.size longestPassword = 65535 := by
  unfold longestPassword
  rw [Text.size_ofList, List.map_replicate, List.sum_replicate_nat]
  decide

theorem load_longestPassword (config : MqttConfig) :
    MqttCredentials.load config (credentialFile longestPassword) =
      .ok ⟨config.username, longestPassword⟩ := by
  have nonempty : longestPassword ≠ "" := by
    intro empty
    have size := size_longestPassword
    rw [empty] at size
    exact absurd size (by decide)
  have unterminated : Text.endsWith '\n' longestPassword = false := by
    unfold longestPassword
    rw [Text.endsWith, String.toList_ofList, List.getLast?_replicate, if_neg (by decide)]
    decide
  exact load_credentialFile config longestPassword nonempty (Nat.le_of_eq size_longestPassword)
    unterminated

theorem accepted_packets_exceed :
    ¬ ∀ (raw : RawConfig) (config : Config) (file : CredentialFile)
      (credentials : MqttCredentials) (metadata : DeviceMetadata) (id : PacketId),
      raw.validate = .ok config → MqttCredentials.load config.mqtt file = .ok credentials →
        Fits (connectPacket config credentials) ∧ Fits (discoveryPacket config metadata id) := by
  intro always
  obtain ⟨config, accepted⟩ : ∃ config, sampleRaw.validate = .ok config := ⟨_, rfl⟩
  have fits := (always sampleRaw config (credentialFile longestPassword)
    ⟨config.mqtt.username, longestPassword⟩ {} 1 accepted
    (load_longestPassword config.mqtt)).1
  rw [connect_fits_iff config _ rfl] at fits
  have size := size_longestPassword
  simp only [size] at fits
  omega

theorem accepted_packets_fit_sample : ∃ config credentials,
    sampleRaw.validate = .ok config ∧
    (Fits (connectPacket config credentials) ∧
      Fits (discoveryPacket config {} 1)) :=
  ⟨_, _, rfl, (accepted_packets_fit sampleRaw _ (credentialFile "secret") _ {} 1
    rfl (load_credentialFile _ "secret" (by decide) (by decide) (by decide))).mpr
    ⟨by decide +kernel, by decide +kernel⟩⟩

end RpiHealth
