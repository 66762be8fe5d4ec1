import RpiHealth.Library.Text

/-! Strict service configuration: the raw TOML fields, their validation, the
validated records and the credential file. Durations are whole seconds. -/
namespace RpiHealth

def U64_MAX : Nat := 2 ^ 64 - 1
def MAX_CONFIG_BYTES : Nat := 65536
def MAX_PASSWORD_BYTES : Nat := 65536

structure DeviceConfig where
  id : String
  name : String
  deriving DecidableEq, Repr

structure MqttConfig where
  host : String
  port : { port : UInt16 // port ≠ 0 }
  clientId : String
  username : String
  passwordFile : String
  baseTopic : String
  discoveryPrefix : String
  keepAlive : Nat
  deriving DecidableEq

def MqttConfig.stateTopic (c : MqttConfig) : String := c.baseTopic ++ "/state"

def MqttConfig.availabilityTopic (c : MqttConfig) : String := c.baseTopic ++ "/availability"

def MqttConfig.discoveryTopic (c : MqttConfig) (deviceId : String) : String :=
  c.discoveryPrefix ++ "/device/" ++ deviceId ++ "/config"

structure CollectorConfig where
  interval : Nat
  rootFilesystem : String
  vcgencmdPath : String
  commandTimeout : Nat
  deriving DecidableEq, Repr

structure Config where
  device : DeviceConfig
  mqtt : MqttConfig
  collector : CollectorConfig
  deriving DecidableEq

inductive IoErrorKind where
  | notFound | invalidData | unsupported | other
  deriving DecidableEq, Repr

structure IoError where
  kind : IoErrorKind
  text : String
  deriving DecidableEq, Repr

inductive ConfigError where
  | read (path : String) (source : IoError)
  | notAFile (path : String)
  | tooLarge (path : String)
  | sourceTooLarge
  | toml (message : String)
  | invalidField (field reason : String)
  | credentialRead (path : String) (source : IoError)
  | credentialNotAFile (path : String)
  | credentialTooLarge (path : String)
  | credentialEncoding (path : String)
  | credentialEmpty (path : String)
  | credentialTooLong (path : String)
  | credentialPermissions (path : String)
  deriving DecidableEq, Repr

/-- The text of the error as it is shown to an operator. -/
def ConfigError.display : ConfigError → String
  | .read path source => "cannot read configuration file " ++ path ++ ": " ++ source.text
  | .notAFile path => "configuration path is not a regular file: " ++ path
  | .tooLarge path => "configuration file exceeds 64 KiB: " ++ path
  | .sourceTooLarge => "configuration source exceeds 64 KiB"
  | .toml message => "invalid TOML: " ++ message
  | .invalidField field reason => "invalid " ++ field ++ ": " ++ reason
  | .credentialRead path source => "cannot read credential file " ++ path ++ ": " ++ source.text
  | .credentialNotAFile path => "credential path is not a regular file: " ++ path
  | .credentialTooLarge path => "credential file exceeds 64 KiB: " ++ path
  | .credentialEncoding path => "credential file is not valid UTF-8: " ++ path
  | .credentialEmpty path => "credential file is empty: " ++ path
  | .credentialTooLong path =>
    "credential exceeds the MQTT 65535-byte UTF-8 field limit: " ++ path
  | .credentialPermissions path => "credential file permissions are too broad: " ++ path

structure RawDevice where
  id : String
  name : String
  deriving DecidableEq, Repr

structure RawMqtt where
  host : String
  port : UInt16
  clientId : String
  username : String
  passwordFile : String
  baseTopic : String
  discoveryPrefix : String
  keepAliveSeconds : Nat
  deriving DecidableEq, Repr

structure RawCollector where
  intervalSeconds : Nat
  rootFilesystem : String
  vcgencmdPath : String
  commandTimeoutSeconds : Nat
  deriving DecidableEq, Repr

structure RawConfig where
  device : RawDevice
  mqtt : RawMqtt
  collector : RawCollector
  deriving DecidableEq, Repr

def defaultHost : String := "127.0.0.1"
def defaultPort : UInt16 := 1883
def defaultDiscoveryPrefix : String := "homeassistant"
def defaultKeepAlive : Nat := 30
def defaultInterval : Nat := 30
def defaultRoot : String := "/"
def defaultVcgencmd : String := "/usr/bin/vcgencmd"
def defaultCommandTimeout : Nat := 2

def RawCollector.default : RawCollector :=
  ⟨defaultInterval, defaultRoot, defaultVcgencmd, defaultCommandTimeout⟩

/-- A check that passes, or names the field and the rule it breaks. -/
def check (passes : Bool) (field reason : String) : Except ConfigError Unit :=
  if passes then .ok () else .error (.invalidField field reason)

def validIdentifier (value : String) (maximum : Nat) (punctuation : List Char) : Bool :=
  !value.isEmpty && decide (Text.size value ≤ maximum) &&
    value.toList.all (fun c => Text.isAsciiAlphanumeric c || punctuation.contains c)

def validateIdentifier (field value : String) (maximum : Nat) (punctuation : List Char) :
    Except ConfigError Unit :=
  check (validIdentifier value maximum punctuation) field
    "contains unsupported characters or has an invalid length"

def validText (value : String) (maximum : Nat) : Bool :=
  !value.isEmpty && decide (Text.size value ≤ maximum) && decide (Text.trim value = value) &&
    !value.toList.any Text.isControl

def validateText (field value : String) (maximum : Nat) : Except ConfigError Unit :=
  check (validText value maximum) field
    "must be non-empty, trimmed, and free of control characters"

def validHost (value : String) : Bool :=
  !value.isEmpty && decide (Text.size value ≤ 253) && !value.toList.any Text.isWhitespace &&
    !value.toList.any Text.isControl &&
    !value.toList.any (fun c => c == '/' || c == '@' || c == '?' || c == '#') &&
    !Text.contains "://" value

def validateHost (value : String) : Except ConfigError Unit :=
  check (validHost value) "mqtt.host"
    "must be a host name or address without credentials or a URI scheme"

def validTopic (value : String) : Bool :=
  !value.isEmpty && decide (Text.size value ≤ 65535) && decide (Text.trim value = value) &&
    !Text.startsWith '/' value && !Text.endsWith '/' value && !Text.contains "//" value &&
    !value.toList.any (fun c => c == '+' || c == '#') && !value.toList.any Text.isControl

def validateTopic (field value : String) : Except ConfigError Unit :=
  check (validTopic value) field
    "must be a concrete MQTT topic without empty levels or wildcards"

def validateSeconds (field : String) (value minimum maximum : Nat) : Except ConfigError Unit :=
  check (decide (minimum ≤ value) && decide (value ≤ maximum)) field
    "is outside the allowed range"

def validateAbsolute (field value : String) : Except ConfigError Unit :=
  check (Text.startsWith '/' value) field "must be an absolute path"

def validatePort (value : UInt16) : Except ConfigError { port : UInt16 // port ≠ 0 } :=
  if nonzero : value ≠ 0 then .ok ⟨value, nonzero⟩
  else .error (.invalidField "mqtt.port" "must be between 1 and 65535")

def RawConfig.derivedTopics (raw : RawConfig) : List String :=
  [raw.mqtt.baseTopic ++ "/state",
   raw.mqtt.baseTopic ++ "/availability",
   raw.mqtt.discoveryPrefix ++ "/device/" ++ raw.device.id ++ "/config"]

def RawConfig.validate (raw : RawConfig) : Except ConfigError Config := do
  validateIdentifier "device.id" raw.device.id 64 ['_', '-']
  validateText "device.name" raw.device.name 128
  validateHost raw.mqtt.host
  let port ← validatePort raw.mqtt.port
  validateIdentifier "mqtt.client_id" raw.mqtt.clientId 128 ['.', '_', '-']
  validateText "mqtt.username" raw.mqtt.username 256
  validateAbsolute "mqtt.password_file" raw.mqtt.passwordFile
  validateTopic "mqtt.base_topic" raw.mqtt.baseTopic
  validateTopic "mqtt.discovery_prefix" raw.mqtt.discoveryPrefix
  validateSeconds "mqtt.keep_alive_seconds" raw.mqtt.keepAliveSeconds 5 3600
  validateSeconds "collector.interval_seconds" raw.collector.intervalSeconds 5 86400
  validateSeconds "collector.command_timeout_seconds" raw.collector.commandTimeoutSeconds 1 30
  check (decide (raw.collector.commandTimeoutSeconds < raw.collector.intervalSeconds))
    "collector.command_timeout_seconds" "must be shorter than collector.interval_seconds"
  validateAbsolute "collector.root_filesystem" raw.collector.rootFilesystem
  validateAbsolute "collector.vcgencmd_path" raw.collector.vcgencmdPath
  check (raw.derivedTopics.all (fun topic => decide (Text.size topic ≤ 65535)))
    "mqtt topics" "a derived topic exceeds 65535 bytes"
  return {
    device := ⟨raw.device.id, raw.device.name⟩
    mqtt := {
      host := raw.mqtt.host
      port := port
      clientId := raw.mqtt.clientId
      username := raw.mqtt.username
      passwordFile := raw.mqtt.passwordFile
      baseTopic := raw.mqtt.baseTopic
      discoveryPrefix := raw.mqtt.discoveryPrefix
      keepAlive := raw.mqtt.keepAliveSeconds }
    collector := {
      interval := raw.collector.intervalSeconds
      rootFilesystem := raw.collector.rootFilesystem
      vcgencmdPath := raw.collector.vcgencmdPath
      commandTimeout := raw.collector.commandTimeoutSeconds } }

/-- What validation guarantees of the record it returns. -/
structure Config.Valid (c : Config) : Prop where
  deviceId : validIdentifier c.device.id 64 ['_', '-'] = true
  deviceName : validText c.device.name 128 = true
  clientId : validIdentifier c.mqtt.clientId 128 ['.', '_', '-'] = true
  username : validText c.mqtt.username 256 = true
  baseTopic : validTopic c.mqtt.baseTopic = true
  discoveryPrefix : validTopic c.mqtt.discoveryPrefix = true
  keepAlive : 5 ≤ c.mqtt.keepAlive ∧ c.mqtt.keepAlive ≤ 3600
  interval : 5 ≤ c.collector.interval ∧ c.collector.interval ≤ 86400
  stateTopic : Text.size c.mqtt.stateTopic ≤ 65535
  availabilityTopic : Text.size c.mqtt.availabilityTopic ≤ 65535
  discoveryTopic : Text.size (c.mqtt.discoveryTopic c.device.id) ≤ 65535

theorem check_bind {α : Type} (passes : Bool) (field reason : String)
    (next : Except ConfigError α) (a : α) :
    (check passes field reason >>= fun _ => next) = .ok a ↔ passes = true ∧ next = .ok a := by
  cases passes <;> simp [check, bind, Except.bind]

theorem validatePort_bind {α : Type} (value : UInt16)
    (next : { port : UInt16 // port ≠ 0 } → Except ConfigError α) (a : α) :
    (validatePort value >>= next) = .ok a ↔ ∃ nonzero, next ⟨value, nonzero⟩ = .ok a := by
  unfold validatePort
  by_cases nonzero : value ≠ 0 <;> simp [nonzero, bind, Except.bind]

/-- Accepted raw configurations, spelled out: every check passes and the fields
are taken over unchanged. -/
theorem validate_eq_ok (raw : RawConfig) (c : Config) (accepted : raw.validate = .ok c) :
    c.Valid ∧ c.device = ⟨raw.device.id, raw.device.name⟩ ∧
      c.mqtt.baseTopic = raw.mqtt.baseTopic ∧ c.mqtt.discoveryPrefix = raw.mqtt.discoveryPrefix := by
  simp only [RawConfig.validate, validateIdentifier, validateText, validateHost, validateAbsolute,
    validateTopic, validateSeconds, check_bind, validatePort_bind, RawConfig.derivedTopics,
    List.all_cons, List.all_nil, Bool.and_eq_true, decide_eq_true_eq, pure, Except.pure,
    Except.ok.injEq] at accepted
  obtain ⟨id, name, -, -, client, user, -, base, pre, keep, interval, -, -, -, -, topics, rfl⟩ :=
    accepted
  exact ⟨⟨id, name, client, user, base, pre, keep, interval, topics.1, topics.2.1, topics.2.2.1⟩,
    rfl, rfl, rfl⟩

/-! The credential file. -/

structure Metadata where
  isFile : Bool
  length : Nat
  mode : Nat
  deriving Repr

/-- The two file-system calls the loader makes on its path. -/
structure CredentialFile where
  metadata : Except IoError Metadata
  contents : Except IoError ByteArray

structure MqttCredentials where
  username : String
  password : String
  deriving DecidableEq

def validateSecretPermissions (path : String) (metadata : Metadata) : Except ConfigError Unit :=
  if metadata.mode &&& 0o027 ≠ 0 then .error (.credentialPermissions path) else .ok ()

/-- One final CRLF goes, or else one final LF. -/
def stripLineEnding (password : String) : String :=
  match password.toList.reverse with
  | '\n' :: '\r' :: rest => String.ofList rest.reverse
  | '\n' :: rest => String.ofList rest.reverse
  | _ => password

def MqttCredentials.load (config : MqttConfig) (file : CredentialFile) :
    Except ConfigError MqttCredentials := do
  let path := config.passwordFile
  let metadata ← file.metadata.mapError (.credentialRead path)
  if !metadata.isFile then throw (.credentialNotAFile path)
  if metadata.length > MAX_PASSWORD_BYTES then throw (.credentialTooLarge path)
  validateSecretPermissions path metadata
  let bytes ← file.contents.mapError (.credentialRead path)
  match String.fromUTF8? bytes with
  | none => throw (.credentialEncoding path)
  | some text =>
    let password := stripLineEnding text
    if password.isEmpty then throw (.credentialEmpty path)
    if Text.size password > 65535 then throw (.credentialTooLong path)
    return ⟨config.username, password⟩

end RpiHealth
