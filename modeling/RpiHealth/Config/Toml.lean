import RpiHealth.Config.Config
import RpiHealth.Library.Serde

/-! The configuration from its source: how it is read field by field, and what the
texts of its errors show of the source. -/
namespace RpiHealth
open Serde

/-- The TOML library: which texts are documents, and what it says of those that are not.
Whether a character is printable is a matter of the Unicode version in use. -/
structure Toml where
  Syntax : Type
  describe : Syntax → String
  read : String → Except (Syntax × Option Nat) Node
  printable : Char → Bool

/-! Records under construction. -/

structure DeviceFields where
  id : Option String := none
  name : Option String := none

structure MqttFields where
  host : Option String := none
  port : Option Nat := none
  clientId : Option String := none
  username : Option String := none
  passwordFile : Option String := none
  baseTopic : Option String := none
  discoveryPrefix : Option String := none
  keepAliveSeconds : Option Nat := none

structure CollectorFields where
  intervalSeconds : Option Nat := none
  rootFilesystem : Option String := none
  vcgencmdPath : Option String := none
  commandTimeoutSeconds : Option Nat := none

structure ConfigFields where
  device : Option RawDevice := none
  mqtt : Option RawMqtt := none
  collector : Option RawCollector := none

def textValue : Node → Except Error String := readString "a string"

def pathValue : Node → Except Error String := readString "path string"

def u16Value : Node → Except Error Nat := readUnsigned 16 "u16"

def u64Value : Node → Except Error Nat := readUnsigned 64 "u64"

def deviceFields : List (Serde.Field DeviceFields) :=
  [field "id" false DeviceFields.id (fun s v => { s with id := some v }) textValue,
    field "name" false DeviceFields.name (fun s v => { s with name := some v }) textValue]

def readDevice : Node → Except Error RawDevice :=
  readStruct "RawDevice" deviceFields {} (fun s => do
    let id ← required "id" s.id
    let name ← required "name" s.name
    return ⟨id, name⟩)

def mqttFields : List (Serde.Field MqttFields) :=
  [field "host" true MqttFields.host (fun s v => { s with host := some v }) textValue,
    field "port" true MqttFields.port (fun s v => { s with port := some v }) u16Value,
    field "client_id" false MqttFields.clientId
      (fun s v => { s with clientId := some v }) textValue,
    field "username" false MqttFields.username
      (fun s v => { s with username := some v }) textValue,
    field "password_file" false MqttFields.passwordFile
      (fun s v => { s with passwordFile := some v }) pathValue,
    field "base_topic" false MqttFields.baseTopic
      (fun s v => { s with baseTopic := some v }) textValue,
    field "discovery_prefix" true MqttFields.discoveryPrefix
      (fun s v => { s with discoveryPrefix := some v }) textValue,
    field "keep_alive_seconds" true MqttFields.keepAliveSeconds
      (fun s v => { s with keepAliveSeconds := some v }) u64Value]

def readMqtt : Node → Except Error RawMqtt :=
  readStruct "RawMqtt" mqttFields {} (fun s => do
    let clientId ← required "client_id" s.clientId
    let username ← required "username" s.username
    let passwordFile ← required "password_file" s.passwordFile
    let baseTopic ← required "base_topic" s.baseTopic
    return {
      host := s.host.getD defaultHost
      port := (s.port.map UInt16.ofNat).getD defaultPort
      clientId := clientId
      username := username
      passwordFile := passwordFile
      baseTopic := baseTopic
      discoveryPrefix := s.discoveryPrefix.getD defaultDiscoveryPrefix
      keepAliveSeconds := s.keepAliveSeconds.getD defaultKeepAlive })

def collectorFields : List (Serde.Field CollectorFields) :=
  [field "interval_seconds" true CollectorFields.intervalSeconds
      (fun s v => { s with intervalSeconds := some v }) u64Value,
    field "root_filesystem" true CollectorFields.rootFilesystem
      (fun s v => { s with rootFilesystem := some v }) pathValue,
    field "vcgencmd_path" true CollectorFields.vcgencmdPath
      (fun s v => { s with vcgencmdPath := some v }) pathValue,
    field "command_timeout_seconds" true CollectorFields.commandTimeoutSeconds
      (fun s v => { s with commandTimeoutSeconds := some v }) u64Value]

def readCollector : Node → Except Error RawCollector :=
  readStruct "RawCollector" collectorFields {} (fun s => .ok {
    intervalSeconds := s.intervalSeconds.getD defaultInterval
    rootFilesystem := s.rootFilesystem.getD defaultRoot
    vcgencmdPath := s.vcgencmdPath.getD defaultVcgencmd
    commandTimeoutSeconds := s.commandTimeoutSeconds.getD defaultCommandTimeout })

def configFields : List (Serde.Field ConfigFields) :=
  [field "device" false ConfigFields.device (fun s v => { s with device := some v }) readDevice,
    field "mqtt" false ConfigFields.mqtt (fun s v => { s with mqtt := some v }) readMqtt,
    field "collector" true ConfigFields.collector (fun s v => { s with collector := some v })
      readCollector]

def readConfig : Node → Except Error RawConfig :=
  readStruct "RawConfig" configFields {} (fun s => do
    let device ← required "device" s.device
    let mqtt ← required "mqtt" s.mqtt
    return ⟨device, mqtt, s.collector.getD RawCollector.default⟩)

/-- The library's message, and where the trouble starts. -/
def sanitizeTomlError (message : String) : Option Nat → String
  | some start => message ++ " at byte " ++ toString start
  | none => message

def Config.parse (toml : Toml) (source : String) : Except ConfigError Config :=
  if MAX_CONFIG_BYTES < Text.size source then .error .sourceTooLarge
  else
    match toml.read source with
    | .error (fault, start) => .error (.toml (sanitizeTomlError (toml.describe fault) start))
    | .ok node =>
      match readConfig node with
      | .error e => .error (.toml (sanitizeTomlError (e.kind.message toml.printable) e.start))
      | .ok raw => raw.validate

/-! Why a source is rejected, without what it says. -/

inductive Complaint where
  | wrongType (expected : String)
  | badValue (expected : String)
  | badLength (length : Nat) (expected : String)
  | unknownField (name : String) (known : List String)
  | missingField (name : String)
  | duplicateField (name : String)
  deriving DecidableEq, Repr

def complaint : Kind → Complaint
  | .wrongType _ expected => .wrongType expected
  | .badValue _ expected => .badValue expected
  | .badLength length expected => .badLength length expected
  | .unknownField name known => .unknownField name known
  | .missingField name => .missingField name
  | .duplicateField name => .duplicateField name

inductive Reason (F : Type) where
  | sourceTooLarge
  | malformed (fault : F) (start : Option Nat)
  | data (complaint : Complaint) (place : List Nat) (start : Option Nat)
  | rule (field reason : String)

def Config.rejection (toml : Toml) (source : String) : Option (Reason toml.Syntax) :=
  if MAX_CONFIG_BYTES < Text.size source then some .sourceTooLarge
  else
    match toml.read source with
    | .error (fault, start) => some (.malformed fault start)
    | .ok node =>
      match readConfig node with
      | .error e => some (.data (complaint e.kind) e.place e.start)
      | .ok raw =>
        match raw.validate with
        | .error (.invalidField field reason) => some (.rule field reason)
        | _ => none

def Toml.stringAt? (toml : Toml) (source : String) (place : List Nat) : Option String :=
  (toml.read source).toOption.bind (fun node => node.stringAt? place)

/-- The documents are the same but for the contents of texts of the same length. -/
def DifferInStrings (toml : Toml) (source other : String) : Prop :=
  ∀ n n', toml.read source = .ok n → toml.read other = .ok n' → n.masked = n'.masked

/-! Errors show what stands at their place. -/

theorem explains_device : Explains readDevice := by
  apply explains_struct
  · intro f member s
    simp only [deviceFields, List.mem_cons, List.not_mem_nil, or_false] at member
    rcases member with rfl | rfl
    · exact explains_field _ _ _ _ _ (explains_string _) s
    · exact explains_field _ _ _ _ _ (explains_string _) s
  · intro n s e refused
    apply explained_bind n _ _ (explained_required n _ _) _ e refused
    intro id e refused
    apply explained_bind n _ _ (explained_required n _ _) _ e refused
    intro name e refused
    cases refused

theorem explains_mqtt : Explains readMqtt := by
  apply explains_struct
  · intro f member s
    simp only [mqttFields, List.mem_cons, List.not_mem_nil, or_false] at member
    rcases member with rfl | rfl | rfl | rfl | rfl | rfl | rfl | rfl
    · exact explains_field _ _ _ _ _ (explains_string _) s
    · exact explains_field _ _ _ _ _ (explains_unsigned _ _) s
    · exact explains_field _ _ _ _ _ (explains_string _) s
    · exact explains_field _ _ _ _ _ (explains_string _) s
    · exact explains_field _ _ _ _ _ (explains_string _) s
    · exact explains_field _ _ _ _ _ (explains_string _) s
    · exact explains_field _ _ _ _ _ (explains_string _) s
    · exact explains_field _ _ _ _ _ (explains_unsigned _ _) s
  · intro n s e refused
    apply explained_bind n _ _ (explained_required n _ _) _ e refused
    intro clientId e refused
    apply explained_bind n _ _ (explained_required n _ _) _ e refused
    intro username e refused
    apply explained_bind n _ _ (explained_required n _ _) _ e refused
    intro passwordFile e refused
    apply explained_bind n _ _ (explained_required n _ _) _ e refused
    intro baseTopic e refused
    cases refused

theorem explains_collector : Explains readCollector := by
  apply explains_struct
  · intro f member s
    simp only [collectorFields, List.mem_cons, List.not_mem_nil, or_false] at member
    rcases member with rfl | rfl | rfl | rfl
    · exact explains_field _ _ _ _ _ (explains_unsigned _ _) s
    · exact explains_field _ _ _ _ _ (explains_string _) s
    · exact explains_field _ _ _ _ _ (explains_string _) s
    · exact explains_field _ _ _ _ _ (explains_unsigned _ _) s
  · intro n s e refused
    cases refused

theorem explains_config : Explains readConfig := by
  apply explains_struct
  · intro f member s
    simp only [configFields, List.mem_cons, List.not_mem_nil, or_false] at member
    rcases member with rfl | rfl | rfl
    · exact explains_field _ _ _ _ _ explains_device s
    · exact explains_field _ _ _ _ _ explains_mqtt s
    · exact explains_field _ _ _ _ _ explains_collector s
  · intro n s e refused
    apply explained_bind n _ _ (explained_required n _ _) _ e refused
    intro device e refused
    apply explained_bind n _ _ (explained_required n _ _) _ e refused
    intro mqtt e refused
    cases refused

/-! Validation names a field and the rule it breaks, and shows no value. -/

def NamesRule {A : Type} (outcome : Except ConfigError A) : Prop :=
  ∀ e, outcome = .error e → ∃ field reason, e = .invalidField field reason

theorem namesRule_check (passes : Bool) (field reason : String) :
    NamesRule (check passes field reason) := by
  intro e refused
  unfold check at refused
  split at refused
  · cases refused
  · exact ⟨field, reason, (Except.error.inj refused).symm⟩

theorem namesRule_port (value : UInt16) : NamesRule (validatePort value) := by
  intro e refused
  unfold validatePort at refused
  split at refused
  · cases refused
  · exact ⟨_, _, (Except.error.inj refused).symm⟩

theorem namesRule_bind {A B : Type} (first : Except ConfigError A) (next : A → Except ConfigError B)
    (start : NamesRule first) (later : ∀ a, NamesRule (next a)) : NamesRule (first >>= next) := by
  intro e refused
  cases first with
  | error inner =>
    have same : inner = e := Except.error.inj refused
    exact start e (congrArg Except.error same)
  | ok a => exact later a e refused

theorem namesRule_pure {A : Type} (a : A) : NamesRule (pure a) := by
  intro e refused
  cases refused

theorem validate_namesRule (raw : RawConfig) : NamesRule raw.validate := by
  unfold RawConfig.validate
  apply namesRule_bind _ _ (namesRule_check _ _ _)
  intro deviceId
  apply namesRule_bind _ _ (namesRule_check _ _ _)
  intro deviceName
  apply namesRule_bind _ _ (namesRule_check _ _ _)
  intro host
  apply namesRule_bind _ _ (namesRule_port _)
  intro port
  iterate 12
    apply namesRule_bind _ _ (namesRule_check _ _ _)
    intro passed
  exact namesRule_pure _

/-! What two rejections for the same reason show. -/

/-- Which error says what reason. -/
inductive Rejected (toml : Toml) (source : String) : Reason toml.Syntax → ConfigError → Prop where
  | sourceTooLarge : Rejected toml source .sourceTooLarge .sourceTooLarge
  | malformed (fault : toml.Syntax) (start : Option Nat) :
    Rejected toml source (.malformed fault start)
      (.toml (sanitizeTomlError (toml.describe fault) start))
  | data (node : Node) (d : Error) (read : toml.read source = .ok node)
      (refused : readConfig node = .error d) :
    Rejected toml source (.data (complaint d.kind) d.place d.start)
      (.toml (sanitizeTomlError (d.kind.message toml.printable) d.start))
  | rule (field reason : String) :
    Rejected toml source (.rule field reason) (.invalidField field reason)

theorem parse_rejected (toml : Toml) (source : String) (e : ConfigError)
    (rejected : Config.parse toml source = .error e) :
    ∃ reason, Config.rejection toml source = some reason ∧ Rejected toml source reason e := by
  unfold Config.parse at rejected
  unfold Config.rejection
  split at rejected
  · rename_i large
    obtain rfl := Except.error.inj rejected
    exact ⟨_, if_pos large, .sourceTooLarge⟩
  · rename_i fits
    rw [if_neg fits]
    split at rejected
    · rename_i fault start unread
      obtain rfl := Except.error.inj rejected
      exact ⟨_, rfl, .malformed fault start⟩
    · rename_i node read
      split at rejected
      · rename_i d refused
        obtain rfl := Except.error.inj rejected
        exact ⟨_, rfl, .data node d read refused⟩
      · rename_i raw accepted
        obtain ⟨field, reason, rfl⟩ := validate_namesRule raw e rejected
        simp only [rejected]
        exact ⟨_, rfl, .rule field reason⟩

/-- The error of a rejection whose reason is known. -/
theorem rejected_for (toml : Toml) (source : String) (e : ConfigError)
    (reason : Reason toml.Syntax) (rejected : Config.parse toml source = .error e)
    (why : Config.rejection toml source = some reason) : Rejected toml source reason e := by
  obtain ⟨found, is, shown⟩ := parse_rejected toml source e rejected
  rw [why] at is
  cases is
  exact shown

theorem sanitize_inj (message other : String) (start : Option Nat) :
    sanitizeTomlError message start = sanitizeTomlError other start ↔ message = other := by
  cases start with
  | none => exact Iff.rfl
  | some start => simp [sanitizeTomlError]

theorem append_expected (front d d' expected : String) :
    front ++ d ++ ", expected " ++ expected = front ++ d' ++ ", expected " ++ expected ↔ d = d' := by
  rw [String.append_left_inj, String.append_left_inj, String.append_right_inj]

theorem message_wrongType (printable : Char → Bool) (found : Unexpected) (expected : String) :
    (Kind.wrongType found expected).message printable =
      "invalid type: " ++ found.display printable ++ ", expected " ++ expected := rfl

theorem message_badValue (printable : Char → Bool) (n : Int) (expected : String) :
    (Kind.badValue n expected).message printable =
      "invalid value: " ++ (Unexpected.integer n).display printable ++ ", expected " ++
        expected := rfl

/-- Messages of the same complaint differ in what they show, and in nothing else. -/
theorem message_agrees_iff (printable : Char → Bool) (k k' : Kind)
    (same : complaint k = complaint k') : k.message printable = k'.message printable ↔
      k.found.map (Unexpected.display printable) = k'.found.map (Unexpected.display printable) := by
  cases k with
  | wrongType found expected =>
    cases k' with
    | wrongType found' expected' =>
      cases same
      rw [message_wrongType, message_wrongType, append_expected]
      simp [Kind.found]
    | _ => cases same
  | badValue n expected =>
    cases k' with
    | badValue n' expected' =>
      cases same
      rw [message_badValue, message_badValue, append_expected]
      simp [Kind.found]
    | _ => cases same
  | badLength length expected =>
    cases k' with
    | badLength length' expected' =>
      cases same
      exact iff_of_true rfl rfl
    | _ => cases same
  | unknownField name known =>
    cases k' with
    | unknownField name' known' =>
      cases same
      exact iff_of_true rfl rfl
    | _ => cases same
  | missingField name =>
    cases k' with
    | missingField name' =>
      cases same
      exact iff_of_true rfl rfl
    | _ => cases same
  | duplicateField name =>
    cases k' with
    | duplicateField name' =>
      cases same
      exact iff_of_true rfl rfl
    | _ => cases same

theorem found_isNone (k k' : Kind) (same : complaint k = complaint k') :
    k.found.isNone = k'.found.isNone := by
  cases k <;> cases k' <;> first | rfl | cases same

theorem mistyped_shows (k : Kind) (expected : String) (mistyped : complaint k = .wrongType expected) :
    ∃ found, k.found = some found := by
  cases k with
  | wrongType found expected => exact ⟨found, rfl⟩
  | _ => cases mistyped

/-- Two documents that differ in texts only do so at each place. -/
theorem masked_at (node node' m m' : Node) (place : List Nat)
    (masked : node.masked = node'.masked) (here : node.at? place = some m)
    (here' : node'.at? place = some m') : m.masked = m'.masked := by
  have below := congrArg (fun n => n.at? place) masked
  simpa only [at?_masked, here, here', Option.map_some, Option.some.injEq] using below

theorem shows_same_iff (printable : Char → Bool) (node node' m m' : Node) (place : List Nat)
    (masked : node.masked = node'.masked) (here : node.at? place = some m)
    (here' : node'.at? place = some m') :
    m.unexpected.display printable = m'.unexpected.display printable ↔
      node.stringAt? place = node'.stringAt? place := by
  have both := masked_at node node' m m' place masked here here'
  unfold Node.stringAt?
  rw [here, here']
  obtain ⟨start, s, start', t, rfl, rfl⟩ | ⟨other, other', same⟩ := unexpected_masked m m' both
  · simp only [Option.some.injEq]
    exact display_string_iff printable s t
  · apply iff_of_true
    · exact congrArg (Unexpected.display printable) same
    · cases m with
      | string start s => exact absurd rfl (other start s)
      | _ =>
        cases m' with
        | string start s => exact absurd rfl (other' start s)
        | _ => rfl

/-- Where an integer stands in one document, the other shows the same. -/
theorem integer_shows_same (printable : Char → Bool) (m m' : Node) (n : Int)
    (masked : m.masked = m'.masked) (integer : m.unexpected = .integer n) :
    m.unexpected.display printable = m'.unexpected.display printable := by
  obtain ⟨start, s, start', t, rfl, rfl⟩ | ⟨other, other', same⟩ := unexpected_masked m m' masked
  · cases integer
  · exact congrArg (Unexpected.display printable) same

/-- What two errors show of documents that differ in texts only. -/
theorem shown_agrees_iff (toml : Toml) (source other : String) (node node' : Node) (d d' : Error)
    (read : toml.read source = .ok node) (read' : toml.read other = .ok node')
    (explained : Explained node d) (explained' : Explained node' d')
    (masked : node.masked = node'.masked) (place : d.place = d'.place)
    (same : complaint d.kind = complaint d'.kind) :
    d.kind.found.map (Unexpected.display toml.printable) =
        d'.kind.found.map (Unexpected.display toml.printable) ↔
      ∀ expected, complaint d.kind = .wrongType expected →
        toml.stringAt? source d.place = toml.stringAt? other d.place := by
  have texts : toml.stringAt? source d.place = node.stringAt? d.place := by
    simp only [Toml.stringAt?, read, Except.toOption, Option.bind_some]
  have texts' : toml.stringAt? other d.place = node'.stringAt? d.place := by
    simp only [Toml.stringAt?, read', Except.toOption, Option.bind_some]
  rw [texts, texts']
  cases shows : d.kind.found with
  | none =>
    have shows' : d'.kind.found = none := by
      rw [← Option.isNone_iff_eq_none] at shows ⊢
      rw [← found_isNone d.kind d'.kind same]
      exact shows
    rw [shows']
    apply iff_of_true rfl
    intro expected mistyped
    obtain ⟨found, is⟩ := mistyped_shows d.kind expected mistyped
    rw [shows] at is
    cases is
  | some found =>
    obtain ⟨found', shows'⟩ : ∃ found', d'.kind.found = some found' := by
      apply Option.ne_none_iff_exists'.mp
      intro hides
      rw [← Option.isNone_iff_eq_none, ← found_isNone d.kind d'.kind same, shows] at hides
      cases hides
    obtain ⟨m, here, rfl⟩ := explained found shows
    obtain ⟨m', here', rfl⟩ := explained' found' shows'
    rw [← place] at here'
    have agree := shows_same_iff toml.printable node node' m m' d.place masked here here'
    rw [shows', Option.map_some, Option.map_some, Option.some.injEq, agree]
    constructor
    · intro texts expected mistyped
      exact texts
    · intro texts
      cases reported : d.kind with
      | wrongType found expected => exact texts expected (congrArg complaint reported)
      | badValue n expected =>
        rw [reported] at shows
        have integer : m.unexpected = .integer n := (Option.some.inj shows).symm
        apply agree.mp
        apply integer_shows_same toml.printable m m' n _ integer
        exact masked_at node node' m m' d.place masked here here'
      | _ => simp [reported, Kind.found] at shows

theorem display_sanitized_iff (message other : String) (start : Option Nat) :
    (ConfigError.toml (sanitizeTomlError message start)).display =
        (ConfigError.toml (sanitizeTomlError other start)).display ↔ message = other := by
  apply Iff.trans _ (sanitize_inj message other start)
  exact String.append_right_inj "invalid TOML: "

/-- Unless the data are at fault, the reason makes the error. -/
theorem same_reason_same_error (toml : Toml) (source other : String) (e e' : ConfigError)
    (reason : Reason toml.Syntax) (first : Rejected toml source reason e)
    (second : Rejected toml other reason e')
    (sound : ∀ fault place start, reason ≠ .data fault place start) : e = e' := by
  cases first with
  | sourceTooLarge =>
    cases second
    rfl
  | malformed fault start =>
    cases second
    rfl
  | data node d read refused => exact absurd rfl (sound _ _ _)
  | rule field reason =>
    cases second
    rfl

/-- A rejection for its data, with what was read and what was refused. -/
theorem rejected_data (toml : Toml) (source : String) (e : ConfigError) (fault : Complaint)
    (place : List Nat) (start : Option Nat)
    (rejected : Rejected toml source (.data fault place start) e) :
    ∃ node d, toml.read source = .ok node ∧ readConfig node = .error d ∧ complaint d.kind = fault ∧
      d.place = place ∧ e = .toml (sanitizeTomlError (d.kind.message toml.printable) start) := by
  cases rejected with
  | data node d read refused => exact ⟨node, d, read, refused, rfl, rfl, rfl⟩

/-- Sources that differ in texts only and are rejected for the same reason get the same
error, unless a text is refused for its type and is another one in the other source. -/
theorem error_texts_agree_iff (toml : Toml) (source other : String) (e e' : ConfigError)
    (reason : Reason toml.Syntax) (rejected : Config.parse toml source = .error e)
    (rejected' : Config.parse toml other = .error e')
    (first : Config.rejection toml source = some reason)
    (second : Config.rejection toml other = some reason)
    (differ : DifferInStrings toml source other) :
    e.display = e'.display ↔ ∀ expected place start,
      reason = .data (.wrongType expected) place start →
        toml.stringAt? source place = toml.stringAt? other place := by
  have shown := rejected_for toml source e reason rejected first
  have shown' := rejected_for toml other e' reason rejected' second
  cases reason with
  | data fault place start =>
    obtain ⟨node, d, read, refused, same, at_place, rfl⟩ :=
      rejected_data toml source e fault place start shown
    obtain ⟨node', d', read', refused', same', at_place', rfl⟩ :=
      rejected_data toml other e' fault place start shown'
    have complaints : complaint d.kind = complaint d'.kind := same.trans same'.symm
    have places : d.place = d'.place := at_place.trans at_place'.symm
    rw [display_sanitized_iff, message_agrees_iff toml.printable d.kind d'.kind complaints,
      shown_agrees_iff toml source other node node' d d' read read'
        (explains_config node d refused) (explains_config node' d' refused')
        (differ node node' read read') places complaints, same, at_place]
    constructor
    · intro texts expected place' start' is
      cases is
      exact texts expected rfl
    · intro texts expected is
      exact texts expected place start (congrArg (Reason.data · place start) is)
  | _ =>
    apply iff_of_true
    · apply congrArg ConfigError.display
      apply same_reason_same_error toml source other e e' _ shown shown'
      intro fault place start is
      cases is
    · intro expected place start is
      cases is

/-! A password in the place of a port. -/

def misplaced (secret : String) : Node :=
  .table 0 [("mqtt", 1, .table 0 [("port", 7, .string 14 secret)])]

def misplacedToml : Toml where
  Syntax := Unit
  describe _ := "string values must be quoted, expected literal string"
  read source :=
    if source = "[mqtt]\nport = \"secret-1\"\n" then .ok (misplaced "secret-1")
    else if source = "[mqtt]\nport = \"secret-2\"\n" then .ok (misplaced "secret-2")
    else .error ((), none)
  printable c := 32 ≤ c.toNat && c.toNat < 127

theorem misplaced_masked :
    DifferInStrings misplacedToml "[mqtt]\nport = \"secret-1\"\n" "[mqtt]\nport = \"secret-2\"\n" := by
  intro node node' read read'
  cases read
  cases read'
  rfl

theorem misplaced_texts_agree_iff :
    (ConfigError.toml "invalid type: string \"secret-1\", expected u16 at byte 14").display =
        (ConfigError.toml "invalid type: string \"secret-2\", expected u16 at byte 14").display ↔
      ∀ expected place start,
        Reason.data (.wrongType "u16") [0, 0] (some 14) =
            (.data (.wrongType expected) place start : Reason Unit) →
          misplacedToml.stringAt? "[mqtt]\nport = \"secret-1\"\n" place =
            misplacedToml.stringAt? "[mqtt]\nport = \"secret-2\"\n" place :=
  error_texts_agree_iff misplacedToml "[mqtt]\nport = \"secret-1\"\n"
    "[mqtt]\nport = \"secret-2\"\n" _ _ _ rfl rfl rfl rfl misplaced_masked

/-- The text of a mistyped value is shown. -/
theorem secret_shown :
    ¬ ∀ (toml : Toml) (source other : String) (e e' : ConfigError) (reason : Reason toml.Syntax),
      Config.parse toml source = .error e → Config.parse toml other = .error e' →
      Config.rejection toml source = some reason → Config.rejection toml other = some reason →
      DifferInStrings toml source other → e.display = e'.display := by
  intro agree
  have same := agree misplacedToml "[mqtt]\nport = \"secret-1\"\n"
    "[mqtt]\nport = \"secret-2\"\n" _ _ _ rfl rfl rfl rfl misplaced_masked
  revert same
  decide

end RpiHealth
