import RpiHealth.Collector.Metadata
import RpiHealth.Discovery.Components
import RpiHealth.Mqtt.Settings

/-! The Discovery document and the message that carries it. -/
namespace RpiHealth
open Json

def ORIGIN_NAME : String := "rpi-health-mqtt"
def SOFTWARE_VERSION : String := "0.1.0"
def MANUFACTURER : String := "Raspberry Pi"
def ONLINE_PAYLOAD : String := "online"
def OFFLINE_PAYLOAD : String := "offline"
def MINIMUM_EXPIRE_AFTER_SECONDS : Nat := 90

structure DiscoverySettings where
  deviceId : String
  name : String
  baseTopic : String
  discoveryPrefix : String
  interval : Nat
  model : Option String := none
  serialNumber : Option String := none
  hardwareVersion : Option String := none
  deriving DecidableEq, Repr

def childTopic (baseTopic child : String) : String :=
  Text.trimEndMatches '/' baseTopic ++ "/" ++ child

namespace DiscoverySettings

def discoveryTopic (s : DiscoverySettings) : String :=
  Text.trimEndMatches '/' s.discoveryPrefix ++ "/device/" ++ s.deviceId ++ "/config"

def stateTopic (s : DiscoverySettings) : String := childTopic s.baseTopic "state"

def availabilityTopic (s : DiscoverySettings) : String := childTopic s.baseTopic "availability"

def expireAfterSeconds (s : DiscoverySettings) : Nat :=
  max (min (s.interval * 3) U64_MAX) MINIMUM_EXPIRE_AFTER_SECONDS

end DiscoverySettings

structure DeviceInfo where
  identifiers : List String
  name : String
  manufacturer : String
  swVersion : String
  model : Option String
  serialNumber : Option String
  hwVersion : Option String
  deriving DecidableEq, Repr

structure OriginInfo where
  name : String
  swVersion : String
  deriving DecidableEq, Repr

structure DiscoveryDocument where
  device : DeviceInfo
  origin : OriginInfo
  stateTopic : String
  availabilityTopic : String
  payloadAvailable : String
  payloadNotAvailable : String
  qos : Nat
  components : List (String × ComponentConfig)
  deriving DecidableEq, Repr

def DeviceInfo.toJson (d : DeviceInfo) : Value :=
  .object (
    [("identifiers", .array (d.identifiers.map .string)),
     ("name", .string d.name),
     ("manufacturer", .string d.manufacturer),
     ("sw_version", .string d.swVersion)] ++
    optional "model" (d.model.map .string) ++
    optional "serial_number" (d.serialNumber.map .string) ++
    optional "hw_version" (d.hwVersion.map .string))

def OriginInfo.toJson (o : OriginInfo) : Value :=
  .object [("name", .string o.name), ("sw_version", .string o.swVersion)]

def DiscoveryDocument.toJson (d : DiscoveryDocument) : Value :=
  .object
    [("device", d.device.toJson),
     ("origin", d.origin.toJson),
     ("state_topic", .string d.stateTopic),
     ("availability_topic", .string d.availabilityTopic),
     ("payload_available", .string d.payloadAvailable),
     ("payload_not_available", .string d.payloadNotAvailable),
     ("qos", natural d.qos),
     ("components", .object (d.components.map (fun c => (c.1, c.2.toJson))))]

/-- The components in the order of their keys. -/
def buildComponents (s : DiscoverySettings) : List (String × ComponentConfig) :=
  collect (COMPONENT_DEFINITIONS.map (fun d =>
    (d.key, d.toConfig s.deviceId (normalizeDeviceSlug s.deviceId) s.expireAfterSeconds)))

def DiscoverySettings.document (s : DiscoverySettings) : DiscoveryDocument where
  device := {
    identifiers := [s.deviceId]
    name := s.name
    manufacturer := MANUFACTURER
    swVersion := SOFTWARE_VERSION
    model := s.model
    serialNumber := s.serialNumber
    hwVersion := s.hardwareVersion }
  origin := ⟨ORIGIN_NAME, SOFTWARE_VERSION⟩
  stateTopic := s.stateTopic
  availabilityTopic := s.availabilityTopic
  payloadAvailable := ONLINE_PAYLOAD
  payloadNotAvailable := OFFLINE_PAYLOAD
  qos := 0
  components := buildComponents s

structure DiscoveryMessage where
  topic : String
  payload : String
  deriving DecidableEq, Repr

def buildDiscoveryMessage (s : DiscoverySettings) : DiscoveryMessage :=
  ⟨s.discoveryTopic, s.document.toJson.render⟩

def discoverySettings (config : Config) (metadata : DeviceMetadata) : DiscoverySettings where
  deviceId := config.device.id
  name := config.device.name
  baseTopic := config.mqtt.baseTopic
  discoveryPrefix := config.mqtt.discoveryPrefix
  interval := config.collector.interval
  model := metadata.model
  serialNumber := metadata.serialNumber
  hardwareVersion := metadata.boardRevision

def discoveryMessage (config : Config) (metadata : DeviceMetadata) : DiscoveryMessage :=
  buildDiscoveryMessage (discoverySettings config metadata)

end RpiHealth
