import RpiHealth.Config.Config
import RpiHealth.Mqtt.Bootstrap

/-! Publication settings and the client requests made from them. -/
namespace RpiHealth

def REQUEST_CHANNEL_CAPACITY : Nat := 16
def MAX_PACKET_BYTES : Nat := 64 * 1024
def MAX_INFLIGHT : Nat := 4

structure MqttSettings where
  host : String
  port : UInt16
  clientId : String
  keepAlive : Nat
  stateTopic : String
  availabilityTopic : String
  discoveryTopic : String
  deriving DecidableEq, Repr

def MqttSettings.new (config : MqttConfig) (deviceId : String) : MqttSettings where
  host := config.host
  port := config.port.1
  clientId := config.clientId
  keepAlive := config.keepAlive
  stateTopic := config.stateTopic
  availabilityTopic := config.availabilityTopic
  discoveryTopic := config.discoveryTopic deviceId

inductive QoS where
  | atMostOnce | atLeastOnce
  deriving DecidableEq, Repr

structure LastWill where
  topic : String
  message : String
  qos : QoS
  retain : Bool
  deriving DecidableEq, Repr

structure MqttOptions where
  clientId : String
  host : String
  port : UInt16
  cleanSession : Bool
  keepAlive : Nat
  credentials : String × String
  lastWill : LastWill
  maxPacketSize : Nat × Nat
  requestChannelCapacity : Nat
  inflight : Nat
  deriving DecidableEq, Repr

def MqttSettings.lastWill (s : MqttSettings) : LastWill :=
  ⟨s.availabilityTopic, "offline", .atLeastOnce, true⟩

def MqttSettings.options (s : MqttSettings) (credentials : MqttCredentials) : MqttOptions where
  clientId := s.clientId
  host := s.host
  port := s.port
  cleanSession := true
  keepAlive := s.keepAlive
  credentials := (credentials.username, credentials.password)
  lastWill := s.lastWill
  maxPacketSize := (MAX_PACKET_BYTES, MAX_PACKET_BYTES)
  requestChannelCapacity := REQUEST_CHANNEL_CAPACITY
  inflight := MAX_INFLIGHT

/-- A request on the client's channel. -/
inductive Request where
  | publish (topic : String) (qos : QoS) (retain : Bool) (payload : String)
  | disconnect
  deriving DecidableEq, Repr

/-- The request that the supervisor makes for an action. -/
def MqttSettings.request (s : MqttSettings) (discoveryPayload : String) (action : ProtocolAction)
    (statePayload : Option String) : Request :=
  match action with
  | .publishDiscovery => .publish s.discoveryTopic .atLeastOnce true discoveryPayload
  | .publishOnline => .publish s.availabilityTopic .atLeastOnce true "online"
  | .publishState => .publish s.stateTopic .atMostOnce false (statePayload.getD "")
  | .publishOffline => .publish s.availabilityTopic .atLeastOnce true "offline"
  | .disconnect => .disconnect

def Request.qos? : Request → Option QoS
  | .publish _ qos _ _ => some qos
  | .disconnect => none

end RpiHealth
