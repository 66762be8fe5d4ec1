import Mathlib.Order.Basic

/-! The bootstrap machine: which publication a connection may request next. The
machine sees packet identifiers only; it never sees which publish they belong to. -/
namespace RpiHealth

/-- A name of its own: what holds of every identifier is not decided by trying all. -/
def PacketId : Type := UInt16
  deriving DecidableEq, Repr

instance (n : Nat) : OfNat PacketId n := inferInstanceAs (OfNat UInt16 n)

inductive Phase where
  | disconnected
  | discoveryQueued
  | discoveryAwaitAck (expected : PacketId)
  | onlineQueued
  | onlineAwaitAck (expected : PacketId)
  | awaitFreshState
  | stateQueued
  | online
  | shutdownAwaitOfflineOutgoing (skipQueuedPublish : Bool)
  | shutdownAwaitOfflineAck (expected : PacketId)
  | disconnectQueued
  | stopped
  deriving DecidableEq, Repr

inductive ProtocolAction where
  | publishDiscovery
  | publishOnline
  | publishState
  | publishOffline
  | disconnect
  deriving DecidableEq, Repr

structure BootstrapMachine where
  phase : Phase := .disconnected
  requiredRequest : Nat := 0
  lastStateRequest : Nat := 0
  bootstrapStateQueued : Bool := false
  becameOnline : Bool := false
  deriving DecidableEq, Repr

namespace BootstrapMachine

def connected (m : BootstrapMachine) (requiredRequest : Nat) : BootstrapMachine × ProtocolAction :=
  ({ m with
      requiredRequest := requiredRequest
      bootstrapStateQueued := false
      becameOnline := false
      phase := .discoveryQueued }, .publishDiscovery)

def outgoingPublish (m : BootstrapMachine) (packetId : PacketId) :
    BootstrapMachine × Option ProtocolAction :=
  match m.phase with
  | .discoveryQueued =>
    if packetId ≠ 0 then ({ m with phase := .discoveryAwaitAck packetId }, none) else (m, none)
  | .onlineQueued =>
    if packetId ≠ 0 then ({ m with phase := .onlineAwaitAck packetId }, none) else (m, none)
  | .stateQueued =>
    if packetId = 0 then
      ({ m with
          phase := .online
          becameOnline := m.bootstrapStateQueued
          bootstrapStateQueued := false }, none)
    else (m, none)
  | .shutdownAwaitOfflineOutgoing true =>
    ({ m with phase := .shutdownAwaitOfflineOutgoing false }, none)
  | .shutdownAwaitOfflineOutgoing false =>
    if packetId ≠ 0 then ({ m with phase := .shutdownAwaitOfflineAck packetId }, none)
    else (m, none)
  | _ => (m, none)

def publishAcknowledged (m : BootstrapMachine) (packetId : PacketId) :
    BootstrapMachine × Option ProtocolAction :=
  match m.phase with
  | .discoveryAwaitAck expected =>
    if expected = packetId then ({ m with phase := .onlineQueued }, some .publishOnline)
    else (m, none)
  | .onlineAwaitAck expected =>
    if expected = packetId then ({ m with phase := .awaitFreshState }, none) else (m, none)
  | .shutdownAwaitOfflineAck expected =>
    if expected = packetId then ({ m with phase := .disconnectQueued }, some .disconnect)
    else (m, none)
  | _ => (m, none)

def allowsState (m : BootstrapMachine) (requestId : Nat) : Bool :=
  match m.phase with
  | .awaitFreshState => decide (requestId ≥ m.requiredRequest)
  | .online => decide (requestId > m.lastStateRequest)
  | _ => false

def stateAvailable (m : BootstrapMachine) (requestId : Nat) :
    BootstrapMachine × Option ProtocolAction :=
  if m.allowsState requestId then
    ({ m with
        bootstrapStateQueued := decide (m.phase = .awaitFreshState)
        lastStateRequest := requestId
        becameOnline := false
        phase := .stateQueued }, some .publishState)
  else (m, none)

def shutdown (m : BootstrapMachine) : BootstrapMachine × Option ProtocolAction :=
  match m.phase with
  | .disconnected | .stopped => ({ m with phase := .stopped }, none)
  | .shutdownAwaitOfflineOutgoing _ | .shutdownAwaitOfflineAck _ | .disconnectQueued => (m, none)
  | .discoveryQueued | .onlineQueued | .stateQueued =>
    ({ m with phase := .shutdownAwaitOfflineOutgoing true }, some .publishOffline)
  | .discoveryAwaitAck _ | .onlineAwaitAck _ | .awaitFreshState | .online =>
    ({ m with phase := .shutdownAwaitOfflineOutgoing false }, some .publishOffline)

def disconnected (m : BootstrapMachine) : BootstrapMachine × Option ProtocolAction :=
  ({ m with phase := .stopped }, none)

def connectionLost (m : BootstrapMachine) : BootstrapMachine :=
  { m with phase := .disconnected, bootstrapStateQueued := false, becameOnline := false }

def acceptsState (m : BootstrapMachine) : Bool :=
  decide (m.phase = .awaitFreshState) || decide (m.phase = .online)

def isOnline (m : BootstrapMachine) : Bool := decide (m.phase = .online)

def justBecameOnline (m : BootstrapMachine) : BootstrapMachine × Bool :=
  ({ m with becameOnline := false }, m.becameOnline)

def isStopped (m : BootstrapMachine) : Bool := decide (m.phase = .stopped)

theorem outgoingPublish_cases (m : BootstrapMachine) (id : PacketId) :
    (m.outgoingPublish id).2 = none ∧
      (m.phase = .discoveryQueued ∧ id ≠ 0 ∧
          (m.outgoingPublish id).1 = { m with phase := .discoveryAwaitAck id } ∨
        m.phase = .onlineQueued ∧ id ≠ 0 ∧
          (m.outgoingPublish id).1 = { m with phase := .onlineAwaitAck id } ∨
        m.phase = .stateQueued ∧ id = 0 ∧
          (m.outgoingPublish id).1 = { m with
            phase := .online
            becameOnline := m.bootstrapStateQueued
            bootstrapStateQueued := false } ∨
        m.phase = .shutdownAwaitOfflineOutgoing true ∧
          (m.outgoingPublish id).1 = { m with phase := .shutdownAwaitOfflineOutgoing false } ∨
        m.phase = .shutdownAwaitOfflineOutgoing false ∧ id ≠ 0 ∧
          (m.outgoingPublish id).1 = { m with phase := .shutdownAwaitOfflineAck id } ∨
        (m.outgoingPublish id).1 = m) := by
  unfold outgoingPublish
  split <;> (try split) <;> simp_all

theorem publishAcknowledged_cases (m : BootstrapMachine) (id : PacketId) :
    m.phase = .discoveryAwaitAck id ∧
        m.publishAcknowledged id = ({ m with phase := .onlineQueued }, some .publishOnline) ∨
      m.phase = .onlineAwaitAck id ∧
        m.publishAcknowledged id = ({ m with phase := .awaitFreshState }, none) ∨
      m.phase = .shutdownAwaitOfflineAck id ∧
        m.publishAcknowledged id = ({ m with phase := .disconnectQueued }, some .disconnect) ∨
      m.publishAcknowledged id = (m, none) := by
  unfold publishAcknowledged
  split <;> (try split) <;> simp_all

theorem stateAvailable_cases (m : BootstrapMachine) (requestId : Nat) :
    ((m.phase = .awaitFreshState ∧ m.requiredRequest ≤ requestId ∨
        m.phase = .online ∧ m.lastStateRequest < requestId) ∧
      m.stateAvailable requestId = ({ m with
        bootstrapStateQueued := decide (m.phase = .awaitFreshState)
        lastStateRequest := requestId
        becameOnline := false
        phase := .stateQueued }, some .publishState)) ∨
      (m.phase = .awaitFreshState → requestId < m.requiredRequest) ∧
        (m.phase = .online → requestId ≤ m.lastStateRequest) ∧
        m.stateAvailable requestId = (m, none) := by
  cases allowed : m.allowsState requestId with
  | true =>
    refine .inl ⟨?_, by simp [stateAvailable, allowed]⟩
    unfold allowsState at allowed
    split at allowed <;> simp_all
  | false =>
    refine .inr ⟨?_, ?_, by simp [stateAvailable, allowed]⟩ <;>
      intro listens <;> simpa [allowsState, listens] using allowed

end BootstrapMachine

end RpiHealth
