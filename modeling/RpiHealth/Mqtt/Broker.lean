import RpiHealth.Mqtt.Shutdown

/-! The broker beside the supervisor: it handles what the client sent in order,
acknowledges QoS 1, keeps retained messages, and publishes the last will of a
session that ends without a Disconnect. -/
namespace RpiHealth
open Machines

abbrev Sent := Submission × PacketId

/-- A session and its end of the network: what the client sent and the broker has
not handled yet, and what it has handled. -/
structure Session where
  attached : Bool
  wire : List Sent
  handled : List Sent
  deriving DecidableEq, Repr

structure Broker where
  retained : String → Option String := fun _ => none
  session : Option Session := none
  /-- PubAcks on their way to the client. -/
  acks : List Sent := []

inductive BrokerInput where
  /-- A CONNECT of the client takes effect. -/
  | accept
  /-- The next packet is handled. -/
  | handle
  /-- The session ends without a Disconnect. -/
  | finish
  deriving DecidableEq, Repr

inductive BrokerObs where
  | accepted
  | handled (sent : Sent)
  | finished
  deriving DecidableEq, Repr

namespace Broker

variable (settings : MqttSettings) (discoveryPayload : String)

def packet (sent : Sent) : Request :=
  settings.request discoveryPayload sent.1.action (sent.1.message.map (·.payload))

def isAcknowledged (sent : Sent) : Bool :=
  decide ((packet settings discoveryPayload sent).qos? = some .atLeastOnce)

/-- The publishes that the client has no acknowledgement for. -/
def unacknowledged (b : Broker) (s : Session) : List Sent :=
  b.acks ++ s.wire.filter (isAcknowledged settings discoveryPayload)

/-- The client's end of the network is gone. -/
def detach (b : Broker) : Broker :=
  { b with session := b.session.map (fun s => { s with attached := false }), acks := [] }

def receivePacket (b : Broker) (sent : Sent) : Option Broker :=
  match b.session with
  | none => some b
  | some s =>
    if s.attached = false then some b
    else if isAcknowledged settings discoveryPayload sent = true ∧
        sent.2 ∈ (b.unacknowledged settings discoveryPayload s).map Prod.snd then none
    else some { b with session := some { s with wire := s.wire ++ [sent] } }

def hear (b : Broker) : Obs → Option Broker
  | .connAck code =>
    let attached := b.session.any (·.attached)
    if attached = decide (code = .success) then some b else none
  | .transmitted r id => b.receivePacket settings discoveryPayload (r, id)
  | .received id =>
    if id ∈ b.acks.map Prod.snd then
      some { b with acks := b.acks.filter (fun a => decide (a.2 ≠ id)) }
    else none
  | .lost | .returned _ => some b.detach
  | _ => some b

def handle (b : Broker) (s : Session) (sent : Sent) (later : List Sent) : Broker :=
  match packet settings discoveryPayload sent with
  | .disconnect => { b with session := none }
  | .publish topic qos retain payload =>
    { retained := if retain then Function.update b.retained topic (some payload) else b.retained
      session := some { s with wire := later, handled := s.handled ++ [sent] }
      acks := if qos = .atLeastOnce ∧ s.attached then b.acks ++ [sent] else b.acks }

def act (will : LastWill) (w : World) (b : Broker) : BrokerInput → Option (List BrokerObs × Broker)
  | .accept =>
    if w.control = .select ∧ w.client.up = false ∧ b.session = none then
      some ([.accepted], { b with session := some ⟨true, [], []⟩, acks := [] })
    else none
  | .handle =>
    match b.session with
    | none => none
    | some s =>
      match s.wire with
      | [] => none
      | sent :: later =>
        some ([.handled sent], b.handle settings discoveryPayload s sent later)
  | .finish =>
    match b.session with
    | none => none
    | some _ =>
      some ([.finished],
        { b with
          retained := if will.retain then
              Function.update b.retained will.topic (some will.message) else b.retained
          session := none })

end Broker

/-- The broker that a supervisor with these settings and this will talks to. -/
def broker (settings : MqttSettings) (discoveryPayload : String) (will : LastWill) :
    Partner World Obs Broker BrokerInput BrokerObs where
  initial := {}
  hear := Broker.hear settings discoveryPayload
  act := Broker.act settings discoveryPayload will

/-- Neither the network nor the broker takes notice. -/
def Obs.isDeaf : Obs → Bool
  | .connAck _ | .transmitted _ _ | .received _ | .lost | .returned _ => false
  | _ => true

section

variable (settings : MqttSettings) (discoveryPayload : String) (will : LastWill)

theorem hearAll_append (b : Broker) (first second : List Obs) :
    (broker settings discoveryPayload will).hearAll b (first ++ second) =
      ((broker settings discoveryPayload will).hearAll b first).bind
        (fun heard => (broker settings discoveryPayload will).hearAll heard second) := by
  induction first generalizing b with
  | nil => rfl
  | cons o rest ih => simp [Partner.hearAll, ih, Option.bind_assoc]

theorem hearAll_one (b : Broker) (o : Obs) :
    (broker settings discoveryPayload will).hearAll b [o] = b.hear settings discoveryPayload o := by
  simp [Partner.hearAll, broker]

theorem receivePacket_attached (b : Broker) (s : Session) (sent : Sent)
    (session : b.session = some s) (attached : s.attached = true) :
    b.receivePacket settings discoveryPayload sent =
      if Broker.isAcknowledged settings discoveryPayload sent = true ∧
          sent.2 ∈ (b.unacknowledged settings discoveryPayload s).map Prod.snd then none
      else some { b with session := some { s with wire := s.wire ++ [sent] } } := by
  simp only [Broker.receivePacket, session]
  rw [if_neg (by simp [attached])]

theorem hearAll_deaf (b : Broker) (emitted : List Obs) (deaf : ∀ o ∈ emitted, o.isDeaf = true) :
    (broker settings discoveryPayload will).hearAll b emitted = some b := by
  induction emitted with
  | nil => rfl
  | cons o rest ih =>
    have later := ih (fun a member => deaf a (by simp [member]))
    have first : (broker settings discoveryPayload will).hear b o = some b := by
      have quiet := deaf o (by simp)
      cases o <;> simp_all [Obs.isDeaf, broker, Broker.hear]
    simp [Partner.hearAll, first, later]

end

/-- After Offline nothing but Disconnect is requested. -/
theorem after_offline (as earlier tail before later : List ProtocolAction)
    (action : ProtocolAction) (ordered : BootstrapOrder earlier) (all : as = earlier ++ tail)
    (shape : tail = [] ∨ tail = [.publishOffline] ∨ tail = [.publishOffline, .disconnect])
    (split : as = before ++ action :: later) (offline : .publishOffline ∈ before) :
    action = .disconnect ∧ later = [] := by
  have none := not_mem_of_bootstrapOrder earlier .publishOffline ordered (.inl rfl)
  obtain ⟨front, rear, rfl⟩ := List.append_of_mem offline
  rw [all, List.append_assoc, List.cons_append] at split
  rcases shape with rfl | rfl | rfl
  · have member : .publishOffline ∈ earlier := by
      rw [List.append_nil] at split
      simp [split]
    exact absurd member none
  · have last := ((List.append_cons_inj_of_notMem none (by simp)).mp split).2.2
    simp at last
  · have last := ((List.append_cons_inj_of_notMem none (by simp)).mp split).2.2
    cases rear with
    | nil => simpa [eq_comm] using last
    | cons a rear => simp at last

def OfflineHandled (s : Session) : Prop := ∃ a ∈ s.handled, a.1.action = .publishOffline

end RpiHealth
