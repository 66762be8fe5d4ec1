import RpiHealth.Mqtt.Broker

/-! The retained availability once a connection has ended. The invariant ties the
client's buffered acknowledgements to what the broker has handled. -/
namespace RpiHealth
open Machines

/-- The broker's side of a connection in use. -/
structure Delivered (settings : MqttSettings) (discoveryPayload : String) (c : List Obs)
    (b : Broker) (s : Session) : Prop where
  sent : transmitted c = s.handled ++ s.wire
  acks : ∀ a ∈ b.acks, a ∈ s.handled
  distinct : ((b.unacknowledged settings discoveryPayload s).map Prod.snd).Nodup
  offline : OfflineHandled s → b.retained settings.availabilityTopic = some "offline"

/-- What the supervisor has noticed, or will, of Offline being handled. An
acknowledgement that waits behind the sending of Offline is Offline's own. -/
structure Noticed (c : List Obs) (w : World) (handled : Prop) : Prop where
  awaiting : ∀ id, w.protocol.phase = .shutdownAwaitOfflineAck id → .ack id ∈ w.client.events →
    handled
  buffered : ∀ before r id after, w.client.events = before ++ .sent r id :: after →
    r.action = .publishOffline → .ack id ∈ after → handled
  closing : .disconnect ∈ actions c → handled

/-- A Disconnect on the wire is the last packet, and Offline was handled before. -/
def LastWords (settings : MqttSettings) (b : Broker) (s : Session) : Prop :=
  ∀ a ∈ s.wire, a.1.action = .disconnect →
    s.wire = [a] ∧ b.retained settings.availabilityTopic = some "offline"

def Settled (settings : MqttSettings) (b : Broker) : Prop :=
  b.retained settings.availabilityTopic = none ∨
    b.retained settings.availabilityTopic = some "offline"

/-- The broker accepted, and the supervisor has not answered the ConnAck yet. -/
def Fresh (w : World) (b : Broker) (s : Session) : Prop :=
  (w.control = .select ∧ w.client.up = false ∨ w.control = .connAcked) ∧
    s.wire = [] ∧ s.handled = [] ∧ b.acks = []

def InUse (w : World) : Prop :=
  w.client.up = true ∧ (w.control = .select ∨ w.control = .draining)

theorem inUse_place (c : List Obs) (w : World) (place : Place c w) (inUse : InUse w) :
    Tracked c w.client ∧
      PhaseAgrees c (w.client.unreported.map (·.action)) w.protocol.phase := by
  obtain ⟨up, control | control⟩ := inUse
  · obtain ⟨tracked, agrees, -, -⟩ := place_live c w place control up
    exact ⟨tracked, agrees⟩
  · obtain ⟨-, tracked, agrees, -⟩ := place_draining c w place control
    exact ⟨tracked, agrees⟩

/-- A session that the client still holds. -/
def Held (settings : MqttSettings) (discoveryPayload : String) (c : List Obs) (w : World)
    (b : Broker) (s : Session) : Prop :=
  Fresh w b s ∨
    InUse w ∧ Delivered settings discoveryPayload c b s ∧ Noticed c w (OfflineHandled s)

theorem held_inUse (settings : MqttSettings) (discoveryPayload : String) (c : List Obs) (w : World)
    (b : Broker) (s : Session) (held : Held settings discoveryPayload c w b s) (inUse : InUse w) :
    Delivered settings discoveryPayload c b s ∧ Noticed c w (OfflineHandled s) := by
  rcases held with ⟨waiting, -⟩ | ⟨-, delivered, noticed⟩
  · obtain ⟨up, usable⟩ := inUse
    rcases waiting with ⟨-, down⟩ | control
    · simp [up] at down
    · simp [control] at usable
  · exact ⟨delivered, noticed⟩

theorem held_fresh (settings : MqttSettings) (discoveryPayload : String) (c : List Obs) (w : World)
    (b : Broker) (s : Session) (held : Held settings discoveryPayload c w b s)
    (unused : ¬ InUse w) : Fresh w b s := by
  rcases held with fresh | ⟨inUse, -, -⟩
  · exact fresh
  · exact absurd inUse unused

def Tie (settings : MqttSettings) (discoveryPayload : String) (c : List Obs) (w : World)
    (b : Broker) : Prop :=
  match b.session with
  | none => Settled settings b
  | some s =>
    LastWords settings b s ∧ (s.attached = true → Held settings discoveryPayload c w b s)

theorem noticed_mono (c : List Obs) (w : World) (handled later : Prop) (grows : handled → later)
    (noticed : Noticed c w handled) : Noticed c w later where
  awaiting id phase member := grows (noticed.awaiting id phase member)
  buffered before r id after events made member :=
    grows (noticed.buffered before r id after events made member)
  closing requested := grows (noticed.closing requested)

/-- Before shutdown there is nothing to notice. -/
theorem noticed_running (c : List Obs) (w : World) (handled : Prop)
    (agrees : PhaseAgrees c (w.client.unreported.map (·.action)) w.protocol.phase)
    (running : w.protocol.phase.isShutdown = false) (tracked : Tracked c w.client) :
    Noticed c w handled := by
  have ordered := (phaseAgrees_bootstrap c _ _ agrees running).2
  have absent := fun action other => not_mem_of_bootstrapOrder (actions c) action ordered other
  refine ⟨?_, ?_, fun requested => absurd requested (absent _ (.inr rfl))⟩
  · intro id phase
    simp [phase, Phase.isShutdown] at running
  · intro before r id after events made
    have sent := tracked.sent r id (by simp [events])
    have member : r ∈ requests c := by
      rw [tracked.fifo]
      exact List.mem_append_left _ (List.mem_map.mpr ⟨(r, id), sent, rfl⟩)
    exact absurd (List.mem_map.mpr ⟨r, member, made⟩) (absent _ (.inl rfl))

/-- Events are returned from the front, and the machine follows them. -/
theorem noticed_next (c d : List Obs) (w v : World) (handled : Prop)
    (noticed : Noticed c w handled)
    (events : ∃ gone, w.client.events = gone ++ v.client.events)
    (awaits : ∀ id, v.protocol.phase = .shutdownAwaitOfflineAck id →
      w.protocol.phase = .shutdownAwaitOfflineAck id ∨
      ∃ r, r.action = .publishOffline ∧ w.client.events = .sent r id :: v.client.events)
    (asks : .disconnect ∈ actions d →
      ∃ id, w.protocol.phase = .shutdownAwaitOfflineAck id ∧ .ack id ∈ w.client.events) :
    Noticed (c ++ d) v handled := by
  obtain ⟨gone, split⟩ := events
  refine ⟨?_, ?_, ?_⟩
  · intro id phase member
    rcases awaits id phase with before | ⟨r, made, front⟩
    · exact noticed.awaiting id before (by simp [split, member])
    · exact noticed.buffered [] r id v.client.events front made member
  · intro before r id after rest made member
    exact noticed.buffered (gone ++ before) r id after (by simp [split, rest]) made member
  · intro requested
    rw [actions_append, List.mem_append] at requested
    rcases requested with earlier | now
    · exact noticed.closing earlier
    · obtain ⟨id, phase, member⟩ := asks now
      exact noticed.awaiting id phase member

/-- An event is buffered at the end. -/
theorem noticed_snoc (c d : List Obs) (w v : World) (b : Buffered) (handled : Prop)
    (noticed : Noticed c w handled) (events : v.client.events = w.client.events ++ [b])
    (protocol : v.protocol = w.protocol) (silent : actions d = [])
    (acks : ∀ id, b = .ack id → handled ∨ w.protocol.phase ≠ .shutdownAwaitOfflineAck id ∧
      ∀ r, r.action = .publishOffline → .sent r id ∉ w.client.events) :
    Noticed (c ++ d) v handled := by
  refine ⟨?_, ?_, ?_⟩
  · intro id phase member
    rw [protocol] at phase
    rw [events, List.mem_append, List.mem_singleton] at member
    rcases member with old | new
    · exact noticed.awaiting id phase old
    · rcases acks id new.symm with done | ⟨other, -⟩
      · exact done
      · exact absurd phase other
  · intro before r id after split made member
    rw [events] at split
    rcases List.eq_nil_or_concat after with rfl | ⟨front, last, rfl⟩
    · simp at member
    · have shift : w.client.events ++ [b] = (before ++ .sent r id :: front) ++ [last] := by
        simpa using split
      obtain ⟨old, last_eq⟩ := List.append_inj' shift rfl
      obtain rfl : b = last := (List.cons.inj last_eq).1
      rw [List.concat_eq_append, List.mem_append] at member
      rcases member with earlier | new
      · exact noticed.buffered before r id front old made earlier
      · rcases acks id (List.mem_singleton.mp new).symm with done | ⟨-, absent⟩
        · exact done
        · exact absurd (by simp [old]) (absent r made)
  · intro requested
    exact noticed.closing (by simpa [silent] using requested)

section

variable (settings : MqttSettings) (discoveryPayload : String)

theorem delivered_append (c d : List Obs) (b : Broker) (s : Session) (unsent : transmitted d = [])
    (delivered : Delivered settings discoveryPayload c b s) :
    Delivered settings discoveryPayload (c ++ d) b s where
  sent := by simpa [unsent] using delivered.sent
  acks := delivered.acks
  distinct := delivered.distinct
  offline := delivered.offline

/-- What was requested, split where the broker stands. -/
theorem actions_split (c : List Obs) (w : World) (b : Broker) (s : Session)
    (tracked : Tracked c w.client) (delivered : Delivered settings discoveryPayload c b s) :
    actions c = s.handled.map (·.1.action) ++ s.wire.map (·.1.action) ++
      w.client.queue.map (·.action) := by
  simp [actions, tracked.fifo, delivered.sent, Function.comp_def]

/-- Once Offline was handled, only a Disconnect is still to be sent or handled. -/
theorem after_handled (c : List Obs) (w : World) (b : Broker) (s : Session)
    (tracked : Tracked c w.client)
    (agrees : PhaseAgrees c (w.client.unreported.map (·.action)) w.protocol.phase)
    (delivered : Delivered settings discoveryPayload c b s) (offline : OfflineHandled s)
    (action : ProtocolAction) (later : List ProtocolAction)
    (rest : s.wire.map (·.1.action) ++ w.client.queue.map (·.action) = action :: later) :
    action = .disconnect ∧ later = [] := by
  obtain ⟨earlier, tail, ordered, all, shape⟩ := phaseAgrees_shape c _ _ agrees
  refine after_offline (actions c) earlier tail (s.handled.map (·.1.action)) later action ordered
    all shape ?_ ?_
  · rw [actions_split settings discoveryPayload c w b s tracked delivered, List.append_assoc, rest]
  · obtain ⟨a, member, made⟩ := offline
    exact List.mem_map.mpr ⟨a, member, made⟩

/-- Sending the next request on a connection that the broker still serves. -/
theorem transmit_held (c : List Obs) (w : World) (b : Broker) (s : Session) (r : Submission)
    (id : PacketId) (later : List Submission) (queue : w.client.queue = r :: later)
    (tracked : Tracked c w.client)
    (agrees : PhaseAgrees c (w.client.unreported.map (·.action)) w.protocol.phase)
    (delivered : Delivered settings discoveryPayload c b s)
    (noticed : Noticed c w (OfflineHandled s))
    (distinct : Broker.isAcknowledged settings discoveryPayload (r, id) = true →
      id ∉ (b.unacknowledged settings discoveryPayload s).map Prod.snd) :
    LastWords settings { b with session := some { s with wire := s.wire ++ [(r, id)] } }
        { s with wire := s.wire ++ [(r, id)] } ∧
      Delivered settings discoveryPayload (c ++ [.transmitted r id])
        { b with session := some { s with wire := s.wire ++ [(r, id)] } }
        { s with wire := s.wire ++ [(r, id)] } := by
  have closes : .disconnect ∈ actions c → b.retained settings.availabilityTopic = some "offline" ∧
      s.wire = [] := by
    intro requested
    have offline := noticed.closing requested
    refine ⟨delivered.offline offline, ?_⟩
    cases wire : s.wire with
    | nil => rfl
    | cons a rest =>
      have last := after_handled settings discoveryPayload c w b s tracked agrees delivered offline
        a.1.action (rest.map (·.1.action) ++ w.client.queue.map (·.action)) (by simp [wire])
      simp [queue] at last
  have whole := actions_split settings discoveryPayload c w b s tracked delivered
  constructor
  · intro a member made
    rcases List.mem_append.mp member with sent | now
    · have requested : .disconnect ∈ actions c := by
        rw [whole, ← made]
        simp only [List.mem_append]
        exact .inl (.inr (List.mem_map.mpr ⟨a, sent, rfl⟩))
      have empty := (closes requested).2
      simp [empty] at sent
    · obtain rfl := List.mem_singleton.mp now
      have requested : .disconnect ∈ actions c := by
        rw [whole, ← made]
        simp [queue]
      obtain ⟨offline, empty⟩ := closes requested
      exact ⟨by simp [empty], offline⟩
  · exact {
      sent := by simp [delivered.sent]
      acks := delivered.acks
      distinct := by
        simp only [Broker.unacknowledged, List.filter_append, List.map_append]
        cases acknowledged : Broker.isAcknowledged settings discoveryPayload (r, id) with
        | false =>
          simpa [acknowledged, Broker.unacknowledged] using delivered.distinct
        | true =>
          have fresh := distinct acknowledged
          have old := delivered.distinct
          simp only [Broker.unacknowledged, List.map_append] at fresh old
          simp only [List.filter_cons, acknowledged, if_true, List.filter_nil, List.map_cons,
            List.map_nil, ← List.append_assoc]
          refine List.nodup_append.mpr ⟨old, by simp, ?_⟩
          rintro a member _ last rfl
          obtain rfl := List.mem_singleton.mp last
          exact fresh member
      offline := delivered.offline }

/-- Reading a PubAck: it is Offline's only if Offline was handled. -/
theorem receive_held (c : List Obs) (w v : World) (b : Broker) (s : Session) (id : PacketId)
    (tracked : Tracked c w.client)
    (agrees : PhaseAgrees c (w.client.unreported.map (·.action)) w.protocol.phase)
    (delivered : Delivered settings discoveryPayload c b s)
    (noticed : Noticed c w (OfflineHandled s)) (arrived : id ∈ b.acks.map Prod.snd)
    (events : v.client.events = w.client.events ++ [.ack id]) (protocol : v.protocol = w.protocol) :
    Delivered settings discoveryPayload (c ++ [.received id])
        { b with acks := b.acks.filter (fun a => decide (a.2 ≠ id)) } s ∧
      Noticed (c ++ [.received id]) v (OfflineHandled s) := by
  -- what is still on the wire has another identifier
  have handled : ∀ r, r.action = .publishOffline → (r, id) ∈ transmitted c → OfflineHandled s := by
    intro r made sent
    rw [delivered.sent, List.mem_append] at sent
    rcases sent with done | waiting
    · exact ⟨(r, id), done, made⟩
    · have distinct := delivered.distinct
      simp only [Broker.unacknowledged, List.map_append] at distinct
      have acknowledged : Broker.isAcknowledged settings discoveryPayload (r, id) = true := by
        simp [Broker.isAcknowledged, Broker.packet, MqttSettings.request, made, Request.qos?]
      have onWire : id ∈ (s.wire.filter (Broker.isAcknowledged settings discoveryPayload)).map
          Prod.snd :=
        List.mem_map.mpr ⟨(r, id), List.mem_filter.mpr ⟨waiting, acknowledged⟩, rfl⟩
      exact absurd rfl ((List.nodup_append.mp distinct).2.2 id arrived id onWire)
  constructor
  · exact {
      sent := by simpa [transmission?] using delivered.sent
      acks := fun a member => delivered.acks a (List.mem_filter.mp member).1
      distinct := by
        refine List.Nodup.sublist (List.Sublist.map _ ?_) delivered.distinct
        exact List.Sublist.append List.filter_sublist (List.Sublist.refl _)
      offline := delivered.offline }
  · refine noticed_snoc c [.received id] w v (.ack id) _ noticed events protocol rfl ?_
    intro _ same
    obtain rfl := Buffered.ack.inj same
    by_cases done : OfflineHandled s
    · exact .inl done
    · refine .inr ⟨?_, ?_⟩
      · intro phase
        rw [phase] at agrees
        obtain ⟨-, -, r, sent, made⟩ := agrees
        exact done (handled r made sent)
      · intro r made member
        exact done (handled r made (tracked.sent r id member))

theorem packet_disconnect (sent : Sent)
    (stops : Broker.packet settings discoveryPayload sent = .disconnect) :
    sent.1.action = .disconnect := by
  cases made : sent.1.action <;>
    simp [Broker.packet, MqttSettings.request, made] at stops ⊢

/-- Handling a publish of a connection that the client still holds. -/
theorem handle_held (c : List Obs) (w : World) (b : Broker) (s : Session) (sent : Sent)
    (later : List Sent) (attached : s.attached = true) (wire : s.wire = sent :: later)
    (tracked : Tracked c w.client)
    (agrees : PhaseAgrees c (w.client.unreported.map (·.action)) w.protocol.phase)
    (delivered : Delivered settings discoveryPayload c b s) (topic : String) (qos : QoS)
    (retain : Bool) (payload : String)
    (publishes : Broker.packet settings discoveryPayload sent = .publish topic qos retain payload) :
    Delivered settings discoveryPayload c (b.handle settings discoveryPayload s sent later)
      { s with wire := later, handled := s.handled ++ [sent] } where
  sent := by simp [delivered.sent, wire]
  acks a member := by
    simp only [Broker.handle, publishes, attached] at member
    split at member
    · rcases List.mem_append.mp member with old | new
      · exact List.mem_append_left _ (delivered.acks a old)
      · exact List.mem_append_right _ new
    · exact List.mem_append_left _ (delivered.acks a member)
  distinct := by
    have distinct := delivered.distinct
    simp only [Broker.unacknowledged, wire] at distinct
    simp only [Broker.unacknowledged, Broker.handle, publishes, attached, and_true]
    have acknowledged : Broker.isAcknowledged settings discoveryPayload sent =
        decide (qos = .atLeastOnce) := by
      simp [Broker.isAcknowledged, publishes, Request.qos?]
    by_cases once : qos = .atLeastOnce
    · simpa [acknowledged, once] using distinct
    · simpa [acknowledged, once] using distinct
  offline := by
    rintro ⟨a, member, made⟩
    have published : sent.1.action ≠ .disconnect := by
      intro stops
      simp [Broker.packet, MqttSettings.request, stops] at publishes
    rcases List.mem_append.mp member with old | new
    · have last := after_handled settings discoveryPayload c w b s tracked agrees delivered
        ⟨a, old, made⟩ sent.1.action (later.map (·.1.action) ++ w.client.queue.map (·.action))
        (by simp [wire])
      exact absurd last.1 published
    · obtain rfl := List.mem_singleton.mp new
      obtain ⟨rfl, -, rfl, rfl⟩ : topic = settings.availabilityTopic ∧ qos = .atLeastOnce ∧
          retain = true ∧ payload = "offline" := by
        simpa [Broker.packet, MqttSettings.request, made, eq_comm] using publishes
      simp [Broker.handle, publishes]

theorem handle_tie (c : List Obs) (w : World) (b : Broker) (s : Session) (sent : Sent)
    (later : List Sent) (place : Place c w) (session : b.session = some s)
    (wire : s.wire = sent :: later) (tie : Tie settings discoveryPayload c w b) :
    Tie settings discoveryPayload c w (b.handle settings discoveryPayload s sent later) := by
  simp only [Tie, session] at tie
  obtain ⟨lastWords, held⟩ := tie
  cases packet : Broker.packet settings discoveryPayload sent with
  | disconnect =>
    have offline := (lastWords sent (by simp [wire])
      (packet_disconnect settings discoveryPayload sent packet)).2
    simp only [Tie, Broker.handle, packet]
    exact .inr offline
  | publish topic qos retain payload =>
    have next : (b.handle settings discoveryPayload s sent later).session =
        some { s with wire := later, handled := s.handled ++ [sent] } := by
      simp [Broker.handle, packet]
    have published : sent.1.action ≠ .disconnect := by
      intro stops
      simp [Broker.packet, MqttSettings.request, stops] at packet
    simp only [Tie, next]
    constructor
    · intro a member made
      obtain ⟨alone, -⟩ := lastWords a (by simp [wire, show a ∈ later from member]) made
      rw [wire] at alone
      obtain ⟨rfl, -⟩ := List.cons.inj alone
      exact absurd made published
    · intro attached
      rcases held attached with ⟨-, empty, -, -⟩ | ⟨inUse, delivered, noticed⟩
      · simp [wire] at empty
      · have agreed := inUse_place c w place inUse
        refine .inr ⟨inUse, handle_held settings discoveryPayload c w b s sent later attached wire
          agreed.1 agreed.2 delivered topic qos retain payload packet, ?_⟩
        refine noticed_mono c w _ _ ?_ noticed
        rintro ⟨a, member, made⟩
        exact ⟨a, List.mem_append_left _ member, made⟩

/-- The broker acts on its own. -/
theorem act_tie (c : List Obs) (w : World) (b b' : Broker) (k : BrokerInput)
    (emitted : List BrokerObs) (place : Place c w) (tie : Tie settings discoveryPayload c w b)
    (acted : b.act settings discoveryPayload settings.lastWill w k = some (emitted, b')) :
    Tie settings discoveryPayload c w b' := by
  cases k with
  | accept =>
    simp only [Broker.act] at acted
    split at acted
    · rename_i waiting
      obtain ⟨-, rfl⟩ : _ ∧ _ := by simpa using acted
      exact ⟨by simp [LastWords],
        fun _ => .inl ⟨.inl ⟨waiting.1, waiting.2.1⟩, rfl, rfl, rfl⟩⟩
    · contradiction
  | handle =>
    simp only [Broker.act] at acted
    split at acted
    · contradiction
    · rename_i s session
      split at acted
      · contradiction
      · rename_i sent later wire
        obtain ⟨-, rfl⟩ : _ ∧ _ := by simpa using acted
        exact handle_tie settings discoveryPayload c w b s sent later place session wire tie
  | finish =>
    simp only [Broker.act] at acted
    split at acted
    · contradiction
    · obtain ⟨-, rfl⟩ : _ ∧ _ := by simpa using acted
      exact .inr (by simp [MqttSettings.lastWill])

end

end RpiHealth
