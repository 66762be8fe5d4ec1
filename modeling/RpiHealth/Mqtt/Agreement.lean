import RpiHealth.Mqtt.Trace

/-! What each phase of the bootstrap machine says about its connection: what was
requested, what was acknowledged, and which requests are unreported, that is, in
the channel or sent with their event still waiting to be returned. -/
namespace RpiHealth
open Machines

/-- The whole bootstrap has happened on this connection. -/
def Bootstrapped (c : List Obs) : Prop :=
  (∃ states, actions c = bootstrapSequence (states + 1)) ∧
    Acknowledged .publishDiscovery c ∧ Acknowledged .publishOnline c ∧
    requests c = (transmitted c).map Prod.fst

/-- What must have happened on the connection before an observation. -/
def InOrder (c : List Obs) : Obs → Prop
  | .requested ⟨.publishDiscovery, _⟩ => actions c = []
  | .requested ⟨.publishOnline, _⟩ =>
    actions c = [.publishDiscovery] ∧ Acknowledged .publishDiscovery c
  | .requested ⟨.publishState, _⟩ =>
    (∃ states, actions c = bootstrapSequence states) ∧ Acknowledged .publishDiscovery c ∧
      Acknowledged .publishOnline c ∧ requests c = (transmitted c).map Prod.fst
  | .requested ⟨.publishOffline, _⟩ => HasShutdown c
  | .requested ⟨.disconnect, _⟩ => HasShutdown c ∧ Acknowledged .publishOffline c
  | .reported .online => Bootstrapped c
  | _ => True

def Buffered.request? : Buffered → Option Submission
  | .sent r _ => some r
  | _ => none

def Client.unreported (client : Client) : List Submission :=
  client.events.filterMap Buffered.request? ++ client.queue

theorem unreported_pop (client : Client) (b : Buffered) (rest : List Buffered)
    (events : client.events = b :: rest) :
    client.unreported =
      b.request?.toList ++ ({ client with events := rest } : Client).unreported := by
  cases h : b.request? <;> simp [Client.unreported, events, h]

def SentAs (action : ProtocolAction) (id : PacketId) (c : List Obs) : Prop :=
  ∃ r, (r, id) ∈ transmitted c ∧ r.action = action

/-- Offline was requested on top of a bootstrap that had begun. -/
def Closing (c : List Obs) : Prop :=
  HasShutdown c ∧ ∃ earlier, earlier ≠ [] ∧ BootstrapOrder earlier ∧
    actions c = earlier ++ [.publishOffline]

/-- The phase tells what was requested and which request is unreported. -/
def PhaseAgrees (c : List Obs) (pending : List ProtocolAction) : Phase → Prop
  | .disconnected | .stopped => False
  | .discoveryQueued => pending = [.publishDiscovery] ∧ actions c = [.publishDiscovery]
  | .discoveryAwaitAck id =>
    pending = [] ∧ actions c = [.publishDiscovery] ∧ SentAs .publishDiscovery id c
  | .onlineQueued =>
    pending = [.publishOnline] ∧ actions c = bootstrapSequence 0 ∧
      Acknowledged .publishDiscovery c
  | .onlineAwaitAck id =>
    pending = [] ∧ actions c = bootstrapSequence 0 ∧ Acknowledged .publishDiscovery c ∧
      SentAs .publishOnline id c
  | .awaitFreshState =>
    pending = [] ∧ actions c = bootstrapSequence 0 ∧ Acknowledged .publishDiscovery c ∧
      Acknowledged .publishOnline c
  | .stateQueued =>
    pending = [.publishState] ∧ (∃ states, actions c = bootstrapSequence (states + 1)) ∧
      Acknowledged .publishDiscovery c ∧ Acknowledged .publishOnline c
  | .online =>
    pending = [] ∧ (∃ states, actions c = bootstrapSequence (states + 1)) ∧
      Acknowledged .publishDiscovery c ∧ Acknowledged .publishOnline c
  | .shutdownAwaitOfflineOutgoing true =>
    (∃ queued, queued ≠ .disconnect ∧ pending = [queued, .publishOffline]) ∧ Closing c
  | .shutdownAwaitOfflineOutgoing false => pending = [.publishOffline] ∧ Closing c
  | .shutdownAwaitOfflineAck id => pending = [] ∧ Closing c ∧ SentAs .publishOffline id c
  | .disconnectQueued =>
    pending = [.disconnect] ∧ Acknowledged .publishOffline c ∧ HasShutdown c ∧
      ∃ earlier, BootstrapOrder earlier ∧ actions c = earlier ++ [.publishOffline, .disconnect]

def Phase.isShutdown : Phase → Bool
  | .shutdownAwaitOfflineOutgoing _ | .shutdownAwaitOfflineAck _ | .disconnectQueued => true
  | _ => false

namespace BootstrapMachine

theorem reaction_isShutdown (m : BootstrapMachine) (event : Event)
    (running : event ≠ .outgoing .disconnect) :
    (m.reaction event).1.phase.isShutdown = m.phase.isShutdown := by
  cases event with
  | incoming packet =>
    cases packet with
    | pubAck id =>
      rcases m.publishAcknowledged_cases id with
        ⟨phase, taken⟩ | ⟨phase, taken⟩ | ⟨phase, taken⟩ | taken <;>
        simp_all [reaction, Phase.isShutdown]
    | _ => rfl
  | outgoing packet =>
    cases packet with
    | publish id =>
      obtain ⟨-, ⟨phase, -, taken⟩ | ⟨phase, -, taken⟩ | ⟨phase, -, taken⟩ | ⟨phase, taken⟩ |
        ⟨phase, -, taken⟩ | taken⟩ := m.outgoingPublish_cases id <;>
        simp_all [reaction, Phase.isShutdown]
    | disconnect => exact absurd rfl running
    | other => rfl

/-- The machine becomes online only where it is online. -/
theorem reaction_becameOnline (m : BootstrapMachine) (event : Event)
    (settled : m.becameOnline = false) (became : (m.reaction event).1.becameOnline = true) :
    (m.reaction event).1.phase = .online := by
  cases event with
  | incoming packet =>
    cases packet with
    | pubAck id =>
      rcases m.publishAcknowledged_cases id with
        ⟨phase, taken⟩ | ⟨phase, taken⟩ | ⟨phase, taken⟩ | taken <;> simp_all [reaction]
    | _ => simp [reaction, settled] at became
  | outgoing packet =>
    cases packet with
    | publish id =>
      obtain ⟨-, ⟨phase, -, taken⟩ | ⟨phase, -, taken⟩ | ⟨phase, -, taken⟩ | ⟨phase, taken⟩ |
        ⟨phase, -, taken⟩ | taken⟩ := m.outgoingPublish_cases id <;> simp_all [reaction]
    | disconnect => simp [reaction, disconnected, settled] at became
    | other => simp [reaction, settled] at became

theorem stateAvailable_isShutdown (m : BootstrapMachine) (requestId : Nat) :
    (m.stateAvailable requestId).1.phase.isShutdown = m.phase.isShutdown := by
  rcases m.stateAvailable_cases requestId with ⟨listens, taken⟩ | ⟨-, -, taken⟩
  · rcases listens with ⟨phase, -⟩ | ⟨phase, -⟩ <;> simp [taken, phase, Phase.isShutdown]
  · rw [taken]

theorem stateAvailable_becameOnline (m : BootstrapMachine) (requestId : Nat)
    (settled : m.becameOnline = false) : (m.stateAvailable requestId).1.becameOnline = false := by
  rcases m.stateAvailable_cases requestId with ⟨-, taken⟩ | ⟨-, -, taken⟩ <;> simp [taken, settled]

end BootstrapMachine

namespace World

theorem publishCurrentState_isShutdown (w : World) :
    w.publishCurrentState.world.protocol.phase.isShutdown = w.protocol.phase.isShutdown := by
  rw [publishCurrentState_protocol]
  split
  · rfl
  · exact BootstrapMachine.stateAvailable_isShutdown _ _

theorem publishCurrentState_becameOnline (w : World) (settled : w.protocol.becameOnline = false) :
    w.publishCurrentState.world.protocol.becameOnline = false := by
  rw [publishCurrentState_protocol]
  split
  · exact settled
  · exact BootstrapMachine.stateAvailable_becameOnline _ _ settled

theorem finishTurn_isShutdown (w : World) :
    w.finishTurn.world.protocol.phase.isShutdown = w.protocol.phase.isShutdown := by
  simp only [finishTurn]
  split
  · exact publishCurrentState_isShutdown _
  · split <;> rfl

theorem finishTurn_becameOnline (w : World) :
    w.finishTurn.world.protocol.becameOnline = false := by
  simp only [finishTurn]
  split
  · exact publishCurrentState_becameOnline _ rfl
  · split <;> rfl

end World

/-- The client's requests and events, against what was seen on the connection. -/
structure Tracked (c : List Obs) (client : Client) : Prop where
  fifo : requests c = (transmitted c).map Prod.fst ++ client.queue
  sent : ∀ r id, .sent r id ∈ client.events → (r, id) ∈ transmitted c
  ids : ∀ r id, .sent r id ∈ client.events → r.action ≠ .disconnect →
    (id = 0 ↔ r.action = .publishState)
  /-- Leftover events are returned before anything of this connection is reported. -/
  leftover : ∀ e, .stale e ∈ client.events → client.unreported = requests c

/-- What a transition of the machine and the request it asks for must meet. -/
def Reacts (c : List Obs) (pending : List ProtocolAction) (message : Option StateMessage)
    (reaction : BootstrapMachine × Option ProtocolAction) : Prop :=
  match reaction.2 with
  | none => PhaseAgrees c pending reaction.1.phase
  | some action =>
    InOrder c (.requested ⟨action, message⟩) ∧
      PhaseAgrees (c ++ [.requested ⟨action, message⟩]) (pending ++ [action]) reaction.1.phase

theorem sentAs_append (action : ProtocolAction) (id : PacketId) (c d : List Obs)
    (sent : SentAs action id c) : SentAs action id (c ++ d) := by
  obtain ⟨r, member, made⟩ := sent
  exact ⟨r, by simp [member], made⟩

theorem hasShutdown_append (c d : List Obs) (closed : HasShutdown c) : HasShutdown (c ++ d) := by
  obtain ⟨phase, member⟩ := closed
  exact ⟨phase, by simp [member]⟩

/-- Observations that request nothing leave the agreement as it is. -/
theorem phaseAgrees_append (c d : List Obs) (pending : List ProtocolAction) (phase : Phase)
    (quiet : actions d = []) (agrees : PhaseAgrees c pending phase) :
    PhaseAgrees (c ++ d) pending phase := by
  have kept : actions (c ++ d) = actions c := by simp [quiet]
  have acked := fun action => acknowledged_append action c d
  have sent := fun action id => sentAs_append action id c d
  have closed := hasShutdown_append c d
  cases phase with
  | disconnected => exact agrees
  | stopped => exact agrees
  | shutdownAwaitOfflineOutgoing skip =>
    cases skip <;> simp only [PhaseAgrees, Closing, kept] at agrees ⊢ <;> tauto
  | _ => simp only [PhaseAgrees, Closing, kept] at agrees ⊢; tauto

/-- Before shutdown the requests form a bootstrap that has begun. -/
theorem phaseAgrees_bootstrap (c : List Obs) (pending : List ProtocolAction) (phase : Phase)
    (agrees : PhaseAgrees c pending phase) (running : phase.isShutdown = false) :
    actions c ≠ [] ∧ BootstrapOrder (actions c) := by
  have first : BootstrapOrder [.publishDiscovery] := ⟨0, by simp [bootstrapSequence]⟩
  cases phase with
  | disconnected | stopped => exact agrees.elim
  | shutdownAwaitOfflineOutgoing _ | shutdownAwaitOfflineAck _ | disconnectQueued =>
    simp [Phase.isShutdown] at running
  | discoveryQueued =>
    rw [agrees.2]
    exact ⟨by simp, first⟩
  | discoveryAwaitAck _ =>
    rw [agrees.2.1]
    exact ⟨by simp, first⟩
  | onlineQueued | onlineAwaitAck _ | awaitFreshState =>
    rw [agrees.2.1]
    exact ⟨by simp [bootstrapSequence], bootstrapOrder_states 0⟩
  | stateQueued | online =>
    obtain ⟨-, ⟨states, all⟩, -⟩ := agrees
    rw [all]
    exact ⟨by simp [bootstrapSequence], bootstrapOrder_states _⟩

/-- In any phase the requests are a bootstrap and what shutdown adds to it. -/
theorem phaseAgrees_shape (c : List Obs) (pending : List ProtocolAction) (phase : Phase)
    (agrees : PhaseAgrees c pending phase) :
    ∃ earlier tail, BootstrapOrder earlier ∧ actions c = earlier ++ tail ∧
      (tail = [] ∨ tail = [.publishOffline] ∨ tail = [.publishOffline, .disconnect]) := by
  cases running : phase.isShutdown with
  | false =>
    exact ⟨actions c, [], (phaseAgrees_bootstrap c pending phase agrees running).2, by simp,
      .inl rfl⟩
  | true =>
    cases phase with
    | shutdownAwaitOfflineOutgoing skip =>
      cases skip <;> obtain ⟨-, -, earlier, -, ordered, all⟩ := agrees <;>
        exact ⟨earlier, _, ordered, all, .inr (.inl rfl)⟩
    | shutdownAwaitOfflineAck id =>
      obtain ⟨-, ⟨-, earlier, -, ordered, all⟩, -⟩ := agrees
      exact ⟨earlier, _, ordered, all, .inr (.inl rfl)⟩
    | disconnectQueued =>
      obtain ⟨-, -, -, earlier, ordered, all⟩ := agrees
      exact ⟨earlier, _, ordered, all, .inr (.inr rfl)⟩
    | _ => simp [Phase.isShutdown] at running

/-- Where nothing was reported yet, the phase is one of two. -/
theorem phaseAgrees_unreported (c : List Obs) (phase : Phase)
    (agrees : PhaseAgrees c (actions c) phase) :
    phase = .discoveryQueued ∨ phase = .shutdownAwaitOfflineOutgoing true := by
  cases phase with
  | discoveryQueued => exact .inl rfl
  | shutdownAwaitOfflineOutgoing skip =>
    cases skip with
    | true => exact .inr rfl
    | false =>
      obtain ⟨all, -, earlier, begun, -, closing⟩ := agrees
      rw [all] at closing
      exact absurd (by simpa using closing) begun
  | disconnectQueued =>
    obtain ⟨all, -, -, earlier, -, closing⟩ := agrees
    have last := congrArg List.length (all.symm.trans closing)
    simp at last
  | shutdownAwaitOfflineAck _ =>
    obtain ⟨all, ⟨-, earlier, -, -, closing⟩, -⟩ := agrees
    simp [all] at closing
  | stateQueued | online =>
    obtain ⟨all, ⟨states, begun⟩, -⟩ := agrees
    simp [all, bootstrapSequence] at begun
  | discoveryAwaitAck _ | onlineQueued | onlineAwaitAck _ | awaitFreshState =>
    obtain ⟨all, begun, -⟩ := agrees
    simp [all, bootstrapSequence] at begun
  | disconnected | stopped => exact agrees.elim

theorem unreported_length (c : List Obs) (client : Client) (phase : Phase)
    (agrees : PhaseAgrees c (client.unreported.map (·.action)) phase) :
    client.unreported.length ≤ 2 := by
  have lengths : client.unreported.length = (client.unreported.map (·.action)).length := by simp
  rw [lengths]
  generalize client.unreported.map (·.action) = pending at agrees ⊢
  cases phase with
  | disconnected | stopped => exact agrees.elim
  | shutdownAwaitOfflineOutgoing skip =>
    cases skip with
    | true => obtain ⟨⟨queued, -, rfl⟩, -⟩ := agrees; simp
    | false => simp [agrees.1]
  | _ => simp [agrees.1]

theorem outgoingPublish_reacts (m : BootstrapMachine) (c : List Obs) (r : Submission)
    (id : PacketId) (later : List ProtocolAction)
    (agrees : PhaseAgrees c (r.action :: later) m.phase) (sent : (r, id) ∈ transmitted c)
    (published : r.action ≠ .disconnect) (ids : id = 0 ↔ r.action = .publishState) :
    Reacts c later none (m.outgoingPublish id) := by
  have sentAs : SentAs r.action id c := ⟨r, sent, rfl⟩
  rcases hm : m with ⟨phase, required, last, queued, became⟩
  subst hm
  cases phase with
  | discoveryQueued =>
    obtain ⟨pending, all⟩ := agrees
    obtain ⟨made, rfl⟩ := List.cons.inj pending
    have nonzero : id ≠ 0 := fun zero => by simp [ids.mp zero] at made
    simpa [Reacts, BootstrapMachine.outgoingPublish, nonzero] using ⟨rfl, all, made ▸ sentAs⟩
  | onlineQueued =>
    obtain ⟨pending, all, acked⟩ := agrees
    obtain ⟨made, rfl⟩ := List.cons.inj pending
    have nonzero : id ≠ 0 := fun zero => by simp [ids.mp zero] at made
    simpa [Reacts, BootstrapMachine.outgoingPublish, nonzero] using ⟨rfl, all, acked, made ▸ sentAs⟩
  | stateQueued =>
    obtain ⟨pending, all, acked⟩ := agrees
    obtain ⟨made, rfl⟩ := List.cons.inj pending
    simpa [Reacts, BootstrapMachine.outgoingPublish, ids.mpr made] using ⟨rfl, all, acked⟩
  | shutdownAwaitOfflineOutgoing skip =>
    cases skip with
    | true =>
      obtain ⟨⟨other, -, pending⟩, closing⟩ := agrees
      obtain ⟨-, rfl⟩ := List.cons.inj pending
      simpa [Reacts, BootstrapMachine.outgoingPublish] using ⟨rfl, closing⟩
    | false =>
      obtain ⟨pending, closing⟩ := agrees
      obtain ⟨made, rfl⟩ := List.cons.inj pending
      have nonzero : id ≠ 0 := fun zero => by simp [ids.mp zero] at made
      simpa [Reacts, BootstrapMachine.outgoingPublish, nonzero] using
        ⟨rfl, closing, made ▸ sentAs⟩
  | disconnectQueued => exact absurd (List.cons.inj agrees.1).1 published
  | disconnected | stopped => exact agrees.elim
  | discoveryAwaitAck _ | onlineAwaitAck _ | awaitFreshState | online
  | shutdownAwaitOfflineAck _ => simp [PhaseAgrees] at agrees

theorem publishAcknowledged_reacts (m : BootstrapMachine) (c : List Obs)
    (pending : List ProtocolAction) (b : Buffered) (id : PacketId)
    (agrees : PhaseAgrees c pending m.phase) (acks : b.event = .incoming (.pubAck id)) :
    Reacts (c ++ [.polled b]) pending none (m.publishAcknowledged id) := by
  have still := phaseAgrees_append c [.polled b] pending m.phase rfl agrees
  have acked : ∀ action, SentAs action id c → Acknowledged action (c ++ [.polled b]) := by
    rintro action ⟨r, sent, rfl⟩
    exact acknowledged_polled r id b c sent acks
  rcases m.publishAcknowledged_cases id with
    ⟨phase, taken⟩ | ⟨phase, taken⟩ | ⟨phase, taken⟩ | taken
  · rw [phase] at agrees
    obtain ⟨rfl, all, sent⟩ := agrees
    rw [taken]
    have discovery := acked _ sent
    refine ⟨⟨by simpa [request?] using all, discovery⟩, rfl, ?_,
      acknowledged_append _ _ _ discovery⟩
    simp [request?, all, bootstrapSequence]
  · rw [phase] at agrees
    obtain ⟨rfl, all, discovery, sent⟩ := agrees
    rw [taken]
    exact ⟨rfl, by simpa [request?] using all, acknowledged_append _ _ _ discovery, acked _ sent⟩
  · rw [phase] at agrees
    obtain ⟨rfl, ⟨closed, earlier, -, ordered, all⟩, sent⟩ := agrees
    rw [taken]
    have closed' := hasShutdown_append c [.polled b] closed
    have offline := acked _ sent
    exact ⟨⟨closed', offline⟩, rfl, acknowledged_append _ _ _ offline,
      hasShutdown_append _ _ closed', earlier, ordered, by simp [all, request?]⟩
  · rw [taken]
    exact still

theorem stateAvailable_reacts (m : BootstrapMachine) (c : List Obs)
    (pending : List ProtocolAction) (message : StateMessage)
    (agrees : PhaseAgrees c pending m.phase)
    (handed : pending = [] → requests c = (transmitted c).map Prod.fst) :
    Reacts c pending (some message) (m.stateAvailable message.requestId) := by
  rcases m.stateAvailable_cases message.requestId with ⟨listens, taken⟩ | ⟨-, -, taken⟩
  · have sofar : pending = [] ∧ (∃ states, actions c = bootstrapSequence states) ∧
        Acknowledged .publishDiscovery c ∧ Acknowledged .publishOnline c := by
      rcases listens with ⟨hm, -⟩ | ⟨hm, -⟩ <;> rw [hm] at agrees
      · exact ⟨agrees.1, ⟨0, agrees.2.1⟩, agrees.2.2⟩
      · obtain ⟨none, ⟨states, all⟩, acked⟩ := agrees
        exact ⟨none, ⟨states + 1, all⟩, acked⟩
    obtain ⟨rfl, ⟨states, all⟩, discovery, online⟩ := sofar
    rw [taken]
    refine ⟨⟨⟨states, all⟩, discovery, online, handed rfl⟩, rfl, ⟨states, ?_⟩,
      acknowledged_append _ _ _ discovery, acknowledged_append _ _ _ online⟩
    simp [all, bootstrapSequence_snoc]
  · rw [taken]
    exact agrees

theorem shutdown_reacts (m : BootstrapMachine) (c : List Obs) (pending : List ProtocolAction)
    (agrees : PhaseAgrees c pending m.phase) (running : m.phase.isShutdown = false)
    (closed : HasShutdown c) :
    m.shutdown.2 = some .publishOffline ∧ Reacts c pending none m.shutdown := by
  obtain ⟨begun, ordered⟩ := phaseAgrees_bootstrap c pending m.phase agrees running
  have closing : Closing (c ++ [.requested ⟨.publishOffline, none⟩]) :=
    ⟨hasShutdown_append _ _ closed, actions c, begun, ordered, by simp⟩
  rcases hm : m with ⟨phase, required, last, queued, became⟩
  subst hm
  cases phase with
  | disconnected | stopped => exact agrees.elim
  | shutdownAwaitOfflineOutgoing _ | shutdownAwaitOfflineAck _ | disconnectQueued =>
    simp [Phase.isShutdown] at running
  | discoveryQueued | onlineQueued | stateQueued =>
    obtain ⟨rfl, -⟩ := agrees
    exact ⟨rfl, closed, ⟨_, by simp, rfl⟩, closing⟩
  | discoveryAwaitAck _ | onlineAwaitAck _ | awaitFreshState | online =>
    obtain ⟨rfl, -⟩ := agrees
    exact ⟨rfl, closed, rfl, closing⟩

end RpiHealth
