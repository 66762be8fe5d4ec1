import RpiHealth.Mqtt.Queue

/-! What the status channel says. It is a function of where the supervisor stands,
under any client rules, so nobody who reads it is ever misled. -/
namespace RpiHealth
open Machines

/-- The phases of a connection that is being used and not shut down. -/
def Phase.serves : Phase → Bool
  | .discoveryQueued | .discoveryAwaitAck _ | .onlineQueued | .onlineAwaitAck _
  | .awaitFreshState | .stateQueued | .online => true
  | _ => false

/-- What the machine of a connection stands for. A state that is queued stands for
what the connection was before it. -/
def BootstrapMachine.standing (m : BootstrapMachine) : MqttStatus :=
  match m.phase with
  | .online => .online
  | .stateQueued => if m.bootstrapStateQueued then .bootstrapping else .online
  | _ => .bootstrapping

def World.standing (w : World) : MqttStatus :=
  match w.control with
  | .select => if w.client.up then w.protocol.standing else .disconnected
  | .connAcked | .retrying => .disconnected
  | .draining => .shuttingDown
  | .returned _ => .stopped

/-- Nothing on the connection ends it. -/
structure Client.Unending (client : Client) : Prop where
  queue : ∀ r ∈ client.queue, r.action ≠ .disconnect
  events : ∀ b ∈ client.events, b.event ≠ .outgoing .disconnect

structure Standing (w : World) : Prop where
  status : (∀ e, w.control ≠ .returned (some e)) → w.status = w.standing
  serves : w.control = .select → w.client.up = true → w.protocol.phase.serves = true
  down : w.control = .retrying → w.client.up = false
  unending : w.control = .select ∨ w.control = .connAcked ∨ w.control = .retrying →
    w.client.Unending

namespace BootstrapMachine

theorem reaction_standing (m : BootstrapMachine) (event : Event) (serves : m.phase.serves = true)
    (unending : event ≠ .outgoing .disconnect) :
    (m.reaction event).1.phase.serves = true ∧
      ((m.reaction event).1.phase = .online ∨ (m.reaction event).1.standing = m.standing) := by
  cases event with
  | incoming packet =>
    cases packet with
    | pubAck id =>
      rcases m.publishAcknowledged_cases id with
        ⟨phase, taken⟩ | ⟨phase, taken⟩ | ⟨phase, taken⟩ | taken <;>
        simp_all [reaction, Phase.serves, standing]
    | _ => exact ⟨serves, .inr rfl⟩
  | outgoing packet =>
    cases packet with
    | publish id =>
      obtain ⟨-, ⟨phase, -, taken⟩ | ⟨phase, -, taken⟩ | ⟨phase, -, taken⟩ | ⟨phase, taken⟩ |
        ⟨phase, -, taken⟩ | taken⟩ := m.outgoingPublish_cases id <;>
        simp_all [reaction, Phase.serves, standing]
    | disconnect => exact absurd rfl unending
    | other => exact ⟨serves, .inr rfl⟩

theorem reaction_action_ends (m : BootstrapMachine) (event : Event)
    (serves : m.phase.serves = true) : (m.reaction event).2 ≠ some .disconnect := by
  cases event with
  | incoming packet =>
    cases packet with
    | pubAck id =>
      rcases m.publishAcknowledged_cases id with
        ⟨phase, taken⟩ | ⟨phase, taken⟩ | ⟨phase, taken⟩ | taken <;>
        simp_all [reaction, Phase.serves]
    | _ => simp [reaction]
  | outgoing packet =>
    cases packet with
    | publish id => simp [reaction, (m.outgoingPublish_cases id).1]
    | disconnect | other => simp [reaction, disconnected]

theorem stateAvailable_standing (m : BootstrapMachine) (requestId : Nat)
    (serves : m.phase.serves = true) :
    (m.stateAvailable requestId).1.phase.serves = true ∧
      (m.stateAvailable requestId).1.standing = m.standing := by
  rcases m.stateAvailable_cases requestId with ⟨⟨phase, -⟩ | ⟨phase, -⟩, taken⟩ | ⟨-, -, taken⟩
  · simp [taken, Phase.serves, standing, phase]
  · simp [taken, Phase.serves, standing, phase]
  · rw [taken]
    exact ⟨serves, rfl⟩

end BootstrapMachine

namespace World

@[simp] theorem performAny_status (w : World) (action : Option ProtocolAction)
    (message : Option StateMessage) : (w.performAny action message).world.status = w.status := by
  rw [performAny_world]

@[simp] theorem handleEvent_status (w : World) (event : Event) :
    (w.handleEvent event).world.status = w.status := by
  simp [handleEvent]

@[simp] theorem publishCurrentState_status (w : World) :
    w.publishCurrentState.world.status = w.status := by
  cases value : w.states.value <;> simp [publishCurrentState, value]

theorem publishCurrentState_standing (w : World) (serves : w.protocol.phase.serves = true) :
    w.publishCurrentState.world.protocol.phase.serves = true ∧
      w.publishCurrentState.world.protocol.standing = w.protocol.standing := by
  rw [publishCurrentState_protocol]
  split
  · exact ⟨serves, rfl⟩
  · exact BootstrapMachine.stateAvailable_standing _ _ serves

theorem finishTurn_standing (w : World) (serves : w.protocol.phase.serves = true)
    (became : w.protocol.becameOnline = true → w.protocol.phase = .online)
    (stands : w.protocol.phase = .online ∨ w.status = w.protocol.standing) :
    w.finishTurn.world.protocol.phase.serves = true ∧
      w.finishTurn.world.status = w.finishTurn.world.protocol.standing := by
  simp only [finishTurn]
  split
  · rename_i checked
    rw [andThen_world _ _ rfl]
    let v : World := { w with protocol := w.protocol.justBecameOnline.1, status := .online }
    have online : v.protocol.phase = .online := became checked
    obtain ⟨still, kept⟩ := publishCurrentState_standing v (by simp [online, Phase.serves])
    have stands : v.protocol.standing = .online := by simp [BootstrapMachine.standing, online]
    exact ⟨still, (publishCurrentState_status v).trans (kept.trans stands).symm⟩
  · split
    · rename_i online
      have phase : w.protocol.phase = .online := of_decide_eq_true online
      exact ⟨serves, by simp [BootstrapMachine.standing, BootstrapMachine.justBecameOnline, phase]⟩
    · rename_i offline
      have phase : w.protocol.phase ≠ .online :=
        of_decide_eq_false (Bool.eq_false_iff.mpr offline)
      exact ⟨serves, stands.resolve_left phase⟩

end World

/-! What a step does to it. -/

theorem unending_idle (client : Client) (queue : client.queue = []) (events : client.events = []) :
    client.Unending := by
  constructor <;> simp [queue, events]

theorem unending_buffer (client : Client) (b : Buffered) (own : b.event ≠ .outgoing .disconnect)
    (unending : client.Unending) : ({ client with events := client.events ++ [b] } : Client).Unending where
  queue := unending.queue
  events c member := by
    rcases List.mem_append.mp member with old | new
    · exact unending.events c old
    · rw [List.mem_singleton.mp new]
      exact own

theorem unending_pop (client : Client) (b : Buffered) (rest : List Buffered)
    (unending : client.Unending) (events : client.events = b :: rest) :
    ({ client with events := rest } : Client).Unending ∧ b.event ≠ .outgoing .disconnect := by
  refine ⟨⟨unending.queue, fun c member => unending.events c ?_⟩, unending.events b ?_⟩
  · rw [events]
    exact List.mem_cons_of_mem b member
  · rw [events]
    exact List.mem_cons_self

/-- The channel after a handler holds what it held, and perhaps one more request. -/
theorem performAny_queue (w : World) (action : Option ProtocolAction)
    (message : Option StateMessage) (r : Submission)
    (member : r ∈ (w.performAny action message).world.client.queue) :
    r ∈ w.client.queue ∨ action = some r.action := by
  cases action with
  | none => exact .inl member
  | some action =>
    simp only [World.performAny, World.perform] at member
    split at member
    · rcases List.mem_append.mp member with old | new
      · exact .inl old
      · rw [List.mem_singleton.mp new]
        exact .inr rfl
    · exact .inl member

/-- Whatever is new on the channel is no Disconnect. -/
def Lasting (w v : World) : Prop :=
  ∀ r ∈ v.client.queue, r ∈ w.client.queue ∨ r.action ≠ .disconnect

theorem lasting_trans (u v w : World) (first : Lasting u v) (second : Lasting v w) :
    Lasting u w := by
  intro r member
  rcases second r member with old | other
  · exact first r old
  · exact .inr other

theorem handleEvent_lasting (w : World) (event : Event) (serves : w.protocol.phase.serves = true) :
    Lasting w (w.handleEvent event).world := by
  intro r member
  rcases performAny_queue _ _ _ r member with old | asked
  · exact .inl old
  · refine .inr (fun ends => w.protocol.reaction_action_ends event serves ?_)
    rw [asked, ends]

theorem publishCurrentState_lasting (w : World) : Lasting w w.publishCurrentState.world := by
  intro r member
  cases value : w.states.value with
  | none =>
    simp only [World.publishCurrentState, value] at member
    exact .inl member
  | some message =>
    simp only [World.publishCurrentState, value] at member
    rcases performAny_queue _ _ _ r member with old | asked
    · exact .inl old
    · refine .inr (fun ends => ?_)
      rw [ends] at asked
      rcases w.protocol.stateAvailable_cases message.requestId with ⟨-, taken⟩ | ⟨-, -, taken⟩ <;>
        simp [taken] at asked

theorem finishTurn_lasting (w : World) : Lasting w w.finishTurn.world := by
  simp only [World.finishTurn]
  split
  · rw [andThen_world _ _ rfl]
    exact publishCurrentState_lasting _
  · split <;> exact fun r member => .inl member

theorem standing_returned (w : World) (error : Option MqttError)
    (control : w.control = .returned error)
    (status : (∀ e, error ≠ some e) → w.status = .stopped) : Standing w where
  status fine := by
    rw [World.standing, control]
    exact status (fun e same => fine e (same ▸ control))
  serves := by simp [control]
  down := by simp [control]
  unending := by simp [control]

theorem standing_stop (w : World) : Standing w.stop.2 :=
  standing_returned _ none rfl (fun _ => rfl)

theorem standing_halt (w : World) (e : MqttError) : Standing (w.halt (some e)) :=
  standing_returned _ (some e) rfl (fun fine => absurd rfl (fine e))

/-- A handler that went through leaves the connection in use. -/
theorem standing_conclude (w : World) (out : Outcome) (frame : Frame w out.world)
    (control : w.control = .select) (up : w.client.up = true) (unending : w.client.Unending)
    (lasting : Lasting w out.world)
    (done : out.error = none → out.world.protocol.phase.serves = true ∧
      out.world.status = out.world.protocol.standing) : Standing (World.conclude out).2 := by
  unfold World.conclude
  split
  · rename_i fine
    obtain ⟨serves, status⟩ := done fine
    have here := frame.control.trans control
    have there := frame.up.trans up
    refine ⟨fun _ => by simpa [World.standing, here, there] using status, fun _ _ => serves,
      by simp [here], fun _ => ⟨fun r member => ?_, ?_⟩⟩
    · rcases lasting r member with old | other
      · exact unending.queue r old
      · exact other
    · rw [frame.events]
      exact unending.events
  · exact standing_halt _ _

/-- While the connection is shut down only the status is at stake. -/
theorem standing_draining (w : World) (out : Outcome) (frame : Frame w out.world)
    (control : w.control = .draining) (status : out.world.status = .shuttingDown) :
    Standing (World.conclude out).2 := by
  unfold World.conclude
  split
  · have here := frame.control.trans control
    exact ⟨fun _ => by simp [World.standing, here, status], by simp [here], by simp [here],
      by simp [here]⟩
  · exact standing_halt _ _

theorem shutdown_standing (w : World) : Standing w.gracefulShutdown.2 := by
  let v : World := { w with
    protocol := w.protocol.shutdown.1, status := .shuttingDown, control := .draining }
  simp only [World.gracefulShutdown]
  cases asked : w.protocol.shutdown.2 with
  | none => exact standing_stop _
  | some action =>
    exact standing_draining v _ (World.performAny_frame v (some action) none) rfl
      (World.performAny_status v (some action) none)

theorem drain_standing (w : World) (standing : Standing w) (rest : List Buffered) (event : Event)
    (control : w.control = .draining) : Standing ((w.pop rest).drain event).2 := by
  have status : w.status = .shuttingDown := by
    simpa [World.standing, control] using standing.status (by simp [control])
  simp only [World.drain]
  split
  · exact standing_stop _
  · exact standing_draining (w.pop rest) _ (World.handleEvent_frame _ _) control
      ((World.handleEvent_status _ _).trans status)

section Handlers

variable (w : World) (standing : Standing w) (dormant : Dormant w)
include standing dormant

theorem turn_standing (b : Buffered) (rest : List Buffered) (up : w.client.up = true)
    (events : w.client.events = b :: rest) (control : w.control = .select) :
    Standing ((w.pop rest).turn b.event).2 := by
  have serves := standing.serves control up
  obtain ⟨unending, other⟩ := unending_pop w.client b rest (standing.unending (.inl control)) events
  obtain ⟨still, stands⟩ := w.protocol.reaction_standing b.event serves other
  have handled := World.handleEvent_frame (w.pop rest) b.event
  refine standing_conclude (w.pop rest) _ (World.andThen_frame _ _ _ handled World.finishTurn_frame)
    control up unending ?_ ?_
  · unfold Outcome.andThen
    split
    · exact handleEvent_lasting _ _ serves
    · exact lasting_trans _ _ _ (handleEvent_lasting _ _ serves) (finishTurn_lasting _)
  · intro fine
    cases failed : ((w.pop rest).handleEvent b.event).error with
    | some e => simp [Outcome.andThen, failed] at fine
    | none =>
      rw [andThen_world _ _ failed]
      have status : w.status = w.protocol.standing := by
        have said := standing.status (by simp [control])
        simpa [World.standing, control, up] using said
      apply World.finishTurn_standing
      · rw [World.handleEvent_protocol]
        exact still
      · rw [World.handleEvent_protocol]
        exact w.protocol.reaction_becameOnline b.event (dormant.settled (.inl control))
      · rw [World.handleEvent_protocol, World.handleEvent_status]
        exact stands.imp_right (fun same => status.trans same.symm)

theorem state_standing (control : w.control = .select)
    (accepts : w.protocol.acceptsState = true) : Standing w.stateTurn.2 := by
  have up := dormant_listening w dormant control accepts
  have serves := standing.serves control up
  obtain ⟨still, stands⟩ := w.publishCurrentState_standing serves
  refine standing_conclude w _ (World.andThen_frame _ _ _ (World.publishCurrentState_frame w)
    World.finishTurn_frame) control up (standing.unending (.inl control)) ?_ ?_
  · unfold Outcome.andThen
    split
    · exact publishCurrentState_lasting w
    · exact lasting_trans _ _ _ (publishCurrentState_lasting w) (finishTurn_lasting _)
  · intro fine
    cases failed : w.publishCurrentState.error with
    | some e => simp [Outcome.andThen, failed] at fine
    | none =>
      rw [andThen_world _ _ failed]
      have settled := World.publishCurrentState_becameOnline w (dormant.settled (.inl control))
      have status : w.status = w.protocol.standing := by
        have said := standing.status (by simp [control])
        simpa [World.standing, control, up] using said
      refine World.finishTurn_standing _ still (by simp [settled]) (.inr ?_)
      rw [World.publishCurrentState_status, stands]
      exact status

theorem step_standing (rules : ClientRules) (i : Input) (emitted : List Obs) (v : World)
    (taken : step rules w i = some (emitted, v)) : Standing v := by
  cases step_taken rules w i emitted v taken with
  | replaceState message | request | signal => exact { standing with }
  | transmit position id r found may =>
    refine ⟨standing.status, standing.serves, standing.down, fun runs => ?_⟩
    obtain ⟨queue, events⟩ := standing.unending runs
    have member : r ∈ w.client.queue := List.mem_of_getElem? found
    refine ⟨fun s kept => queue s (List.mem_of_mem_eraseIdx kept), fun b kept => ?_⟩
    rcases List.mem_append.mp kept with old | new
    · exact events b old
    · rw [List.mem_singleton.mp new]
      simp [Buffered.event, queue r member]
  | receive id up =>
    exact ⟨standing.status, standing.serves, standing.down, fun runs =>
      unending_buffer w.client (.ack id) (by simp [Buffered.event]) (standing.unending runs)⟩
  | ping up =>
    exact ⟨standing.status, standing.serves, standing.down, fun runs =>
      unending_buffer w.client .quiet (by simp [Buffered.event]) (standing.unending runs)⟩
  | accepted control down =>
    have said := standing.status (by simp [control])
    have kept := standing.unending (.inl control)
    exact ⟨fun _ => by simpa [World.standing, control, down] using said, by simp, by simp,
      fun _ => ⟨kept.queue, kept.events⟩⟩
  | refused code refuses control down =>
    have idle := dormant.idle (.inr (.inr ⟨control, down⟩))
    rw [turn_idle w code idle.2 (dormant.settled (.inl control))]
    exact standing
  | connect control =>
    have up := dormant.connecting control
    rw [connect_eq w (idle_queue w dormant (.inl control))]
    refine ⟨fun _ => ?_, fun _ _ => rfl, by simp, fun _ => ⟨by simp, ?_⟩⟩
    · simp [World.standing, up, BootstrapMachine.standing, BootstrapMachine.connected]
    · exact (standing.unending (.inr (.inl control))).events
  | polled b rest up events control => exact turn_standing w standing dormant b rest up events control
  | drained b rest up events control => exact drain_standing w standing rest b.event control
  | failed kept among keeps control =>
    have unending := standing.unending (.inl control)
    refine ⟨fun _ => rfl, by simp [World.connectionFailed], fun _ => rfl, fun _ => ⟨?_, ?_⟩⟩
    · simp [World.connectionFailed]
    · intro b member
      obtain ⟨e, chosen, rfl⟩ : ∃ e, e ∈ kept ∧ .stale e = b := by
        simpa [World.connectionFailed] using member
      obtain ⟨c, buffered, same⟩ := List.mem_map.mp (among.subset chosen)
      rw [Buffered.event, ← same]
      exact unending.events c buffered
  | abandoned kept control => exact standing_stop w
  | state control accepts changed => exact state_standing w standing dormant control accepts
  | shutdown control => exact shutdown_standing w
  | dismissed control => exact standing_stop w
  | retry control =>
    have idle := dormant.idle (.inr (.inl control))
    have down := standing.down control
    have said := standing.status (by simp [control])
    rw [retry_idle w idle.2 (dormant.settled (.inr (.inr control)))]
    exact ⟨fun _ => by simpa [World.standing, control, down] using said, by simp [down], by simp,
      fun _ => standing.unending (.inr (.inr control))⟩
  | timeout control => exact standing_stop w

end Handlers

variable (rules : ClientRules) (settings : MqttSettings) (discoveryPayload : String)

theorem standing_start :
    Standing (supervisor rules settings discoveryPayload).initial :=
  ⟨fun _ => rfl, by simp [supervisor], by simp [supervisor],
    fun _ => unending_idle _ rfl rfl⟩

/-- Whoever reads the status channel of a supervisor that has not failed reads where
the supervisor stands: online while a bootstrapped connection is kept, bootstrapping
before that, disconnected without a connection. -/
theorem status_tells (inputs : List Input) (trace : List Obs) (w : World)
    (ran : (supervisor rules settings discoveryPayload).run inputs = some (trace, w))
    (fine : ∀ e, w.control ≠ .returned (some e)) : w.status = w.standing := by
  have inv := (supervisor rules settings discoveryPayload).invariant
    (fun _ w => Standing w ∧ Dormant w)
    ⟨standing_start rules settings discoveryPayload, dormant_start rules settings discoveryPayload⟩
    (fun _ s i emitted t inv taken =>
      ⟨step_standing s inv.1 inv.2 rules i emitted t taken,
        step_dormant rules s i (emitted, t) inv.2 taken⟩)
    inputs trace w ran
  exact inv.1.status fine

/-- A connection is lost while its bootstrap goes on. -/
theorem status_tells_lost : ∃ trace w,
    (supervisor (.documented fun _ => false) sampleSettings "{}").run
      [.connAck .success, .connect, .transmit 0 7, .poll, .fail []] = some (trace, w) ∧
    w.standing = .disconnected ∧ w.status = w.standing :=
  ⟨_, _, rfl, rfl, status_tells (.documented fun _ => false) sampleSettings "{}"
    [.connAck .success, .connect, .transmit 0 7, .poll, .fail []] _ _ rfl
    (by intro e; exact Control.noConfusion)⟩

end RpiHealth
