import RpiHealth.Mqtt.Dormant

/-! What a step can do to the part of the supervisor that states pass through:
the two slots, the machine and the channel. Every step is a sequence of moves,
under any client rules. -/
namespace RpiHealth
open Machines Watch

structure Core where
  states : Slot (Option StateMessage)
  seen : Nat
  requests : Slot Nat
  protocol : BootstrapMachine
  queue : List Submission
  ended : Bool

def World.core (w : World) : Core where
  states := w.states
  seen := w.seen
  requests := w.requests
  protocol := w.protocol
  queue := w.client.queue
  ended := match w.control with
    | .returned _ => true
    | _ => false

def Obs.isNote : Obs → Bool
  | .signalled | .received _ | .connAck _ | .polled _ | .lost | .reported _ | .shutdown _
  | .returned _ => true
  | _ => false

namespace Core

/-- A request goes on the channel. -/
def ask (p : Core) (r : Submission) : Core := { p with queue := p.queue ++ [r] }

/-- The current state was offered to the machine. -/
def offer (p : Core) (requestId : Nat) : Core :=
  { p with seen := p.states.version, protocol := (p.protocol.stateAvailable requestId).1 }

def finish (p : Core) : Core := { p with queue := [], ended := true }

def begin (p : Core) : Core :=
  { p with
    requests := (requestCollection p.requests).1
    protocol := (p.protocol.connected (requestCollection p.requests).2).1
    queue := [⟨.publishDiscovery, none⟩] }

end Core

inductive Move (rules : ClientRules) : Core → List Obs → Core → Prop where
  | note (p : Core) (o : Obs) (passes : o.isNote = true) : Move rules p [o] p
  | allocate (p : Core) :
      Move rules p [.allocated (requestCollection p.requests).2]
        { p with requests := (requestCollection p.requests).1 }
  /-- The ConnAck branch looks at the state slot. -/
  | look (p : Core) (phase : p.protocol.phase = .disconnected) :
      Move rules p [] { p with seen := p.states.version }
  | begin (p : Core) (live : p.ended = false) (empty : p.queue = []) :
      Move rules p [.allocated (requestCollection p.requests).2, .reported .bootstrapping,
        .connected (requestCollection p.requests).2, .requested ⟨.publishDiscovery, none⟩] p.begin
  | react (p : Core) (live : p.ended = false) (event : Event) :
      Move rules p [] { p with protocol := (p.protocol.reaction event).1 }
  | settle (p : Core) : Move rules p [] { p with protocol := p.protocol.justBecameOnline.1 }
  | close (p : Core) (live : p.ended = false) :
      Move rules p [] { p with protocol := p.protocol.shutdown.1 }
  | lose (p : Core) (live : p.ended = false) :
      Move rules p [] { p with protocol := p.protocol.connectionLost, queue := [] }
  | ask (p : Core) (action : ProtocolAction) (other : action ≠ .publishState) :
      Move rules p [.requested ⟨action, none⟩] (p.ask ⟨action, none⟩)
  | send (p : Core) (position : Nat) (r : Submission) (id : PacketId)
      (found : p.queue[position]? = some r) (first : rules.fifo = true → position = 0) :
      Move rules p [.transmitted r id] { p with queue := p.queue.eraseIdx position }
  | finish (p : Core) : Move rules p [] p.finish
  /-- There is no state yet, or the machine does not want it. -/
  | ignore (p : Core) (listens : p.protocol.acceptsState = true)
      (unwanted : ∀ m, p.states.value = some m →
        p.protocol.stateAvailable m.requestId = (p.protocol, none)) :
      Move rules p [] { p with seen := p.states.version }
  | publish (p : Core) (live : p.ended = false) (m : StateMessage)
      (current : p.states.value = some m)
      (wanted : (p.protocol.stateAvailable m.requestId).2 = some .publishState) :
      Move rules p [.requested ⟨.publishState, some m⟩]
        ((p.offer m.requestId).ask ⟨.publishState, some m⟩)
  /-- The machine wants the state and the channel is full. -/
  | refuse (p : Core) (live : p.ended = false) (m : StateMessage)
      (current : p.states.value = some m)
      (wanted : (p.protocol.stateAvailable m.requestId).2 = some .publishState) :
      Move rules p [] (p.offer m.requestId).finish

/-- An event asks for no state. -/
theorem BootstrapMachine.reaction_action (m : BootstrapMachine) (event : Event)
    (action : ProtocolAction) (asked : (m.reaction event).2 = some action) :
    action ≠ .publishState := by
  cases event with
  | outgoing packet =>
    cases packet with
    | publish id => simp [reaction, m.outgoingPublish_cases id |>.1] at asked
    | disconnect | other => simp [reaction, disconnected] at asked
  | incoming packet =>
    cases packet with
    | pubAck id =>
      obtain ⟨_, taken⟩ | ⟨_, taken⟩ | ⟨_, taken⟩ | taken := m.publishAcknowledged_cases id <;>
        rintro rfl <;> simp [reaction, taken] at asked
    | connAck | other => simp [reaction] at asked

/-- The worker hears nothing of a move. -/
theorem move_keeps_states (rules : ClientRules) (p q : Core) (emitted : List Obs)
    (moved : Move rules p emitted q) : ∀ o ∈ emitted, ∀ m, o ≠ .replaced m := by
  intro o member m same
  subst same
  cases moved with
  | note o passes =>
    obtain rfl := List.mem_singleton.mp member
    simp [Obs.isNote] at passes
  | _ => simp at member

/-- Nothing a move does takes a request back. -/
theorem move_requests (rules : ClientRules) (p q : Core) (emitted : List Obs)
    (moved : Move rules p emitted q) : min p.requests.value U64_MAX ≤ q.requests.value := by
  cases moved with
  | allocate | begin =>
    simp only [requestCollection, Core.begin, Slot.sendModify_value]
    omega
  | _ => exact Nat.min_le_left _ _

variable {rules : ClientRules}

theorem notes (p : Core) (os : List Obs) (passes : ∀ o ∈ os, o.isNote = true) :
    Moves (Move rules) p os p := by
  induction os with
  | nil => exact .none p
  | cons o rest ih =>
    exact .next (.note p o (passes o (by simp))) (ih (fun a member => passes a (by simp [member])))

/-- The end of a handler is reached by moves. -/
def Outcome.Moved (rules : ClientRules) (w : World) (out : Outcome) : Prop :=
  Moves (Move rules) w.core (World.conclude out).1 (World.conclude out).2.core

theorem halt_core (w : World) (error : Option MqttError) : (w.halt error).core = w.core.finish := rfl

theorem moved_error (w v : World) (e : MqttError) (emitted : List Obs)
    (moved : Moves (Move rules) w.core emitted v.core) :
    Outcome.Moved rules w ⟨emitted, v, some e⟩ := by
  simp only [Outcome.Moved, World.conclude]
  refine moved.append ?_
  rw [halt_core]
  exact (Moves.one (Move.finish v.core)).append (.one (.note _ _ rfl))

theorem conclude_andThen (first : Outcome) (next : World → Outcome) (fine : first.error = none) :
    World.conclude (first.andThen next) =
      (first.emitted ++ (World.conclude (next first.world)).1,
        (World.conclude (next first.world)).2) := by
  simp only [Outcome.andThen, fine, World.conclude]
  split <;> simp_all

theorem moved_andThen (w : World) (first : Outcome) (next : World → Outcome)
    (start : first.Moved rules w)
    (later : first.error = none → (next first.world).Moved rules first.world) :
    (first.andThen next).Moved rules w := by
  cases fine : first.error with
  | none =>
    unfold Outcome.Moved
    rw [conclude_andThen first next fine]
    refine Moves.append ?_ (later fine)
    simpa [Outcome.Moved, World.conclude, fine] using start
  | some e => simpa [Outcome.andThen, fine] using start

theorem perform_moved (w : World) (action : ProtocolAction) (other : action ≠ .publishState) :
    (w.perform action none).Moved rules w := by
  unfold World.perform
  split
  · exact .one (.ask w.core action other)
  · exact moved_error w w _ [] (.none _)

theorem handleEvent_moved (w : World) (event : Event) (live : w.core.ended = false) :
    (w.handleEvent event).Moved rules w := by
  have reacts : Moves (Move rules) w.core []
      ({ w with protocol := (w.protocol.reaction event).1 } : World).core :=
    .one (.react w.core live event)
  simp only [World.handleEvent]
  cases asked : (w.protocol.reaction event).2 with
  | none => exact reacts
  | some action => exact reacts.append (perform_moved _ action (w.protocol.reaction_action event action asked))

theorem publishCurrentState_moved (w : World) (live : w.core.ended = false)
    (listens : w.protocol.acceptsState = true) : w.publishCurrentState.Moved rules w := by
  cases value : w.states.value with
  | none =>
    simp only [World.publishCurrentState, value]
    exact .one (.ignore w.core listens (fun m some => by simp [World.core, value] at some))
  | some m =>
    simp only [World.publishCurrentState, value]
    rcases BootstrapMachine.stateAvailable_cases w.protocol m.requestId with
      ⟨_, accepted⟩ | ⟨_, _, rejected⟩
    · simp only [accepted, World.performAny, World.perform]
      have wanted : (w.protocol.stateAvailable m.requestId).2 = some .publishState := by
        rw [accepted]
      split
      · have move : Move rules _ _ _ := .publish w.core live m value wanted
        simp only [Core.offer, World.core, accepted] at move
        exact .one move
      · have move : Move rules _ _ _ := .refuse w.core live m value wanted
        simp only [Core.offer, World.core, accepted] at move
        exact (Moves.one move).append (.one (.note _ _ rfl))
    · simp only [rejected, World.performAny]
      refine .one (.ignore w.core listens (fun n some => ?_))
      simp only [World.core, value, Option.some.injEq] at some
      rw [← some]
      exact rejected

theorem finishTurn_moved (w : World) (live : w.core.ended = false)
    (became : w.protocol.becameOnline = true → w.protocol.phase = .online) :
    w.finishTurn.Moved rules w := by
  have settles : Moves (Move rules) w.core []
      ({ w with protocol := w.protocol.justBecameOnline.1 } : World).core :=
    .one (.settle w.core)
  simp only [World.finishTurn]
  split
  · rename_i checked
    have listens : w.protocol.justBecameOnline.1.acceptsState = true := by
      simp [BootstrapMachine.acceptsState, BootstrapMachine.justBecameOnline, became checked]
    have reports : Moves (Move rules) w.core [.reported .online]
        ({ w with protocol := w.protocol.justBecameOnline.1, status := .online } : World).core :=
      settles.append (.one (.note _ _ rfl))
    exact moved_andThen w ⟨_, _, none⟩ _ reports (fun _ => publishCurrentState_moved _ live listens)
  · split
    · exact settles.append (.one (.note _ _ rfl))
    · exact settles

theorem polled_moves (w : World) (b : Buffered) (rest : List Buffered) (out : Outcome)
    (moved : out.Moved rules (w.pop rest)) :
    Moves (Move rules) w.core (.polled b :: (World.conclude out).1) (World.conclude out).2.core :=
  (Moves.one (.note w.core (.polled b) rfl)).append moved

theorem stop_moves (w : World) : Moves (Move rules) w.core w.stop.1 w.stop.2.core :=
  (Moves.one (.finish w.core)).append (notes _ _ (by simp [Obs.isNote]))

theorem turn_moved (w : World) (event : Event) (live : w.core.ended = false)
    (settled : w.protocol.becameOnline = false) :
    ((w.handleEvent event).andThen World.finishTurn).Moved rules w := by
  refine moved_andThen w _ _ (handleEvent_moved w event live) (fun _ => finishTurn_moved _ ?_ ?_)
  · simp only [World.core, (World.handleEvent_frame w event).control]
    exact live
  · rw [World.handleEvent_protocol]
    exact w.protocol.reaction_becameOnline event settled

theorem stateTurn_moved (w : World) (live : w.core.ended = false)
    (listens : w.protocol.acceptsState = true) (settled : w.protocol.becameOnline = false) :
    (w.publishCurrentState.andThen World.finishTurn).Moved rules w := by
  refine moved_andThen w _ _ (publishCurrentState_moved w live listens)
    (fun _ => finishTurn_moved _ ?_ ?_)
  · simp only [World.core, (World.publishCurrentState_frame w).control]
    exact live
  · intro became
    rw [World.publishCurrentState_protocol] at became
    cases value : w.states.value with
    | none => simp [value, settled] at became
    | some m =>
      rcases BootstrapMachine.stateAvailable_cases w.protocol m.requestId with
        ⟨_, offered⟩ | ⟨_, _, offered⟩ <;> simp [value, offered, settled] at became

theorem drain_moves (w : World) (event : Event) (live : w.core.ended = false) :
    Moves (Move rules) w.core (w.drain event).1 (w.drain event).2.core := by
  have handled : (w.handleEvent event).Moved rules w := handleEvent_moved w event live
  simp only [World.drain]
  split
  · rename_i ended
    simp only [Outcome.Moved, World.conclude, ended.1] at handled
    exact handled.append (stop_moves _)
  · exact handled

theorem BootstrapMachine.shutdown_action (m : BootstrapMachine) (action : ProtocolAction)
    (asked : m.shutdown.2 = some action) : action ≠ .publishState := by
  unfold shutdown at asked
  split at asked <;> simp_all <;> simp [← asked]

theorem gracefulShutdown_moves (w : World) (live : w.core.ended = false) :
    Moves (Move rules) w.core w.gracefulShutdown.1 w.gracefulShutdown.2.core := by
  have closes : Moves (Move rules) w.core [] { w.core with protocol := w.core.protocol.shutdown.1 } :=
    .one (.close w.core live)
  have starts : Moves (Move rules) w.core [.shutdown w.protocol.phase, .reported .shuttingDown]
      ({ w with
        protocol := w.protocol.shutdown.1
        status := .shuttingDown
        control := .draining } : World).core := by
    have draining : w.core = { w.core with ended := false } := by rw [← live]
    rw [draining] at closes ⊢
    exact closes.append (notes _ _ (by simp [Obs.isNote]))
  simp only [World.gracefulShutdown]
  cases asked : w.protocol.shutdown.2 with
  | none => exact starts.append (stop_moves _)
  | some action =>
    exact starts.append (perform_moved _ action (w.protocol.shutdown_action action asked))

/-- Every step but the arrival of a state is a sequence of moves. -/
theorem step_moves (w : World) (i : Input) (emitted : List Obs) (v : World) (dormant : Dormant w)
    (other : ∀ m, i ≠ .replaceState m) (taken : step rules w i = some (emitted, v)) :
    Moves (Move rules) w.core emitted v.core := by
  cases step_taken rules w i emitted v taken with
  | replaceState m => exact absurd rfl (other m)
  | request => exact .one (.allocate w.core)
  | signal => exact .one (.note w.core _ rfl)
  | transmit position id r found may =>
    refine .one (.send w.core position r id found (fun fifo => ?_))
    simp only [World.mayTransmit, Bool.and_eq_true, Bool.or_eq_true, decide_eq_true_eq, fifo] at may
    exact may.1.2.resolve_left (by simp)
  | receive id up | ping up => exact notes w.core _ (by simp [Obs.isNote])
  | accepted control down =>
    have idle := dormant.idle (.inr (.inr ⟨control, down⟩))
    have looks : Move rules w.core [] { w.core with seen := w.core.states.version } :=
      .look w.core idle.2
    have notes : Moves (Move rules) w.core [.connAck .success] w.core :=
      notes w.core _ (by simp [Obs.isNote])
    simp only [World.core, control] at looks notes ⊢
    exact notes.append (.one looks)
  | refused code refuses control down =>
    have idle := dormant.idle (.inr (.inr ⟨control, down⟩))
    rw [turn_idle w code idle.2 (dormant.settled (.inl control))]
    exact .one (.note w.core (.connAck code) rfl)
  | connect control =>
    have empty := idle_queue w dormant (.inl control)
    rw [connect_eq w empty]
    have begins : Move rules w.core _ w.core.begin :=
      .begin w.core (by simp [World.core, control]) empty
    simp only [World.core, Core.begin, control] at begins ⊢
    exact .one begins
  | polled b rest up events control =>
    apply polled_moves w b rest _
    exact turn_moved (w.pop rest) b.event (by simp [World.core, World.pop, control])
      (dormant.settled (.inl control))
  | drained b rest up events control =>
    exact (Moves.one (.note w.core (.polled b) rfl)).append
      (drain_moves (w.pop rest) b.event (by simp [World.core, World.pop, control]))
  | failed kept among keeps control =>
    have loses : Move rules w.core [] _ := .lose w.core (by simp [World.core, control])
    simp only [World.core, control] at loses ⊢
    exact (Moves.one loses).append
      (notes _ [.lost, .reported .disconnected] (by simp [Obs.isNote]))
  | abandoned kept control => exact (Moves.one (.note w.core .lost rfl)).append (stop_moves w)
  | state control accepts changed =>
    exact stateTurn_moved w (by simp [World.core, control]) accepts (dormant.settled (.inl control))
  | shutdown control => exact gracefulShutdown_moves w (by simp [World.core, control])
  | dismissed control =>
    exact (Moves.one (.note w.core (.shutdown w.protocol.phase) rfl)).append (stop_moves w)
  | retry control =>
    have idle := dormant.idle (.inr (.inl control))
    have settled := dormant.settled (.inr (.inr control))
    rw [retry_idle w idle.2 settled]
    have stays : ({ w with control := .select } : World).core = w.core := by
      simp [World.core, control]
    rw [stays]
    exact .none w.core
  | timeout control => exact stop_moves w

end RpiHealth
