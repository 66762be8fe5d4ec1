import RpiHealth.Mqtt.Queue

/-! What is requested once shutdown was requested. -/
namespace RpiHealth
open Machines

/-- The phase in which shutdown was requested, and all that came after. -/
def closing : List Obs → Option (Phase × List Obs)
  | [] => none
  | .shutdown phase :: later => some (phase, later)
  | _ :: later => closing later

def Obs.isShutdown : Obs → Bool
  | .shutdown _ => true
  | _ => false

theorem closing_append (trace emitted : List Obs) :
    closing (trace ++ emitted) = match closing trace with
      | some (phase, later) => some (phase, later ++ emitted)
      | none => closing emitted := by
  induction trace with
  | nil => rfl
  | cons o rest ih => cases o <;> simp [closing, ih]

theorem closing_eq_none (emitted : List Obs) (quiet : ∀ o ∈ emitted, o.isShutdown = false) :
    closing emitted = none := by
  induction emitted with
  | nil => rfl
  | cons o rest ih =>
    have first := quiet o (by simp)
    have later := ih (fun a member => quiet a (by simp [member]))
    cases o <;> simp_all [closing, Obs.isShutdown]

/-- What may be requested after shutdown was requested in a phase. -/
def ShutdownActions (phase : Phase) (later : List Obs) : Prop :=
  if phase = .disconnected then actions later = []
  else actions later = [.publishOffline] ∨ actions later = [.publishOffline, .disconnect]

/-- Where the loop stands, and what shutdown has requested so far. -/
def Closes (trace : List Obs) (w : World) : Prop :=
  match closing trace, w.control with
  | none, control => control ≠ .draining
  | some (phase, later), .draining =>
    phase ≠ .disconnected ∧ actions later =
      if w.protocol.phase = .disconnectQueued then [.publishOffline, .disconnect]
      else [.publishOffline]
  | some (phase, later), .returned _ => ShutdownActions phase later
  | some _, _ => False

/-- In the shutdown sequence the machine asks for Disconnect once. -/
theorem reaction_draining (m : BootstrapMachine) (event : Event)
    (closing : m.phase.isShutdown = true) (goes : event ≠ .outgoing .disconnect) :
    (m.reaction event).2 = none ∧
        ((m.reaction event).1.phase = .disconnectQueued ↔ m.phase = .disconnectQueued) ∨
      m.phase ≠ .disconnectQueued ∧ (m.reaction event).2 = some .disconnect ∧
        (m.reaction event).1.phase = .disconnectQueued := by
  cases event with
  | incoming packet =>
    cases packet with
    | pubAck id =>
      rcases m.publishAcknowledged_cases id with
        ⟨phase, taken⟩ | ⟨phase, taken⟩ | ⟨phase, taken⟩ | taken <;>
        simp_all [BootstrapMachine.reaction, Phase.isShutdown]
    | _ => exact .inl ⟨rfl, Iff.rfl⟩
  | outgoing packet =>
    cases packet with
    | publish id =>
      obtain ⟨quiet, ⟨phase, -, taken⟩ | ⟨phase, -, taken⟩ | ⟨phase, -, taken⟩ | ⟨phase, taken⟩ |
        ⟨phase, -, taken⟩ | taken⟩ := m.outgoingPublish_cases id <;>
        simp_all [BootstrapMachine.reaction, Phase.isShutdown]
    | disconnect => exact absurd rfl goes
    | other => exact .inl ⟨rfl, Iff.rfl⟩

theorem handleEvent_actions (w : World) (event : Event)
    (fine : (w.handleEvent event).error = none) :
    actions (w.handleEvent event).emitted = (w.protocol.reaction event).2.toList := by
  cases asked : (w.protocol.reaction event).2 with
  | none => simp [World.handleEvent, asked, World.performAny]
  | some action =>
    simp only [World.handleEvent, asked, World.performAny, World.perform] at fine ⊢
    split at fine
    · rename_i room
      simp [room]
    · simp at fine

/-- All that the handlers of an event do: ask for a publication and report. -/
def Obs.isHandling : Obs → Bool
  | .requested _ | .reported _ => true
  | _ => false

theorem performAny_handling (w : World) (action : Option ProtocolAction)
    (message : Option StateMessage) (o : Obs)
    (member : o ∈ (w.performAny action message).emitted) : o.isHandling = true := by
  cases action with
  | none => simp [World.performAny] at member
  | some action =>
    simp only [World.performAny, World.perform] at member
    split at member
    · obtain rfl := List.mem_singleton.mp member
      rfl
    · simp at member

theorem handleEvent_handling (w : World) (event : Event) :
    ∀ o ∈ (w.handleEvent event).emitted, o.isHandling = true :=
  performAny_handling _ _ _

theorem publishCurrentState_handling (w : World) (o : Obs)
    (member : o ∈ w.publishCurrentState.emitted) : o.isHandling = true := by
  cases value : w.states.value with
  | none => simp [World.publishCurrentState, value] at member
  | some message =>
    simp only [World.publishCurrentState, value] at member
    exact performAny_handling _ _ _ o member

theorem andThen_handling (first : Outcome) (next : World → Outcome)
    (start : ∀ o ∈ first.emitted, o.isHandling = true)
    (later : ∀ v, ∀ o ∈ (next v).emitted, o.isHandling = true) (o : Obs)
    (member : o ∈ (first.andThen next).emitted) : o.isHandling = true := by
  unfold Outcome.andThen at member
  split at member
  · exact start o member
  · rcases List.mem_append.mp member with member | member
    · exact start o member
    · exact later _ o member

theorem finishTurn_handling (w : World) (o : Obs) (member : o ∈ w.finishTurn.emitted) :
    o.isHandling = true := by
  simp only [World.finishTurn] at member
  split at member
  · refine andThen_handling _ _ ?_ publishCurrentState_handling o member
    intro a among
    obtain rfl := List.mem_singleton.mp among
    rfl
  · split at member
    · obtain rfl := List.mem_singleton.mp member
      rfl
    · simp at member

theorem conclude_quiet (out : Outcome) (handling : ∀ o ∈ out.emitted, o.isHandling = true)
    (o : Obs) (member : o ∈ (World.conclude out).1) : o.isShutdown = false := by
  have quiet : ∀ o ∈ out.emitted, o.isShutdown = false := by
    intro o among
    have does := handling o among
    cases o <;> simp_all [Obs.isHandling, Obs.isShutdown]
  unfold World.conclude at member
  split at member
  · exact quiet o member
  · rcases List.mem_append.mp member with member | member
    · exact quiet o member
    · obtain rfl := List.mem_singleton.mp member
      rfl

/-- Before the loop drains or returns no shutdown was announced. -/
theorem closing_before (trace : List Obs) (w : World) (undrained : w.control ≠ .draining)
    (running : ∀ e, w.control ≠ .returned e) (closes : Closes trace w) : closing trace = none := by
  cases h : closing trace with
  | none => rfl
  | some found =>
    cases control : w.control <;> simp_all [Closes]

/-- Before shutdown a step that announces none does not start draining. -/
theorem closes_before (trace emitted : List Obs) (w v : World) (undrained : w.control ≠ .draining)
    (running : ∀ e, w.control ≠ .returned e) (closes : Closes trace w)
    (quiet : ∀ o ∈ emitted, o.isShutdown = false) (stays : v.control ≠ .draining) :
    Closes (trace ++ emitted) v := by
  have before := closing_before trace w undrained running closes
  simp only [Closes, closing_append, before, closing_eq_none emitted quiet]
  exact stays

theorem conclude_undrained (w : World) (out : Outcome) (frame : Frame w out.world)
    (undrained : w.control ≠ .draining) : (World.conclude out).2.control ≠ .draining := by
  unfold World.conclude
  split
  · rw [frame.control]
    exact undrained
  · simp [World.halt]

theorem turn_quiet (w : World) (event : Event) (o : Obs) (member : o ∈ (w.turn event).1) :
    o.isShutdown = false :=
  conclude_quiet _ (andThen_handling _ _ (handleEvent_handling _ _) finishTurn_handling) o member

theorem turn_undrained (w : World) (event : Event) (undrained : w.control ≠ .draining) :
    (w.turn event).2.control ≠ .draining :=
  conclude_undrained w _
    (World.andThen_frame _ _ _ (World.handleEvent_frame _ _) World.finishTurn_frame) undrained

/-- Shutdown on a connection in use asks for Offline. -/
theorem gracefulShutdown_eq (c : List Obs) (w : World)
    (agrees : PhaseAgrees c (w.client.unreported.map (·.action)) w.protocol.phase)
    (running : w.protocol.phase.isShutdown = false) :
    w.gracefulShutdown =
      ([.shutdown w.protocol.phase, .reported .shuttingDown, .requested ⟨.publishOffline, none⟩],
        { w with
          protocol := w.protocol.shutdown.1
          status := .shuttingDown
          control := .draining
          client := { w.client with queue := w.client.queue ++ [⟨.publishOffline, none⟩] } }) := by
  let marks : List Obs := [.shutdown w.protocol.phase]
  obtain ⟨asked, -⟩ := shutdown_reacts w.protocol (c ++ marks) _
    (phaseAgrees_append c marks _ _ rfl agrees) running ⟨w.protocol.phase, by simp [marks]⟩
  have short := unreported_length c w.client w.protocol.phase agrees
  have room : w.client.queue.length < REQUEST_CHANNEL_CAPACITY := by
    simp only [Client.unreported, List.length_append, REQUEST_CHANNEL_CAPACITY] at short ⊢
    omega
  simp [World.gracefulShutdown, asked, World.perform, room, World.conclude]

/-- Offline is not sent yet when it is asked for. -/
theorem shutdown_phase (m : BootstrapMachine) (running : m.phase.isShutdown = false)
    (begun : m.phase ≠ .disconnected) (unstopped : m.phase ≠ .stopped) :
    ∃ skip, m.shutdown.1.phase = .shutdownAwaitOfflineOutgoing skip := by
  cases phase : m.phase <;> simp_all [BootstrapMachine.shutdown, Phase.isShutdown]

theorem phaseAgrees_begun (c : List Obs) (pending : List ProtocolAction) (phase : Phase)
    (agrees : PhaseAgrees c pending phase) : phase ≠ .disconnected ∧ phase ≠ .stopped := by
  constructor <;> rintro rfl <;> exact agrees

theorem gracefulShutdown_closes (c trace : List Obs) (w : World)
    (agrees : PhaseAgrees c (w.client.unreported.map (·.action)) w.protocol.phase)
    (running : w.protocol.phase.isShutdown = false) (before : closing trace = none) :
    Closes (trace ++ w.gracefulShutdown.1) w.gracefulShutdown.2 := by
  obtain ⟨begun, unstopped⟩ := phaseAgrees_begun c _ _ agrees
  obtain ⟨skip, phase⟩ := shutdown_phase w.protocol running begun unstopped
  rw [gracefulShutdown_eq c w agrees running]
  simp only [Closes, closing_append, before, closing]
  exact ⟨begun, by simp [phase, request?]⟩

/-- An event of the shutdown sequence. -/
theorem drain_closes (c trace : List Obs) (w : World) (b : Buffered) (rest : List Buffered)
    (control : w.control = .draining) (tracked : Tracked c w.client)
    (agrees : PhaseAgrees c (w.client.unreported.map (·.action)) w.protocol.phase)
    (draining : w.protocol.phase.isShutdown = true) (rules : ClientRules)
    (leftovers : Leftovers rules w.client.events) (events : w.client.events = b :: rest)
    (unmistaken : ∀ e, b = .stale e → w.protocol.misattributes e = false)
    (closes : Closes trace w) :
    Closes (trace ++ .polled b :: ((w.pop rest).drain b.event).1)
      ((w.pop rest).drain b.event).2 := by
  cases found : closing trace with
  | none => simp [Closes, found, control] at closes
  | some before =>
    obtain ⟨phase, later⟩ := before
    simp only [Closes, found, control] at closes
    obtain ⟨begun, sofar⟩ := closes
    by_cases stops : b.event = .outgoing .disconnect
    · rw [stops, drain_disconnect]
      simp only [Closes, closing_append, found, World.stop, World.halt, ShutdownActions, begun,
        if_false]
      by_cases queued : w.protocol.phase = .disconnectQueued <;> simp_all [request?]
    · have kept := handleEvent_kept c w b rest tracked agrees events leftovers.1 stops
        (fun e stale => ⟨(leftovers.2 e (by simp [events, stale])).1, unmistaken e stale⟩)
      have asked := handleEvent_actions (w.pop rest) b.event kept.error
      have still : ((w.pop rest).handleEvent b.event).world.control = .draining :=
        (World.handleEvent_frame (w.pop rest) b.event).control.trans control
      rw [drain_kept _ _ _ kept stops]
      simp only [Closes, closing_append, found, still, World.handleEvent_protocol]
      refine ⟨begun, ?_⟩
      rw [actions_append, actions_cons, asked, sofar]
      rcases reaction_draining w.protocol b.event draining stops with
        ⟨quiet, same⟩ | ⟨other, asks, next⟩
      · simp [World.pop, quiet, same, request?]
      · simp [World.pop, asks, next, other, request?]

theorem closes_quiet (trace emitted : List Obs) (w v : World) (control : v.control = w.control)
    (protocol : v.protocol = w.protocol) (quiet : ∀ o ∈ emitted, o.isShutdown = false)
    (silent : actions emitted = []) (closes : Closes trace w) : Closes (trace ++ emitted) v := by
  cases found : closing trace with
  | none =>
    simp only [Closes, found] at closes
    simpa [Closes, closing_append, found, closing_eq_none emitted quiet, control] using closes
  | some before =>
    obtain ⟨phase, later⟩ := before
    cases here : w.control <;>
      simp_all [Closes, closing_append, ShutdownActions]

/-- The end of the shutdown sequence requests nothing. -/
theorem closes_stop (trace emitted : List Obs) (w v : World) (error : Option MqttError)
    (draining : w.control = .draining) (ended : v.control = .returned error)
    (silent : actions emitted = []) (closes : Closes trace w) : Closes (trace ++ emitted) v := by
  cases found : closing trace with
  | none => simp [Closes, found, draining] at closes
  | some before =>
    obtain ⟨phase, later⟩ := before
    simp only [Closes, found, draining] at closes
    simp only [Closes, closing_append, found, ended, ShutdownActions, closes.1, if_false,
      actions_append, silent, List.append_nil]
    by_cases queued : w.protocol.phase = .disconnectQueued <;> simp_all

theorem connect_closes (trace : List Obs) (w : World) (control : w.control = .connAcked)
    (closes : Closes trace w) : Closes (trace ++ w.connect.1) w.connect.2 := by
  refine closes_before trace _ w _ (by simp [control]) (by simp [control]) closes ?_ ?_
  · intro o member
    simp only [World.connect, List.mem_cons] at member
    rcases member with rfl | rfl | rfl | member
    · rfl
    · rfl
    · rfl
    · exact conclude_quiet _ (performAny_handling _ (some .publishDiscovery) none) o member
  · exact conclude_undrained _ _ (World.performAny_frame _ (some .publishDiscovery) none) (by simp)

theorem shutdown_closes (trace : List Obs) (w : World) (place : Place (connection trace) w)
    (control : w.control = .select) (closes : Closes trace w) :
    Closes (trace ++ w.gracefulShutdown.1) w.gracefulShutdown.2 := by
  have before := closing_before trace w (by simp [control]) (by simp [control]) closes
  cases up : w.client.up with
  | true =>
    obtain ⟨-, agrees, running, -⟩ := place_live _ w place control up
    exact gracefulShutdown_closes (connection trace) trace w agrees running before
  | false =>
    have phase := (place_down _ w place control up).phase
    simp [Closes, closing_append, before, World.gracefulShutdown, BootstrapMachine.shutdown, phase,
      World.stop, World.halt, closing, ShutdownActions, request?]

/-- Between two connections there is nothing to announce. -/
theorem dismissed_closes (trace : List Obs) (w : World) (place : Place (connection trace) w)
    (control : w.control = .retrying) (closes : Closes trace w) :
    Closes (trace ++ .shutdown w.protocol.phase :: w.stop.1) w.stop.2 := by
  have phase := (place_retrying _ w place control).2.phase
  have before := closing_before trace w (by simp [control]) (by simp [control]) closes
  simp [Closes, closing_append, before, phase, World.stop, World.halt, closing, ShutdownActions,
    request?]

theorem step_closes (rules : ClientRules) (trace : List Obs) (w : World) (i : Input)
    (emitted : List Obs) (v : World) (ordered : Ordered rules trace w)
    (benign : rules.keeps = (fun _ => false) ∨ unmistaken w i = true) (closes : Closes trace w)
    (taken : step rules w i = some (emitted, v)) : Closes (trace ++ emitted) v := by
  cases step_taken rules w i emitted v taken with
  | replaceState message | request | signal | transmit position id r found may =>
    exact closes_quiet trace _ w _ rfl rfl (by simp [Obs.isShutdown]) rfl closes
  | receive id up => exact closes_quiet trace _ w _ rfl rfl (by simp [Obs.isShutdown]) rfl closes
  | ping up => exact closes_quiet trace _ w _ rfl rfl (by simp) rfl closes
  | accepted control down =>
    exact closes_before trace _ w _ (by simp [control]) (by simp [control]) closes
      (by simp [Obs.isShutdown]) (by simp)
  | refused code refuses control down =>
    apply closes_before trace _ w _ (by simp [control]) (by simp [control]) closes
    · intro o member
      rcases List.mem_cons.mp member with rfl | member
      · rfl
      · exact turn_quiet _ _ o member
    · exact turn_undrained w _ (by simp [control])
  | connect control => exact connect_closes trace w control closes
  | polled b rest up events control =>
    apply closes_before trace _ w _ (by simp [control]) (by simp [control]) closes
    · intro o member
      rcases List.mem_cons.mp member with rfl | member
      · rfl
      · exact turn_quiet _ _ o member
    · exact turn_undrained (w.pop rest) _ (by simp [World.pop, control])
  | drained b rest up events control =>
    obtain ⟨-, tracked, agrees, draining⟩ := place_draining _ w ordered.place control
    apply drain_closes _ trace w b rest control tracked agrees draining rules ordered.leftovers
      events _ closes
    exact unmistaken_head rules w b rest ordered.leftovers events benign
  | failed kept among keeps control =>
    exact closes_before trace _ w _ (by simp [control]) (by simp [control]) closes
      (by simp [World.connectionFailed, Obs.isShutdown]) (by simp [World.connectionFailed])
  | abandoned kept control => exact closes_stop trace _ w _ none control rfl rfl closes
  | state control accepts changed =>
    apply closes_before trace _ w _ (by simp [control]) (by simp [control]) closes
    · exact conclude_quiet _
        (andThen_handling _ _ (publishCurrentState_handling w) finishTurn_handling)
    · exact conclude_undrained w _ (World.andThen_frame _ _ _
        (World.publishCurrentState_frame w) World.finishTurn_frame) (by simp [control])
  | shutdown control => exact shutdown_closes trace w ordered.place control closes
  | dismissed control => exact dismissed_closes trace w ordered.place control closes
  | retry control =>
    apply closes_before trace _ w _ (by simp [control]) (by simp [control]) closes
    · exact conclude_quiet _ (finishTurn_handling _)
    · exact conclude_undrained { w with control := .select } _ (World.finishTurn_frame _) (by simp)
  | timeout control => exact closes_stop trace _ w _ none control rfl rfl closes

end RpiHealth
