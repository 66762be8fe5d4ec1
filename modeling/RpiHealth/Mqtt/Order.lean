import RpiHealth.Mqtt.Agreement

/-! Bootstrap order on the wire: every handler keeps the agreement between the
phase and the connection, whatever the client returns. -/
namespace RpiHealth
open Machines

def Buffered.isStale : Buffered → Bool
  | .stale _ => true
  | _ => false

/-- The events that can be left over: nothing is buffered after a Disconnect. -/
def Event.isOrdinary : Event → Bool
  | .outgoing (.publish _) | .incoming (.pubAck _) | .incoming .other => true
  | _ => false

/-- The phase would take this event for one of its own connection. -/
def BootstrapMachine.misattributes (m : BootstrapMachine) : Event → Bool
  | .outgoing (.publish id) =>
    match m.phase with
    | .discoveryQueued => decide (id ≠ 0)
    | .shutdownAwaitOfflineOutgoing _ => true
    | _ => false
  | _ => false

/-- No leftover event is returned in a phase that takes it for its own. -/
def unmistaken (w : World) : Input → Bool
  | .poll =>
    match w.client.events with
    | .stale e :: _ => !w.protocol.misattributes e
    | _ => true
  | _ => true

def StaleFirst (events : List Buffered) : Prop :=
  events.Pairwise (fun a b => b.isStale = true → a.isStale = true)

theorem tracked_append (c d : List Obs) (client : Client) (quiet : requests d = [])
    (unsent : transmitted d = []) (tracked : Tracked c client) : Tracked (c ++ d) client where
  fifo := by simpa [quiet, unsent] using tracked.fifo
  sent r id member := by simp [tracked.sent r id member]
  ids := tracked.ids
  leftover e member := by simpa [quiet] using tracked.leftover e member

/-- Returning an event: what was unreported stays so, but for a sent request. -/
theorem tracked_pop (c : List Obs) (client : Client) (b : Buffered) (rest : List Buffered)
    (tracked : Tracked c client) (events : client.events = b :: rest)
    (staleFirst : StaleFirst client.events) :
    Tracked (c ++ [.polled b]) { client with events := rest } where
  fifo := by simpa [request?, transmission?] using tracked.fifo
  sent r id member := by simp [tracked.sent r id (by simp [events, member])]
  ids r id member := tracked.ids r id (by simp [events, member])
  leftover e member := by
    rw [StaleFirst, events, List.pairwise_cons] at staleFirst
    have older := staleFirst.1 _ member rfl
    have whole := tracked.leftover e (by simp [events, member])
    rw [unreported_pop client b rest events] at whole
    cases b with
    | stale old => simpa [Buffered.request?, request?] using whole
    | _ => simp [Buffered.isStale] at older

theorem tracked_request (c : List Obs) (client : Client) (r : Submission)
    (tracked : Tracked c client) :
    Tracked (c ++ [.requested r]) { client with queue := client.queue ++ [r] } where
  fifo := by simp [tracked.fifo, transmission?]
  sent s id member := by simp [tracked.sent s id member]
  ids := tracked.ids
  leftover e member := by
    have whole := tracked.leftover e member
    simp only [Client.unreported] at whole
    simp [Client.unreported, ← whole]

theorem tracked_buffer (c : List Obs) (client : Client) (b : Buffered)
    (own : b.isStale = false) (silent : b.request? = none) (tracked : Tracked c client) :
    Tracked c { client with events := client.events ++ [b] } where
  fifo := tracked.fifo
  sent r id member := by
    rcases List.mem_append.mp member with member | member
    · exact tracked.sent r id member
    · cases b <;> simp_all [Buffered.request?]
  ids r id member := by
    rcases List.mem_append.mp member with member | member
    · exact tracked.ids r id member
    · cases b <;> simp_all [Buffered.request?]
  leftover e member := by
    have earlier : .stale e ∈ client.events := by
      cases b <;> simp_all [Buffered.isStale]
    simpa [Client.unreported, silent] using tracked.leftover e earlier

theorem tracked_transmit (c : List Obs) (client : Client) (r : Submission) (id : PacketId)
    (later : List Submission) (queue : client.queue = r :: later)
    (ids : r.action ≠ .disconnect → (id = 0 ↔ r.action = .publishState))
    (tracked : Tracked c client) :
    Tracked (c ++ [.transmitted r id])
      { client with queue := later, events := client.events ++ [.sent r id] } where
  fifo := by simp [tracked.fifo, queue, request?]
  sent s sid member := by
    rcases List.mem_append.mp member with member | member
    · simp [tracked.sent s sid member]
    · obtain ⟨rfl, rfl⟩ : s = r ∧ sid = id := by simpa using member
      simp
  ids s sid member := by
    rcases List.mem_append.mp member with member | member
    · exact tracked.ids s sid member
    · obtain ⟨rfl, rfl⟩ : s = r ∧ sid = id := by simpa using member
      exact ids
  leftover e member := by
    have earlier : .stale e ∈ client.events := by simpa using member
    simpa [Client.unreported, queue, Buffered.request?, request?] using
      tracked.leftover e earlier

/-- A handler that went through, observed in order, with its connection tracked. -/
structure Kept (c : List Obs) (out : Outcome) : Prop where
  error : out.error = none
  unmarked : ∀ o ∈ out.emitted, isConnected o = false
  meets : Meets InOrder c out.emitted
  tracked : Tracked (c ++ out.emitted) out.world.client
  agrees : PhaseAgrees (c ++ out.emitted) (out.world.client.unreported.map (·.action))
    out.world.protocol.phase

theorem kept_andThen (c : List Obs) (first : Outcome) (next : World → Outcome)
    (kept : Kept c first) (later : Kept (c ++ first.emitted) (next first.world)) :
    Kept c (first.andThen next) := by
  have whole : first.andThen next =
      ⟨first.emitted ++ (next first.world).emitted, (next first.world).world,
        (next first.world).error⟩ := by
    simp [Outcome.andThen, kept.error]
  rw [whole]
  exact {
    error := later.error
    unmarked := by
      intro o member
      rcases List.mem_append.mp member with member | member
      · exact kept.unmarked o member
      · exact later.unmarked o member
    meets := (meets_append _ _ _ _).mpr ⟨kept.meets, later.meets⟩
    tracked := by simpa using later.tracked
    agrees := by simpa using later.agrees }

theorem performAny_kept (c : List Obs) (w : World) (action : Option ProtocolAction)
    (message : Option StateMessage) (tracked : Tracked c w.client)
    (room : w.client.queue.length < REQUEST_CHANNEL_CAPACITY)
    (reacts : Reacts c (w.client.unreported.map (·.action)) message (w.protocol, action)) :
    Kept c (w.performAny action message) := by
  cases action with
  | none => exact ⟨rfl, by simp [World.performAny], True.intro, by simpa [World.performAny],
      by simpa [World.performAny, Reacts] using reacts⟩
  | some action =>
    simp only [World.performAny, World.perform, if_pos room]
    exact {
      error := rfl
      unmarked := by simp [isConnected]
      meets := ⟨reacts.1, True.intro⟩
      tracked := tracked_request c w.client _ tracked
      agrees := by simpa [Client.unreported] using reacts.2 }

theorem reaction_reacts (c : List Obs) (w : World) (b : Buffered) (rest : List Buffered)
    (tracked : Tracked c w.client)
    (agrees : PhaseAgrees c (w.client.unreported.map (·.action)) w.protocol.phase)
    (events : w.client.events = b :: rest) (running : b.event ≠ .outgoing .disconnect)
    (ordinary : ∀ e, b = .stale e → e.isOrdinary = true ∧ w.protocol.misattributes e = false) :
    Reacts (c ++ [.polled b])
      ((({ w.client with events := rest } : Client).unreported).map (·.action)) none
      (w.protocol.reaction b.event) := by
  have popped := unreported_pop w.client b rest events
  rw [popped] at agrees
  have still := phaseAgrees_append c [.polled b] _ _ rfl agrees
  cases b with
  | sent r id =>
    have published : r.action ≠ .disconnect := by
      intro stops
      simp [Buffered.event, stops] at running
    have member := tracked.sent r id (by simp [events])
    have ids := tracked.ids r id (by simp [events]) published
    simpa [Buffered.event, published, BootstrapMachine.reaction] using
      outgoingPublish_reacts w.protocol _ r id _ still (by simp [member]) published ids
  | ack id => exact publishAcknowledged_reacts w.protocol c _ (.ack id) id agrees rfl
  | quiet => exact still
  | stale e =>
    obtain ⟨usual, unmistaken⟩ := ordinary e rfl
    have whole := tracked.leftover e (by simp [events])
    have early : w.protocol.phase = .discoveryQueued ∨
        w.protocol.phase = .shutdownAwaitOfflineOutgoing true := by
      rw [← popped, whole] at agrees
      exact phaseAgrees_unreported c _ agrees
    -- nothing of this connection was reported, so the machine lets the event pass
    have passed : w.protocol.reaction e = (w.protocol, none) := by
      cases e with
      | incoming packet =>
        cases packet with
        | pubAck id =>
          rcases w.protocol.publishAcknowledged_cases id with
            ⟨phase, -⟩ | ⟨phase, -⟩ | ⟨phase, -⟩ | same
          · simp [phase] at early
          · simp [phase] at early
          · simp [phase] at early
          · exact same
        | _ => rfl
      | outgoing packet =>
        cases packet with
        | publish id =>
          rcases early with phase | phase
          · have zero : id = 0 := by
              simpa [BootstrapMachine.misattributes, phase] using unmistaken
            simp [BootstrapMachine.reaction, BootstrapMachine.outgoingPublish, phase, zero]
          · simp [BootstrapMachine.misattributes, phase] at unmistaken
        | disconnect => simp [Event.isOrdinary] at usual
        | other => rfl
    simpa [Buffered.event, passed, Reacts, Buffered.request?] using still

theorem handleEvent_kept (c : List Obs) (w : World) (b : Buffered) (rest : List Buffered)
    (tracked : Tracked c w.client)
    (agrees : PhaseAgrees c (w.client.unreported.map (·.action)) w.protocol.phase)
    (events : w.client.events = b :: rest) (staleFirst : StaleFirst w.client.events)
    (running : b.event ≠ .outgoing .disconnect)
    (ordinary : ∀ e, b = .stale e → e.isOrdinary = true ∧ w.protocol.misattributes e = false) :
    Kept (c ++ [.polled b]) ((w.pop rest).handleEvent b.event) := by
  apply performAny_kept
  · exact tracked_pop c w.client b rest tracked events staleFirst
  · have short := unreported_length c w.client w.protocol.phase agrees
    simp only [Client.unreported, List.length_append, REQUEST_CHANNEL_CAPACITY,
      World.pop] at short ⊢
    omega
  · exact reaction_reacts c w b rest tracked agrees events running ordinary

theorem publishCurrentState_kept (c : List Obs) (w : World) (tracked : Tracked c w.client)
    (agrees : PhaseAgrees c (w.client.unreported.map (·.action)) w.protocol.phase) :
    Kept c w.publishCurrentState := by
  cases value : w.states.value with
  | none =>
    simp only [World.publishCurrentState, value]
    exact ⟨rfl, by simp, True.intro, by simpa, by simpa⟩
  | some message =>
    simp only [World.publishCurrentState, value]
    have short := unreported_length c w.client w.protocol.phase agrees
    apply performAny_kept
    · exact tracked
    · simp only [Client.unreported, List.length_append, REQUEST_CHANNEL_CAPACITY] at short ⊢
      omega
    · refine stateAvailable_reacts w.protocol c _ message agrees ?_
      intro reported
      have empty : w.client.queue = [] := by
        have none := List.map_eq_nil_iff.mp reported
        exact (List.append_eq_nil_iff.mp none).2
      simpa [empty] using tracked.fifo

theorem finishTurn_kept (c : List Obs) (w : World) (tracked : Tracked c w.client)
    (agrees : PhaseAgrees c (w.client.unreported.map (·.action)) w.protocol.phase)
    (became : w.protocol.becameOnline = true → w.protocol.phase = .online) :
    Kept c w.finishTurn := by
  -- what the status reports is what the phase stands for
  have bootstrapped : w.protocol.phase = .online → Bootstrapped c := by
    intro phase
    rw [phase] at agrees
    obtain ⟨reported, states, acked⟩ := agrees
    have empty : w.client.queue = [] := by
      have none := List.map_eq_nil_iff.mp reported
      exact (List.append_eq_nil_iff.mp none).2
    exact ⟨states, acked.1, acked.2, by simpa [empty] using tracked.fifo⟩
  have reporting : w.protocol.phase = .online → ∀ v : World, v.client = w.client →
      v.protocol.phase = w.protocol.phase → Kept c ⟨[.reported .online], v, none⟩ := by
    intro phase v client protocol
    exact {
      error := rfl
      unmarked := by simp [isConnected]
      meets := ⟨bootstrapped phase, True.intro⟩
      tracked := by
        rw [client]
        exact tracked_append c _ w.client rfl rfl tracked
      agrees := by
        rw [client, protocol]
        exact phaseAgrees_append c _ _ _ rfl agrees }
  unfold World.finishTurn
  cases flag : w.protocol.becameOnline with
  | true =>
    have phase := became flag
    have report := reporting phase
      { w with protocol := w.protocol.justBecameOnline.1, status := .online } rfl rfl
    simp only [BootstrapMachine.justBecameOnline, flag, if_true]
    exact kept_andThen c _ _ report
      (publishCurrentState_kept _ _ report.tracked report.agrees)
  | false =>
    simp only [BootstrapMachine.justBecameOnline, flag, Bool.false_eq_true, if_false]
    split
    · rename_i online
      exact reporting (by simpa [BootstrapMachine.isOnline] using online) _ rfl rfl
    · exact ⟨rfl, by simp, True.intro, by simpa, by simpa⟩

/-- Where the loop stands, and what its connection looks like from there. -/
inductive Place (c : List Obs) (w : World) : Prop
  | live (control : w.control = .select) (up : w.client.up = true) (tracked : Tracked c w.client)
      (agrees : PhaseAgrees c (w.client.unreported.map (·.action)) w.protocol.phase)
      (running : w.protocol.phase.isShutdown = false)
      (settled : w.protocol.becameOnline = false)
  | draining (control : w.control = .draining) (up : w.client.up = true)
      (tracked : Tracked c w.client)
      (agrees : PhaseAgrees c (w.client.unreported.map (·.action)) w.protocol.phase)
      (closing : w.protocol.phase.isShutdown = true)
  | idle (control : w.control = .select ∧ w.client.up = false ∨
        w.control = .connAcked ∧ w.client.up = true ∨ w.control = .retrying ∧ w.client.up = false)
      (queue : w.client.queue = []) (silent : ∀ r id, .sent r id ∉ w.client.events)
      (phase : w.protocol.phase = .disconnected) (settled : w.protocol.becameOnline = false)
  | ended (error : Option MqttError) (control : w.control = .returned error)
      (client : w.client = {})

/-- No connection is in use. -/
structure Unconnected (w : World) : Prop where
  queue : w.client.queue = []
  silent : ∀ r id, .sent r id ∉ w.client.events
  phase : w.protocol.phase = .disconnected
  settled : w.protocol.becameOnline = false

section Place

variable (c : List Obs) (w : World) (place : Place c w)
include place

theorem place_live (control : w.control = .select) (up : w.client.up = true) :
    Tracked c w.client ∧ PhaseAgrees c (w.client.unreported.map (·.action)) w.protocol.phase ∧
      w.protocol.phase.isShutdown = false ∧ w.protocol.becameOnline = false := by
  cases place with
  | live _ _ tracked agrees running settled => exact ⟨tracked, agrees, running, settled⟩
  | draining here => simp [here] at control
  | ended error here => simp [here] at control
  | idle here =>
    rcases here with ⟨-, down⟩ | ⟨other, -⟩ | ⟨other, -⟩
    · simp [up] at down
    · simp [control] at other
    · simp [control] at other

theorem place_draining (control : w.control = .draining) :
    w.client.up = true ∧ Tracked c w.client ∧
      PhaseAgrees c (w.client.unreported.map (·.action)) w.protocol.phase ∧
      w.protocol.phase.isShutdown = true := by
  cases place with
  | live here => simp [here] at control
  | draining _ up tracked agrees closing => exact ⟨up, tracked, agrees, closing⟩
  | ended error here => simp [here] at control
  | idle here => rcases here with ⟨here, -⟩ | ⟨here, -⟩ | ⟨here, -⟩ <;> simp [here] at control

theorem place_down (control : w.control = .select) (down : w.client.up = false) :
    Unconnected w := by
  cases place with
  | live _ up => simp [up] at down
  | draining here => simp [here] at control
  | ended error here => simp [here] at control
  | idle _ queue silent phase settled => exact ⟨queue, silent, phase, settled⟩

theorem place_connAcked (control : w.control = .connAcked) :
    w.client.up = true ∧ Unconnected w := by
  cases place with
  | live here => simp [here] at control
  | draining here => simp [here] at control
  | ended error here => simp [here] at control
  | idle here queue silent phase settled =>
    rcases here with ⟨other, -⟩ | ⟨-, up⟩ | ⟨other, -⟩
    · simp [control] at other
    · exact ⟨up, queue, silent, phase, settled⟩
    · simp [control] at other

theorem place_retrying (control : w.control = .retrying) :
    w.client.up = false ∧ Unconnected w := by
  cases place with
  | live here => simp [here] at control
  | draining here => simp [here] at control
  | ended error here => simp [here] at control
  | idle here queue silent phase settled =>
    rcases here with ⟨other, -⟩ | ⟨other, -⟩ | ⟨-, down⟩
    · simp [control] at other
    · simp [control] at other
    · exact ⟨down, queue, silent, phase, settled⟩

/-- A machine that listens to states has a connection in use. -/
theorem place_listening (control : w.control = .select)
    (accepts : w.protocol.acceptsState = true) : w.client.up = true := by
  by_contra down
  have unconnected := place_down c w place control (by simpa using down)
  simp [BootstrapMachine.acceptsState, unconnected.phase] at accepts

end Place

/-- Leftover events come first, and only those that the rules let through. -/
def Leftovers (rules : ClientRules) (events : List Buffered) : Prop :=
  StaleFirst events ∧ ∀ e, .stale e ∈ events → e.isOrdinary = true ∧ rules.keeps e = true

/-- One step's observations and what it leaves behind. -/
structure Sound (rules : ClientRules) (c : List Obs) (result : List Obs × World) : Prop where
  unmarked : ∀ o ∈ result.1, isConnected o = false
  meets : Meets InOrder c result.1
  place : Place (c ++ result.1) result.2
  leftovers : Leftovers rules result.2.client.events

structure Ordered (rules : ClientRules) (trace : List Obs) (w : World) : Prop where
  guarded : Guarded (fun before o => InOrder (connection before) o) trace
  place : Place (connection trace) w
  leftovers : Leftovers rules w.client.events

theorem ordered_of_sound (rules : ClientRules) (trace : List Obs) (result : List Obs × World)
    (guarded : Guarded (fun before o => InOrder (connection before) o) trace)
    (sound : Sound rules (connection trace) result) :
    Ordered rules (trace ++ result.1) result.2 where
  guarded := (guarded_append _ _ _).mpr
    ⟨guarded, meets_since isConnected InOrder trace result.1 sound.unmarked sound.meets⟩
  place := by
    rw [connection, since_append isConnected trace result.1 sound.unmarked]
    exact sound.place
  leftovers := sound.leftovers

theorem leftovers_pop (rules : ClientRules) (b : Buffered) (rest : List Buffered)
    (leftovers : Leftovers rules (b :: rest)) : Leftovers rules rest :=
  ⟨(List.pairwise_cons.mp leftovers.1).2, fun e member => leftovers.2 e (by simp [member])⟩

theorem leftovers_snoc (rules : ClientRules) (events : List Buffered) (b : Buffered)
    (own : b.isStale = false) (leftovers : Leftovers rules events) :
    Leftovers rules (events ++ [b]) := by
  refine ⟨List.pairwise_append.mpr ⟨leftovers.1, by simp, ?_⟩, ?_⟩
  · intro a _ last member stale
    obtain rfl : last = b := by simpa using member
    simp [own] at stale
  · intro e member
    rcases List.mem_append.mp member with member | member
    · exact leftovers.2 e member
    · obtain rfl : .stale e = b := by simpa using member
      simp [Buffered.isStale] at own

/-- Observations that say nothing about requests change no place. -/
theorem place_quiet (c d : List Obs) (w v : World) (quiet : requests d = [])
    (unsent : transmitted d = []) (client : v.client = w.client)
    (control : v.control = w.control) (protocol : v.protocol = w.protocol) (place : Place c w) :
    Place (c ++ d) v := by
  have still : ∀ pending phase, PhaseAgrees c pending phase → PhaseAgrees (c ++ d) pending phase :=
    fun pending phase => phaseAgrees_append c d pending phase (by simp [actions, quiet])
  cases place with
  | live here up tracked agrees running settled =>
    exact .live (control.trans here) (client ▸ up)
      (client ▸ tracked_append c d _ quiet unsent tracked)
      (by rw [client, protocol]; exact still _ _ agrees) (protocol ▸ running) (protocol ▸ settled)
  | draining here up tracked agrees closing =>
    exact .draining (control.trans here) (client ▸ up)
      (client ▸ tracked_append c d _ quiet unsent tracked)
      (by rw [client, protocol]; exact still _ _ agrees) (protocol ▸ closing)
  | idle here queue silent phase settled =>
    exact .idle (by rw [control, client]; exact here) (client ▸ queue) (client ▸ silent)
      (protocol ▸ phase) (protocol ▸ settled)
  | ended error here empty => exact .ended error (control.trans here) (client.trans empty)

theorem conclude_kept (c : List Obs) (out : Outcome) (kept : Kept c out) :
    World.conclude out = (out.emitted, out.world) := by
  simp [World.conclude, kept.error]

/-- A handler that went through in the select loop. -/
theorem sound_of_kept (rules : ClientRules) (c : List Obs) (w : World) (out : Outcome)
    (kept : Kept c out) (frame : Frame w out.world) (control : w.control = .select)
    (up : w.client.up = true) (running : out.world.protocol.phase.isShutdown = false)
    (settled : out.world.protocol.becameOnline = false)
    (leftovers : Leftovers rules w.client.events) :
    Sound rules c (World.conclude out) := by
  rw [conclude_kept c out kept]
  exact {
    unmarked := kept.unmarked
    meets := kept.meets
    place := .live (frame.control.trans control) (frame.up.trans up) kept.tracked kept.agrees
      running settled
    leftovers := by
      rw [frame.events]
      exact leftovers }

theorem stop_sound (rules : ClientRules) (c : List Obs) (w : World) : Sound rules c w.stop where
  unmarked := by simp [World.stop, isConnected]
  meets := by simp [World.stop, Meets, InOrder]
  place := .ended none rfl rfl
  leftovers := by simp [World.stop, World.halt, Leftovers, StaleFirst]

theorem sound_cons (rules : ClientRules) (c : List Obs) (o : Obs) (result : List Obs × World)
    (unmarked : isConnected o = false) (met : InOrder c o)
    (sound : Sound rules (c ++ [o]) result) : Sound rules c (o :: result.1, result.2) where
  unmarked a member := by
    rcases List.mem_cons.mp member with rfl | member
    · exact unmarked
    · exact sound.unmarked a member
  meets := ⟨met, sound.meets⟩
  place := by simpa using sound.place
  leftovers := sound.leftovers

theorem disconnect_not_pending (c : List Obs) (pending : List ProtocolAction) (phase : Phase)
    (agrees : PhaseAgrees c pending phase) (running : phase.isShutdown = false) :
    .disconnect ∉ pending := by
  cases phase with
  | disconnected | stopped => exact agrees.elim
  | shutdownAwaitOfflineOutgoing _ | shutdownAwaitOfflineAck _ | disconnectQueued =>
    simp [Phase.isShutdown] at running
  | _ => simp [agrees.1]

/-- Before shutdown no Disconnect was requested, so none is buffered. -/
theorem events_ordinary (rules : ClientRules) (c : List Obs) (client : Client) (phase : Phase)
    (agrees : PhaseAgrees c (client.unreported.map (·.action)) phase)
    (running : phase.isShutdown = false) (leftovers : Leftovers rules client.events)
    (b : Buffered) (member : b ∈ client.events) : b.event.isOrdinary = true := by
  cases b with
  | sent r id =>
    have pending : r.action ∈ client.unreported.map (·.action) := by
      refine List.mem_map_of_mem (List.mem_append_left _ ?_)
      exact List.mem_filterMap.mpr ⟨_, member, rfl⟩
    have published : r.action ≠ .disconnect := by
      intro stops
      exact disconnect_not_pending c _ phase agrees running (stops ▸ pending)
    simp [Buffered.event, published, Event.isOrdinary]
  | ack id => rfl
  | quiet => rfl
  | stale e => exact (leftovers.2 e member).1

theorem turn_sound (rules : ClientRules) (c : List Obs) (w : World) (b : Buffered)
    (rest : List Buffered) (control : w.control = .select) (up : w.client.up = true)
    (tracked : Tracked c w.client)
    (agrees : PhaseAgrees c (w.client.unreported.map (·.action)) w.protocol.phase)
    (running : w.protocol.phase.isShutdown = false) (settled : w.protocol.becameOnline = false)
    (leftovers : Leftovers rules w.client.events) (events : w.client.events = b :: rest)
    (unmistaken : ∀ e, b = .stale e → w.protocol.misattributes e = false) :
    Sound rules (c ++ [.polled b]) ((w.pop rest).turn b.event) := by
  have ordinary : ∀ e, b = .stale e → e.isOrdinary = true := fun e stale =>
    (leftovers.2 e (by simp [events, stale])).1
  have goes : b.event ≠ .outgoing .disconnect := by
    intro stops
    have usual := events_ordinary rules c w.client w.protocol.phase agrees running leftovers b
      (by simp [events])
    simp [stops, Event.isOrdinary] at usual
  have first := handleEvent_kept c w b rest tracked agrees events leftovers.1 goes
    (fun e stale => ⟨ordinary e stale, unmistaken e stale⟩)
  have second := finishTurn_kept _ _ first.tracked first.agrees (by
    rw [World.handleEvent_protocol]
    exact BootstrapMachine.reaction_becameOnline _ _ settled)
  have whole := kept_andThen _ _ World.finishTurn first second
  refine sound_of_kept rules _ (w.pop rest) _ whole
    (World.andThen_frame _ _ _ (World.handleEvent_frame _ _) World.finishTurn_frame) control up
    ?_ ?_ (leftovers_pop rules b rest (events ▸ leftovers))
  · rw [andThen_world _ _ first.error, World.finishTurn_isShutdown, World.handleEvent_protocol,
      BootstrapMachine.reaction_isShutdown _ _ goes]
    exact running
  · rw [andThen_world _ _ first.error]
    exact World.finishTurn_becameOnline _

/-- A Disconnect that was sent ends the shutdown sequence. -/
theorem drain_disconnect (w : World) :
    w.drain (.outgoing .disconnect) =
      ((w.handleEvent (.outgoing .disconnect)).world.stop.1,
        (w.handleEvent (.outgoing .disconnect)).world.stop.2) := by
  simp [World.drain, World.handleEvent, BootstrapMachine.reaction, BootstrapMachine.disconnected,
    World.performAny]

/-- Any other event leaves the machine in the shutdown sequence. -/
theorem drain_kept (c : List Obs) (w : World) (event : Event) (kept : Kept c (w.handleEvent event))
    (goes : event ≠ .outgoing .disconnect) :
    w.drain event = ((w.handleEvent event).emitted, (w.handleEvent event).world) := by
  have running : (w.protocol.reaction event).1.isStopped = false := by
    simp only [BootstrapMachine.isStopped, decide_eq_false_iff_not]
    intro stopped
    have impossible := kept.agrees
    rw [World.handleEvent_protocol, stopped] at impossible
    exact impossible
  rw [← conclude_kept c _ kept]
  simp [World.drain, goes, running]

theorem drain_sound (rules : ClientRules) (c : List Obs) (w : World) (b : Buffered)
    (rest : List Buffered) (control : w.control = .draining) (up : w.client.up = true)
    (tracked : Tracked c w.client)
    (agrees : PhaseAgrees c (w.client.unreported.map (·.action)) w.protocol.phase)
    (closing : w.protocol.phase.isShutdown = true)
    (leftovers : Leftovers rules w.client.events) (events : w.client.events = b :: rest)
    (unmistaken : ∀ e, b = .stale e → w.protocol.misattributes e = false) :
    Sound rules (c ++ [.polled b]) ((w.pop rest).drain b.event) := by
  by_cases stops : b.event = .outgoing .disconnect
  · rw [stops, drain_disconnect]
    exact stop_sound rules _ _
  · have kept := handleEvent_kept c w b rest tracked agrees events leftovers.1 stops
      (fun e stale => ⟨(leftovers.2 e (by simp [events, stale])).1, unmistaken e stale⟩)
    have frame := World.handleEvent_frame (w.pop rest) b.event
    rw [drain_kept _ _ _ kept stops]
    exact {
      unmarked := kept.unmarked
      meets := kept.meets
      place := .draining (frame.control.trans control) (frame.up.trans up) kept.tracked
        kept.agrees (by
          rw [World.handleEvent_protocol, BootstrapMachine.reaction_isShutdown _ _ stops]
          exact closing)
      leftovers := by
        rw [frame.events]
        exact leftovers_pop rules b rest (events ▸ leftovers) }

theorem stateTurn_sound (rules : ClientRules) (c : List Obs) (w : World)
    (control : w.control = .select) (up : w.client.up = true) (tracked : Tracked c w.client)
    (agrees : PhaseAgrees c (w.client.unreported.map (·.action)) w.protocol.phase)
    (running : w.protocol.phase.isShutdown = false) (settled : w.protocol.becameOnline = false)
    (leftovers : Leftovers rules w.client.events) : Sound rules c w.stateTurn := by
  have first := publishCurrentState_kept c w tracked agrees
  have second := finishTurn_kept _ _ first.tracked first.agrees (by
    intro became
    rw [World.publishCurrentState_becameOnline w settled] at became
    contradiction)
  refine sound_of_kept rules c w _ (kept_andThen _ _ World.finishTurn first second)
    (World.andThen_frame _ _ _ (World.publishCurrentState_frame w) World.finishTurn_frame)
    control up ?_ ?_ leftovers
  · rw [andThen_world _ _ first.error, World.finishTurn_isShutdown,
      World.publishCurrentState_isShutdown]
    exact running
  · rw [andThen_world _ _ first.error]
    exact World.finishTurn_becameOnline _

/-- Without a bootstrap the end of a turn does nothing. -/
theorem finishTurn_idle (w : World) (phase : w.protocol.phase = .disconnected)
    (settled : w.protocol.becameOnline = false) : w.finishTurn = ⟨[], w, none⟩ := by
  obtain ⟨settings, payload, control, ⟨here, required, last, queued, became⟩⟩ := w
  obtain rfl : here = .disconnected := phase
  obtain rfl : became = false := settled
  rfl

/-- Without a connection a turn on a refusal does nothing. -/
theorem turn_idle (w : World) (code : ConnectReturnCode)
    (phase : w.protocol.phase = .disconnected) (settled : w.protocol.becameOnline = false) :
    w.turn (.incoming (.connAck code)) = ([], w) := by
  have passed : w.handleEvent (.incoming (.connAck code)) = ⟨[], w, none⟩ := rfl
  simp [World.turn, passed, Outcome.andThen, finishTurn_idle w phase settled, World.conclude]

theorem retry_idle (w : World) (phase : w.protocol.phase = .disconnected)
    (settled : w.protocol.becameOnline = false) :
    World.conclude ({ w with control := .select } : World).finishTurn =
      ([], { w with control := .select }) := by
  rw [finishTurn_idle { w with control := .select } phase settled]
  rfl

theorem gracefulShutdown_sound (rules : ClientRules) (c : List Obs) (w : World)
    (up : w.client.up = true) (tracked : Tracked c w.client)
    (agrees : PhaseAgrees c (w.client.unreported.map (·.action)) w.protocol.phase)
    (running : w.protocol.phase.isShutdown = false)
    (leftovers : Leftovers rules w.client.events) : Sound rules c w.gracefulShutdown := by
  let marks : List Obs := [.shutdown w.protocol.phase, .reported .shuttingDown]
  have agrees' := phaseAgrees_append c marks _ _ rfl agrees
  have closed : HasShutdown (c ++ marks) := ⟨w.protocol.phase, by simp [marks]⟩
  obtain ⟨asked, reacts⟩ := shutdown_reacts w.protocol (c ++ marks) _ agrees' running closed
  let v : World := { w with
    protocol := w.protocol.shutdown.1, status := .shuttingDown, control := .draining }
  have short := unreported_length c w.client w.protocol.phase agrees
  have kept : Kept (c ++ marks) (v.performAny w.protocol.shutdown.2 none) := by
    apply performAny_kept
    · exact tracked_append c marks w.client rfl rfl tracked
    · simp only [Client.unreported, List.length_append, REQUEST_CHANNEL_CAPACITY, v] at short ⊢
      omega
    · exact reacts
  have closing : w.protocol.shutdown.1.phase.isShutdown = true := by
    cases phase : w.protocol.phase <;>
      simp_all [BootstrapMachine.shutdown, Phase.isShutdown]
  have frame := World.performAny_frame v w.protocol.shutdown.2 none
  have whole : w.gracefulShutdown = (marks ++ (v.performAny w.protocol.shutdown.2 none).emitted,
      (v.performAny w.protocol.shutdown.2 none).world) := by
    have concluded := conclude_kept _ _ kept
    rw [asked] at concluded ⊢
    simp only [World.gracefulShutdown, asked, marks, v] at concluded ⊢
    simp only [World.performAny] at concluded
    rw [concluded]
    rfl
  rw [whole]
  exact {
    unmarked := by
      intro o member
      rcases List.mem_append.mp member with member | member
      · simp only [marks, List.mem_cons, List.not_mem_nil, or_false] at member
        rcases member with rfl | rfl <;> rfl
      · exact kept.unmarked o member
    meets := by
      refine (meets_append _ _ _ _).mpr ⟨?_, kept.meets⟩
      exact ⟨True.intro, True.intro, True.intro⟩
    place := .draining frame.control (frame.up.trans up) (by simpa using kept.tracked)
      (by simpa using kept.agrees) (by simpa [v] using closing)
    leftovers := by
      rw [frame.events]
      exact leftovers }

end RpiHealth
