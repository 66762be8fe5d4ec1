import RpiHealth.Mqtt.Answers

/-! The client's request channel never fills up. Each phase allows for a number of
unreported requests; a leftover event can move the machine ahead of what was sent, but
no further than the acknowledgements that are still to come. -/
namespace RpiHealth
open Machines

/-- How many requests a phase can have made whose sending was not reported. -/
def Phase.allowance : Phase → Nat
  | .disconnected | .discoveryAwaitAck _ | .onlineAwaitAck _ | .awaitFreshState | .online
  | .shutdownAwaitOfflineAck _ => 0
  | .discoveryQueued | .onlineQueued | .stateQueued | .shutdownAwaitOfflineOutgoing false
  | .disconnectQueued => 1
  | .shutdownAwaitOfflineOutgoing true | .stopped => 2

theorem allowance_le (phase : Phase) : phase.allowance ≤ 2 := by
  cases phase with
  | shutdownAwaitOfflineOutgoing skip => cases skip <;> simp [Phase.allowance]
  | _ => simp [Phase.allowance]

/-- The phases that leftover events can lead to, with what is unreported there. -/
def Ahead (reported : Prop) (pending : Nat) : Phase → Prop
  | .disconnected => pending = 0
  | .discoveryQueued | .discoveryAwaitAck _ => pending ≤ 1 ∧ (reported → pending = 0)
  | .shutdownAwaitOfflineOutgoing _ | .shutdownAwaitOfflineAck _ =>
    pending ≤ 2 ∧ (reported → pending ≤ 1)
  | .disconnectQueued | .stopped => pending ≤ 2
  | _ => False

/-- The phase goes with what is unreported: as it should, or ahead of it. -/
def Admits (c : List Obs) (events : List Buffered) (pending : Nat) (phase : Phase) : Prop :=
  Ahead (HasReported c) pending phase ∨ pending ≤ phase.allowance ∧ ∀ e, .stale e ∉ events

theorem admits_le (c : List Obs) (events : List Buffered) (pending : Nat) (phase : Phase)
    (admits : Admits c events pending phase) : pending ≤ 2 := by
  rcases admits with ahead | ⟨within, -⟩
  · cases phase <;> simp only [Ahead] at ahead <;> omega
  · exact within.trans (allowance_le phase)

/-- What is unreported once the request is made that a transition asks for. -/
def asking (pending : Nat) (action : Option ProtocolAction) : Nat :=
  pending + if action.isSome then 1 else 0

@[simp] theorem asking_none (pending : Nat) : asking pending none = pending := rfl

@[simp] theorem asking_some (pending : Nat) (action : ProtocolAction) :
    asking pending (some action) = pending + 1 := rfl

section Transitions

variable (m : BootstrapMachine) (c : List Obs) (events : List Buffered) (pending : Nat)

/-- An acknowledgement of this connection. -/
theorem publishAcknowledged_admits (id : PacketId) (reported : HasReported c)
    (own : ∀ e, .stale e ∉ events) (admits : Admits c events pending m.phase) :
    Admits c events (asking pending (m.publishAcknowledged id).2)
      (m.publishAcknowledged id).1.phase := by
  rcases m.publishAcknowledged_cases id with
    ⟨phase, taken⟩ | ⟨phase, taken⟩ | ⟨phase, taken⟩ | taken
  · rw [phase] at admits
    simp only [Admits, Ahead, Phase.allowance] at admits
    refine .inr ⟨?_, own⟩
    simp only [taken, asking_some, Phase.allowance]
    rcases admits with ⟨-, none⟩ | ⟨none, -⟩
    · rw [none reported]
    · omega
  · rw [phase] at admits
    simp only [Admits, Ahead, Phase.allowance, false_or] at admits
    rw [taken]
    exact .inr ⟨admits.1, own⟩
  · rw [phase] at admits
    simp only [Admits, Ahead, Phase.allowance] at admits
    refine .inl ?_
    simp only [taken, asking_some, Ahead]
    rcases admits with ⟨-, less⟩ | ⟨none, -⟩
    · have least := less reported
      omega
    · omega
  · rw [taken]
    exact admits

theorem ahead_reported (before after : Prop) (phase : Phase)
    (ahead : Ahead before (pending + 1) phase) : Ahead after pending phase := by
  cases phase <;> simp only [Ahead] at ahead ⊢ <;> omega

/-- The report of a request of this connection. -/
theorem outgoingPublish_admits (id : PacketId) (own : ∀ e, .stale e ∉ events) (d : List Obs)
    (earlier : List Buffered) (admits : Admits d earlier (pending + 1) m.phase) :
    Admits c events (asking pending (m.outgoingPublish id).2) (m.outgoingPublish id).1.phase := by
  obtain ⟨quiet, ⟨phase, -, taken⟩ | ⟨phase, -, taken⟩ | ⟨phase, -, taken⟩ | ⟨phase, taken⟩ |
    ⟨phase, -, taken⟩ | taken⟩ := m.outgoingPublish_cases id
  all_goals rw [quiet, taken, asking_none]
  iterate 4
    · rw [phase] at admits
      simp only [Admits, Ahead, Phase.allowance, false_or] at admits
      exact .inr ⟨by simp only [Phase.allowance]; omega, own⟩
  · rw [phase] at admits
    simp only [Admits, Ahead, Phase.allowance] at admits
    exact .inl ⟨by omega, fun _ => by omega⟩
  · rcases admits with ahead | ⟨within, -⟩
    · exact .inl (ahead_reported pending _ _ m.phase ahead)
    · exact .inr ⟨by omega, own⟩

/-- A leftover Outgoing event moves the machine on, and nothing was sent for it. -/
theorem outgoingPublish_ahead (id : PacketId) (reported : Prop)
    (ahead : Ahead reported pending m.phase) :
    Ahead reported (asking pending (m.outgoingPublish id).2) (m.outgoingPublish id).1.phase := by
  obtain ⟨quiet, ⟨phase, -, taken⟩ | ⟨phase, -, taken⟩ | ⟨phase, -, taken⟩ | ⟨phase, taken⟩ |
    ⟨phase, -, taken⟩ | taken⟩ := m.outgoingPublish_cases id <;>
    simp_all [Ahead]

theorem stateAvailable_admits (requestId : Nat) (admits : Admits c events pending m.phase) :
    Admits c events (asking pending (m.stateAvailable requestId).2)
      (m.stateAvailable requestId).1.phase := by
  rcases m.stateAvailable_cases requestId with ⟨⟨phase, -⟩ | ⟨phase, -⟩, taken⟩ | ⟨-, -, taken⟩ <;>
    simp_all [Admits, Ahead, Phase.allowance]

theorem shutdown_admits (admits : Admits c events pending m.phase) :
    Admits c events (asking pending m.shutdown.2) m.shutdown.1.phase := by
  rcases admits with ahead | ⟨within, own⟩
  · refine .inl ?_
    cases phase : m.phase <;> simp_all [BootstrapMachine.shutdown, Ahead]
  · refine .inr ⟨?_, own⟩
    have most := allowance_le m.phase
    cases phase : m.phase <;> simp_all [BootstrapMachine.shutdown, Phase.allowance]

/-- The identifier that the phase waits for. -/
def Phase.expected? : Phase → Option PacketId
  | .discoveryAwaitAck id | .onlineAwaitAck id | .shutdownAwaitOfflineAck id => some id
  | _ => none

/-- An identifier that is waited for was reported, if not as this connection's. -/
def Expects (c : List Obs) (phase : Phase) : Prop :=
  ∀ id, phase.expected? = some id → HasReported c ∨ .polled (.stale (.outgoing (.publish id))) ∈ c

theorem expects_append (d : List Obs) (phase : Phase) (expects : Expects c phase) :
    Expects (c ++ d) phase := fun id expected =>
  (expects id expected).imp (reported_append c d) (List.mem_append_left d)

theorem outgoingPublish_expected (id other : PacketId)
    (expected : (m.outgoingPublish id).1.phase.expected? = some other) :
    m.phase.expected? = some other ∨ other = id := by
  obtain ⟨-, ⟨phase, -, taken⟩ | ⟨phase, -, taken⟩ | ⟨phase, -, taken⟩ | ⟨phase, taken⟩ |
    ⟨phase, -, taken⟩ | taken⟩ := m.outgoingPublish_cases id <;>
    simp_all [Phase.expected?]

theorem stateAvailable_expected (requestId : Nat) (expects : Expects c m.phase) :
    Expects c (m.stateAvailable requestId).1.phase := by
  rcases m.stateAvailable_cases requestId with ⟨-, taken⟩ | ⟨-, -, taken⟩ <;> rw [taken]
  · simp [Expects, Phase.expected?]
  · exact expects

theorem shutdown_expected (expects : Expects c m.phase) : Expects c m.shutdown.1.phase := by
  cases phase : m.phase <;>
    simp_all [Expects, BootstrapMachine.shutdown, Phase.expected?]

end Transitions

/-- What the handlers keep of the machine and the channel. -/
structure Roomy (c : List Obs) (w : World) : Prop where
  within : Admits c w.client.events w.client.unreported.length w.protocol.phase
  expects : Expects c w.protocol.phase

theorem admits_congr (c d : List Obs) (events : List Buffered) (pending : Nat) (phase : Phase)
    (same : HasReported d ↔ HasReported c) (admits : Admits c events pending phase) :
    Admits d events pending phase := by
  rwa [Admits, same]

theorem admits_pop (c : List Obs) (b : Buffered) (rest : List Buffered) (pending : Nat)
    (phase : Phase) (admits : Admits c (b :: rest) pending phase) : Admits c rest pending phase :=
  admits.imp_right (And.imp_right fun own e member => own e (List.mem_cons_of_mem b member))

theorem roomy_quiet (c d : List Obs) (w : World) (quiet : Quiet d) (roomy : Roomy c w) :
    Roomy (c ++ d) w where
  within := admits_congr c _ _ _ _ (quiet_reported c d quiet) roomy.within
  expects := expects_append c d _ roomy.expects

theorem queue_length_le (c : List Obs) (w : World) (roomy : Roomy c w) :
    w.client.queue.length ≤ 2 := by
  have most := admits_le _ _ _ _ roomy.within
  simp only [Client.unreported, List.length_append] at most
  omega

/-- A leftover PubAck is for no identifier that the machine waits for. -/
theorem leftover_ignored (c : List Obs) (m : BootstrapMachine) (id : PacketId)
    (fresh : ¬ HasReported c) (expects : Expects c m.phase)
    (answers : Answers c (.polled (.stale (.incoming (.pubAck id))))) :
    m.publishAcknowledged id = (m, none) := by
  have other : m.phase.expected? ≠ some id := fun expected =>
    (expects id expected).elim fresh answers
  rcases m.publishAcknowledged_cases id with ⟨phase, -⟩ | ⟨phase, -⟩ | ⟨phase, -⟩ | same
  · simp [phase, Phase.expected?] at other
  · simp [phase, Phase.expected?] at other
  · simp [phase, Phase.expected?] at other
  · exact same

section Polled

variable (c : List Obs) (w : World) (b : Buffered) (rest : List Buffered)

theorem reaction_stale (e : Event) (tidy : Tidy c w.client.events) (roomy : Roomy c w)
    (events : w.client.events = .stale e :: rest) (answers : Answers c (.polled (.stale e))) :
    Admits (c ++ [.polled (.stale e)]) rest
        (asking w.client.unreported.length (w.protocol.reaction e).2)
        (w.protocol.reaction e).1.phase ∧
      Expects (c ++ [.polled (.stale e)]) (w.protocol.reaction e).1.phase := by
  have among : .stale e ∈ w.client.events := by simp [events]
  have fresh := tidy.unreported e among
  have same : HasReported (c ++ [.polled (.stale e)]) ↔ HasReported c := by simp [HasReported]
  have ahead : Ahead (HasReported c) w.client.unreported.length w.protocol.phase :=
    roomy.within.resolve_right fun settled => settled.2 e among
  have most := admits_le _ _ _ _ roomy.within
  have passed : w.protocol.reaction e = (w.protocol, none) →
      Admits (c ++ [.polled (.stale e)]) rest
          (asking w.client.unreported.length (w.protocol.reaction e).2)
          (w.protocol.reaction e).1.phase ∧
        Expects (c ++ [.polled (.stale e)]) (w.protocol.reaction e).1.phase := by
    intro unmoved
    rw [unmoved]
    exact ⟨admits_congr c _ _ _ _ same (.inl ahead), expects_append c _ _ roomy.expects⟩
  cases e with
  | incoming packet =>
    cases packet with
    | pubAck id => exact passed (leftover_ignored c w.protocol id fresh roomy.expects answers)
    | _ => exact passed rfl
  | outgoing packet =>
    cases packet with
    | publish id =>
      refine ⟨admits_congr c _ _ _ _ same
        (.inl (outgoingPublish_ahead w.protocol _ id _ ahead)), fun other expected => ?_⟩
      rcases outgoingPublish_expected w.protocol id other expected with before | rfl
      · exact expects_append c _ _ roomy.expects other before
      · exact .inr (by simp)
    | disconnect => exact ⟨.inl most, by simp [Expects, BootstrapMachine.reaction,
        BootstrapMachine.disconnected, Phase.expected?]⟩
    | other => exact passed rfl

/-- What the machine makes of an event, and whether there is room for the request. -/
theorem reaction_roomy (tidy : Tidy c w.client.events) (roomy : Roomy c w)
    (events : w.client.events = b :: rest) (answers : Answers c (.polled b)) :
    Admits (c ++ [.polled b]) rest
        (asking (w.pop rest).client.unreported.length (w.protocol.reaction b.event).2)
        (w.protocol.reaction b.event).1.phase ∧
      Expects (c ++ [.polled b]) (w.protocol.reaction b.event).1.phase := by
  have popped := unreported_pop w.client b rest events
  have whole := roomy.within
  rw [events, popped] at whole
  have later := tidy_pop c b rest (events ▸ tidy)
  cases b with
  | sent r id =>
    have reported : HasReported (c ++ [.polled (.sent r id)]) := ⟨r, id, by simp⟩
    have own : ∀ e, .stale e ∉ rest := fun e member => later.unreported e member reported
    refine ⟨?_, fun _ _ => .inl reported⟩
    have whole : Admits c (.sent r id :: rest) ((w.pop rest).client.unreported.length + 1)
        w.protocol.phase := by
      simpa [Buffered.request?, Nat.add_comm, World.pop] using whole
    simp only [Buffered.event]
    split
    · have most := admits_le _ _ _ _ whole
      exact .inr ⟨by simp [BootstrapMachine.reaction, BootstrapMachine.disconnected,
        Phase.allowance]; omega, own⟩
    · exact outgoingPublish_admits w.protocol _ rest _ id own c _ whole
  | ack id =>
    have reported := tidy_ack c id rest (events ▸ tidy)
    have own : ∀ e, .stale e ∉ rest := fun e member =>
      tidy.unreported e (by simp [events, member]) reported
    have reported := reported_append c [.polled (.ack id)] reported
    refine ⟨publishAcknowledged_admits w.protocol _ rest _ id reported own ?_,
      fun _ _ => .inl reported⟩
    exact admits_congr c _ _ _ _ (by simp [HasReported]) (admits_pop c _ rest _ _ whole)
  | quiet =>
    refine ⟨admits_congr c _ _ _ _ (by simp [HasReported]) (admits_pop c _ rest _ _ whole), ?_⟩
    exact expects_append c _ _ roomy.expects
  | stale e =>
    have moved := reaction_stale c w rest e tidy roomy events answers
    rw [popped] at moved
    exact moved

end Polled

section Handlers

variable (c : List Obs) (w : World)

theorem performAny_roomy (action : Option ProtocolAction) (message : Option StateMessage)
    (admits : Admits c w.client.events (asking w.client.unreported.length action)
      w.protocol.phase)
    (expects : Expects c w.protocol.phase) :
    (w.performAny action message).error = none ∧ Roomy c (w.performAny action message).world := by
  have most := admits_le _ _ _ _ admits
  cases action with
  | none => exact ⟨rfl, admits, expects⟩
  | some action =>
    have room : w.client.queue.length < REQUEST_CHANNEL_CAPACITY := by
      simp only [asking_some, Client.unreported, List.length_append,
        REQUEST_CHANNEL_CAPACITY] at most ⊢
      omega
    simp only [World.performAny, World.perform, if_pos room]
    refine ⟨trivial, ?_, expects⟩
    simpa [Client.unreported, ← Nat.add_assoc] using admits

theorem publishCurrentState_roomy (roomy : Roomy c w) :
    w.publishCurrentState.error = none ∧ Roomy c w.publishCurrentState.world := by
  cases value : w.states.value with
  | none =>
    simp only [World.publishCurrentState, value]
    exact ⟨trivial, roomy.within, roomy.expects⟩
  | some message =>
    simp only [World.publishCurrentState, value]
    exact performAny_roomy c _ _ _ (stateAvailable_admits w.protocol c _ _ _ roomy.within)
      (stateAvailable_expected w.protocol c _ roomy.expects)

theorem andThen_roomy (first : Outcome) (next : World → Outcome) (fine : first.error = none)
    (later : (next first.world).error = none ∧ Roomy c (next first.world).world) :
    (first.andThen next).error = none ∧ Roomy c (first.andThen next).world := by
  simpa [Outcome.andThen, fine] using later

theorem finishTurn_roomy (roomy : Roomy c w) :
    w.finishTurn.error = none ∧ Roomy c w.finishTurn.world := by
  have unchanged := roomy.within
  have waiting := roomy.expects
  simp only [World.finishTurn]
  split
  · exact andThen_roomy c _ _ rfl (publishCurrentState_roomy c _ ⟨unchanged, waiting⟩)
  · split <;> exact ⟨rfl, unchanged, waiting⟩

theorem handleEvent_roomy (b : Buffered) (rest : List Buffered) (tidy : Tidy c w.client.events)
    (roomy : Roomy c w) (events : w.client.events = b :: rest) (answers : Answers c (.polled b)) :
    ((w.pop rest).handleEvent b.event).error = none ∧
      Roomy (c ++ [.polled b]) ((w.pop rest).handleEvent b.event).world := by
  obtain ⟨admits, expects⟩ := reaction_roomy c w b rest tidy roomy events answers
  exact performAny_roomy _ _ _ _ admits expects

end Handlers

/-- The supervisor runs with room on its channel, or it was stopped. -/
inductive Bounded (c : List Obs) (w : World) : Prop
  | live (running : ∀ error, w.control ≠ .returned error) (tidy : Tidy c w.client.events)
      (roomy : Roomy c w)
  | ended (control : w.control = .returned none) (client : w.client = {})

theorem bounded_fine (c : List Obs) (w : World) (bounded : Bounded c w) :
    w.client.queue.length ≤ 2 ∧ ∀ e, w.control ≠ .returned (some e) := by
  cases bounded with
  | live running tidy roomy => exact ⟨queue_length_le c w roomy, fun e => running (some e)⟩
  | ended control client => simp [control, client]

theorem bounded_live (c : List Obs) (w : World) (running : w.control ≠ .returned none)
    (bounded : Bounded c w) :
    (∀ error, w.control ≠ .returned error) ∧ Tidy c w.client.events ∧ Roomy c w := by
  cases bounded with
  | live running tidy roomy => exact ⟨running, tidy, roomy⟩
  | ended control client => exact absurd control running

theorem bounded_stop (c : List Obs) (w : World) : Bounded c w.stop.2 := .ended rfl rfl

/-- Nothing that the client says, and nothing that it or the machine is told. -/
theorem bounded_quiet (c d : List Obs) (w v : World) (quiet : Quiet d)
    (client : v.client = w.client) (protocol : v.protocol = w.protocol)
    (control : v.control = w.control) (bounded : Bounded c w) : Bounded (c ++ d) v := by
  cases bounded with
  | live running tidy roomy =>
    refine .live (control ▸ running) (client ▸ tidy_quiet c d _ quiet tidy) ?_
    have kept := roomy_quiet c d w quiet roomy
    exact ⟨by rw [client, protocol]; exact kept.within, by rw [protocol]; exact kept.expects⟩
  | ended here client' => exact .ended (control.trans here) (client.trans client')

/-- A handler that went through. -/
theorem bounded_conclude (c : List Obs) (w : World) (out : Outcome) (frame : Frame w out.world)
    (running : ∀ error, w.control ≠ .returned error) (tidy : Tidy c w.client.events)
    (quiet : Quiet out.emitted) (fine : out.error = none ∧ Roomy c out.world) :
    Bounded (c ++ (World.conclude out).1) (World.conclude out).2 := by
  simp only [World.conclude, fine.1]
  refine .live ?_ ?_ (roomy_quiet c _ _ quiet fine.2)
  · rw [frame.control]
    exact running
  · rw [frame.events]
    exact tidy_quiet c _ _ quiet tidy

section Steps

variable (c : List Obs) (w : World) (running : ∀ error, w.control ≠ .returned error)
  (tidy : Tidy c w.client.events) (roomy : Roomy c w)
include running tidy roomy

theorem turn_bounded (b : Buffered) (rest : List Buffered) (events : w.client.events = b :: rest)
    (answers : Answers c (.polled b)) :
    Bounded (c ++ .polled b :: ((w.pop rest).turn b.event).1) ((w.pop rest).turn b.event).2 := by
  have handled := handleEvent_roomy c w b rest tidy roomy events answers
  have frame := World.handleEvent_frame (w.pop rest) b.event
  have concluded := bounded_conclude (c ++ [.polled b]) (w.pop rest) _
    (World.andThen_frame _ _ _ frame World.finishTurn_frame) running
    (tidy_pop c b rest (events ▸ tidy))
    (World.andThen_quiet _ _ (World.performAny_quiet _ _ _) World.finishTurn_quiet)
    (andThen_roomy _ _ _ handled.1 (finishTurn_roomy _ _ handled.2))
  simpa [World.turn] using concluded

theorem drain_bounded (b : Buffered) (rest : List Buffered)
    (events : w.client.events = b :: rest) (answers : Answers c (.polled b)) :
    Bounded (c ++ .polled b :: ((w.pop rest).drain b.event).1) ((w.pop rest).drain b.event).2 := by
  have handled := handleEvent_roomy c w b rest tidy roomy events answers
  have concluded := bounded_conclude (c ++ [.polled b]) (w.pop rest) _
    (World.handleEvent_frame (w.pop rest) b.event) running
    (tidy_pop c b rest (events ▸ tidy)) (World.performAny_quiet _ _ _) handled
  simp only [World.drain]
  split
  · exact bounded_stop _ _
  · simpa using concluded

theorem transmit_bounded (position : Nat) (id : PacketId) (r : Submission)
    (found : w.client.queue[position]? = some r) :
    Bounded (c ++ [.transmitted r id]) { w with client := { w.client with
      queue := w.client.queue.eraseIdx position
      events := w.client.events ++ [.sent r id] } } := by
  obtain ⟨inside, -⟩ := List.getElem?_eq_some_iff.mp found
  refine .live running (tidy_transmit c _ r id tidy) ⟨?_, expects_append c _ _ roomy.expects⟩
  have moved : ({ w.client with
      queue := w.client.queue.eraseIdx position
      events := w.client.events ++ [.sent r id] } : Client).unreported.length =
      w.client.unreported.length := by
    simp only [Client.unreported, List.length_append, List.filterMap_append, List.length_eraseIdx,
      inside, if_true, List.filterMap_cons, Buffered.request?, List.filterMap_nil,
      List.length_singleton]
    omega
  rw [moved]
  have same : HasReported (c ++ [.transmitted r id]) ↔ HasReported c := by simp [HasReported]
  exact admits_congr c _ _ _ _ same (roomy.within.imp_right
    (And.imp_right fun own => by simpa using own))

omit tidy in
theorem buffer_bounded (d : List Obs) (b : Buffered) (own : b.isStale = false)
    (silent : b.request? = none) (same : HasReported (c ++ d) ↔ HasReported c)
    (buffered : Tidy (c ++ d) (w.client.events ++ [b])) : Bounded (c ++ d) (w.buffer b) := by
  refine .live running buffered ⟨?_, expects_append c d _ roomy.expects⟩
  rw [buffer_unreported w b silent]
  refine admits_congr c _ _ _ _ same (roomy.within.imp_right
    (And.imp_right fun fresh e member => ?_))
  rcases List.mem_append.mp member with member | member
  · exact fresh e member
  · obtain rfl : .stale e = b := by simpa using member
    simp [Buffered.isStale] at own

omit running roomy in
theorem connect_bounded (dormant : Dormant w) (control : w.control = .connAcked) :
    Bounded (c ++ w.connect.1) w.connect.2 := by
  obtain ⟨unreported, phase⟩ := dormant.idle (.inl control)
  have silent := (List.append_eq_nil_iff.mp unreported).1
  rw [connect_eq w (idle_queue w dormant (.inl control))]
  refine .live (by simp) (tidy_quiet c _ _ (by simp [Quiet, Obs.isClients]) tidy) ?_
  refine roomy_quiet c _ _ (by simp [Quiet, Obs.isClients]) ⟨?_, by simp [Expects,
    BootstrapMachine.connected, Phase.expected?]⟩
  by_cases left : ∃ e, .stale e ∈ w.client.events
  · obtain ⟨e, member⟩ := left
    refine .inl ⟨by simp [Client.unreported, silent], fun reported => ?_⟩
    exact absurd reported (tidy.unreported e member)
  · refine .inr ⟨by simp [Client.unreported, silent, BootstrapMachine.connected,
      Phase.allowance], fun e member => left ⟨e, member⟩⟩

omit running in
theorem shutdown_bounded :
    Bounded (c ++ w.gracefulShutdown.1) w.gracefulShutdown.2 := by
  let v : World := { w with
    protocol := w.protocol.shutdown.1, status := .shuttingDown, control := .draining }
  have made := performAny_roomy c v w.protocol.shutdown.2 none
    (shutdown_admits w.protocol c _ _ roomy.within) (shutdown_expected w.protocol c roomy.expects)
  simp only [World.gracefulShutdown]
  cases asked : w.protocol.shutdown.2 with
  | none => exact bounded_stop _ _
  | some action =>
    rw [asked] at made
    have marks : Quiet [.shutdown w.protocol.phase, .reported .shuttingDown] := by
      simp [Quiet, Obs.isClients]
    have concluded := bounded_conclude (c ++ [.shutdown w.protocol.phase, .reported .shuttingDown])
      v _ (World.performAny_frame v (some action) none) (by simp [v])
      (tidy_quiet c _ _ marks tidy) (World.performAny_quiet v (some action) none)
      ⟨made.1, roomy_quiet c _ _ marks made.2⟩
    simpa [World.performAny, v] using concluded

theorem state_bounded : Bounded (c ++ w.stateTurn.1) w.stateTurn.2 := by
  obtain ⟨fine, offered⟩ := publishCurrentState_roomy c w roomy
  exact bounded_conclude c w _ (World.andThen_frame _ _ _ (World.publishCurrentState_frame w)
    World.finishTurn_frame) running tidy
    (World.andThen_quiet _ _ (World.publishCurrentState_quiet w) World.finishTurn_quiet)
    (andThen_roomy c _ _ fine (finishTurn_roomy c _ offered))

end Steps

theorem fail_bounded (w : World) (kept : List Event) :
    Bounded [.reported .disconnected] (w.connectionFailed kept).2 := by
  refine .live (by simp [World.connectionFailed]) (tidy_kept kept) ⟨.inl ?_, ?_⟩
  · simp [World.connectionFailed, BootstrapMachine.connectionLost, Ahead, Client.unreported,
      List.filterMap_eq_nil_iff, Buffered.request?]
  · simp [Expects, World.connectionFailed, BootstrapMachine.connectionLost, Phase.expected?]

/-- Something is told that neither the client says nor the machine hears. -/
theorem bounded_note (trace : List Obs) (w v : World) (o : Obs) (quiet : o.isClients = false)
    (client : v.client = w.client) (protocol : v.protocol = w.protocol)
    (control : v.control = w.control) (bounded : Bounded (session trace) w) :
    Bounded (session (trace ++ [o])) v := by
  have alone : Quiet [o] := by simpa [Quiet] using quiet
  rw [session_quiet trace [o] alone]
  exact bounded_quiet _ [o] w v alone client protocol control bounded

theorem step_bounded (rules : ClientRules) (trace emitted : List Obs) (w v : World) (i : Input)
    (answers : Meets (fun before o => Answers (session before) o) trace emitted)
    (bounded : Bounded (session trace) w) (dormant : Dormant w)
    (taken : step rules w i = some (emitted, v)) : Bounded (session (trace ++ emitted)) v := by
  cases step_taken rules w i emitted v taken with
  | replaceState message => exact bounded_note trace w _ _ rfl rfl rfl rfl bounded
  | request => exact bounded_note trace w _ _ rfl rfl rfl rfl bounded
  | signal => exact bounded_note trace w _ _ rfl rfl rfl rfl bounded
  | transmit position id r found may =>
    obtain ⟨running, tidy, roomy⟩ | ⟨-, client⟩ := bounded
    · rw [session_cons trace [] _ rfl (by simp [Quiet])]
      exact transmit_bounded _ w running tidy roomy position id r found
    · simp [client] at found
  | receive id up =>
    obtain ⟨running, tidy, roomy⟩ | ⟨-, client⟩ := bounded
    · rw [session_cons trace [] _ rfl (by simp [Quiet])]
      exact buffer_bounded _ w running roomy _ (.ack id) rfl rfl (by simp [HasReported])
        (tidy_receive _ _ id answers.1 tidy)
    · simp [client] at up
  | ping up =>
    obtain ⟨running, tidy, roomy⟩ | ⟨-, client⟩ := bounded
    · have buffered := buffer_bounded (session trace) w running roomy [] .quiet rfl rfl
        (by simp) (by simpa using tidy_ping _ _ tidy)
      simpa using buffered
    · simp [client] at up
  | accepted control down =>
    obtain ⟨running, tidy, roomy⟩ := bounded_live _ w (by simp [control]) bounded
    have alone : Quiet [.connAck .success] := by simp [Quiet, Obs.isClients]
    rw [session_quiet trace _ alone]
    have kept := roomy_quiet _ _ w alone roomy
    exact .live (by simp) (tidy_quiet _ _ _ alone tidy) ⟨kept.within, kept.expects⟩
  | refused code refuses control down =>
    have idle := dormant.idle (.inr (.inr ⟨control, down⟩))
    rw [turn_idle w code idle.2 (dormant.settled (.inl control))]
    exact bounded_note trace w w _ rfl rfl rfl rfl bounded
  | connect control =>
    obtain ⟨running, tidy, roomy⟩ := bounded_live _ w (by simp [control]) bounded
    have quiet : Quiet w.connect.1 := by
      rw [connect_eq w (idle_queue w dormant (.inl control))]
      simp [Quiet, Obs.isClients]
    rw [session_quiet trace _ quiet]
    exact connect_bounded _ w tidy dormant control
  | polled b rest up events control =>
    obtain ⟨running, tidy, roomy⟩ := bounded_live _ w (by simp [control]) bounded
    rw [session_cons trace _ _ rfl (World.turn_quiet _ _)]
    exact turn_bounded _ w running tidy roomy b rest events answers.1
  | drained b rest up events control =>
    obtain ⟨running, tidy, roomy⟩ := bounded_live _ w (by simp [control]) bounded
    rw [session_cons trace _ _ rfl (World.drain_quiet _ _)]
    exact drain_bounded _ w running tidy roomy b rest events answers.1
  | failed kept among keeps control =>
    have restarted : session (trace ++ [.lost, .reported .disconnected]) =
        [.reported .disconnected] :=
      since_append_marked isLost trace _ .lost rfl (by simp [isLost])
    simp only [World.connectionFailed, restarted]
    exact fail_bounded w kept
  | abandoned kept control => exact bounded_stop _ w
  | state control accepts changed =>
    obtain ⟨running, tidy, roomy⟩ := bounded_live _ w (by simp [control]) bounded
    rw [session_quiet trace _ (World.stateTurn_quiet w)]
    exact state_bounded _ w running tidy roomy
  | shutdown control =>
    obtain ⟨running, tidy, roomy⟩ := bounded_live _ w (by simp [control]) bounded
    rw [session_quiet trace _ (World.gracefulShutdown_quiet w)]
    exact shutdown_bounded _ w tidy roomy
  | dismissed control => exact bounded_stop _ w
  | retry control =>
    obtain ⟨running, tidy, roomy⟩ := bounded_live _ w (by simp [control]) bounded
    have idle := dormant.idle (.inr (.inl control))
    rw [retry_idle w idle.2 (dormant.settled (.inr (.inr control)))]
    rw [List.append_nil]
    exact .live (by simp) tidy ⟨roomy.within, roomy.expects⟩
  | timeout control => exact bounded_stop _ w

theorem bounded_start (settings : MqttSettings) (discoveryPayload : String) :
    Bounded [] ({ settings := settings, discoveryPayload := discoveryPayload } : World) := by
  refine .live (by simp) ⟨by simp [StaleFirst], by simp, .inr True.intro, by simp⟩ ⟨.inl ?_, ?_⟩
  · simp [Ahead, Client.unreported]
  · simp [Expects, Phase.expected?]

variable (rules : ClientRules) (settings : MqttSettings) (discoveryPayload : String)

theorem supervisor_bounded (inputs : List Input) (trace : List Obs) (w : World)
    (ran : (supervisor rules settings discoveryPayload).run inputs = some (trace, w)) :
    (Answering trace → Bounded (session trace) w) ∧ Dormant w := by
  refine (supervisor rules settings discoveryPayload).invariant
    (fun trace w => (Answering trace → Bounded (session trace) w) ∧ Dormant w)
    ⟨fun _ => bounded_start settings discoveryPayload,
      dormant_start rules settings discoveryPayload⟩ ?_ inputs trace w ran
  rintro trace s i emitted t ⟨bounded, dormant⟩ taken
  refine ⟨fun answering => ?_, step_dormant rules s i (emitted, t) dormant taken⟩
  obtain ⟨before, answers⟩ := (answering_append trace emitted).mp answering
  exact step_bounded rules trace emitted s t i answers (bounded before) dormant taken

/-- The control queue never overflows, whatever order the client sends in, whatever
identifiers it assigns and whatever it returns of earlier connections, as long as what it
returns as acknowledged was sent. -/
theorem control_queue_bounded (inputs : List Input) (trace : List Obs) (w : World)
    (ran : (supervisor rules settings discoveryPayload).run inputs = some (trace, w))
    (answering : Answering trace) :
    w.client.queue.length ≤ 2 ∧ ∀ e, w.control ≠ .returned (some e) := by
  have inv := supervisor_bounded rules settings discoveryPayload inputs trace w ran
  exact bounded_fine _ w (inv.1 answering)

/-- With a PubAck for what was never sent on the connection, three requests are queued. -/
example : ∃ trace w, (supervisor (.documented fun _ => true) sampleSettings "{}").run
    [.connAck .success, .connect, .transmit 0 7, .fail [.outgoing (.publish 7)], .retry,
      .connAck .success, .connect, .poll, .receive 7, .poll, .signal, .shutdown] =
        some (trace, w) ∧ w.client.queue.length = 3 ∧ ¬ Answering trace :=
  ⟨_, _, rfl, rfl, by decide⟩

/-- A leftover Outgoing event is taken for the one of Discovery, and shutdown comes while
Discovery is still queued. -/
def leftoverShutdown : List Input :=
  [.connAck .success, .connect, .transmit 0 7, .fail [.outgoing (.publish 7)], .retry,
    .connAck .success, .connect, .poll, .signal, .shutdown]

theorem control_queue_bounded_shutdown : ∃ trace w,
    (supervisor (.documented fun _ => true) sampleSettings "{}").run leftoverShutdown =
      some (trace, w) ∧
    w.client.queue.length = 2 ∧ w.client.queue.length ≤ 2 ∧
    ∀ e, w.control ≠ .returned (some e) := by
  refine ⟨_, _, rfl, rfl, control_queue_bounded (.documented fun _ => true) sampleSettings "{}"
    leftoverShutdown _ _ rfl (by decide)⟩

end RpiHealth
