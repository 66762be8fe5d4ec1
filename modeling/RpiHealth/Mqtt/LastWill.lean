import RpiHealth.Mqtt.Availability

/-! Runs of the supervisor and the broker together: however a connection ends, the
retained availability is offline afterwards. -/
namespace RpiHealth
open Machines

section

variable (settings : MqttSettings) (discoveryPayload : String) (will : LastWill)

theorem hear_unattached (b b' : Broker) (o : Obs)
    (unattached : ∀ s, b.session = some s → s.attached = false)
    (heard : b.hear settings discoveryPayload o = some b') :
    b'.session = b.session ∧ b'.retained = b.retained := by
  have detached : b.detach.session = b.session := by
    cases session : b.session with
    | none => simp [Broker.detach, session]
    | some s =>
      have off := unattached s session
      obtain ⟨attached, wire, handled⟩ := s
      obtain rfl : attached = false := off
      simp [Broker.detach, session]
  cases o with
  | connAck code =>
    simp only [Broker.hear] at heard
    split at heard
    · obtain rfl := Option.some.inj heard
      exact ⟨rfl, rfl⟩
    · contradiction
  | transmitted r id =>
    simp only [Broker.hear, Broker.receivePacket] at heard
    cases session : b.session with
    | none =>
      obtain rfl : b = b' := by simpa [session] using heard
      exact ⟨session, rfl⟩
    | some s =>
      obtain rfl : b = b' := by simpa [session, unattached s session] using heard
      exact ⟨session, rfl⟩
  | received id =>
    simp only [Broker.hear] at heard
    split at heard
    · obtain rfl := Option.some.inj heard
      exact ⟨rfl, rfl⟩
    · contradiction
  | lost =>
    obtain rfl := Option.some.inj heard
    exact ⟨detached, rfl⟩
  | returned error =>
    obtain rfl := Option.some.inj heard
    exact ⟨detached, rfl⟩
  | _ =>
    obtain rfl := Option.some.inj heard
    exact ⟨rfl, rfl⟩

theorem hearAll_unattached (b b' : Broker) (emitted : List Obs)
    (unattached : ∀ s, b.session = some s → s.attached = false)
    (heard : (broker settings discoveryPayload will).hearAll b emitted = some b') :
    b'.session = b.session ∧ b'.retained = b.retained := by
  induction emitted generalizing b with
  | nil =>
    obtain rfl := Option.some.inj heard
    exact ⟨rfl, rfl⟩
  | cons o rest ih =>
    simp only [Partner.hearAll, Option.bind_eq_some_iff] at heard
    obtain ⟨middle, first, later⟩ := heard
    obtain ⟨session, retained⟩ := hear_unattached settings discoveryPayload b middle o unattached
      first
    obtain ⟨session', retained'⟩ := ih middle (session ▸ unattached) later
    exact ⟨session'.trans session, retained'.trans retained⟩

/-- A session that the client let go of is tied to nothing but itself. -/
theorem tie_unattached (c c' : List Obs) (w w' : World) (b b' : Broker)
    (unattached : ∀ s, b.session = some s → s.attached = false)
    (session : b'.session = b.session) (retained : b'.retained = b.retained)
    (tie : Tie settings discoveryPayload c w b) : Tie settings discoveryPayload c' w' b' := by
  unfold Tie at tie ⊢
  rw [session]
  cases found : b.session with
  | none =>
    rw [found] at tie
    simpa [Settled, retained] using tie
  | some s =>
    rw [found] at tie
    refine ⟨?_, fun attached => ?_⟩
    · simpa [LastWords, retained] using tie.1
    · simp [unattached s found] at attached

theorem tie_detach (c c' : List Obs) (w w' : World) (b : Broker)
    (tie : Tie settings discoveryPayload c w b) :
    Tie settings discoveryPayload c' w' b.detach := by
  unfold Tie at tie ⊢
  cases found : b.session with
  | none =>
    rw [found] at tie
    simpa [Broker.detach, found, Settled] using tie
  | some s =>
    rw [found] at tie
    simp only [Broker.detach, found, Option.map_some]
    exact ⟨tie.1, by simp⟩

theorem hearAll_detach (b : Broker) (before after : List Obs) (o : Obs)
    (deaf : ∀ a ∈ before, a.isDeaf = true) (deaf' : ∀ a ∈ after, a.isDeaf = true)
    (detaches : b.hear settings discoveryPayload o = some b.detach) :
    (broker settings discoveryPayload will).hearAll b (before ++ o :: after) = some b.detach := by
  rw [hearAll_append, hearAll_deaf _ _ _ b before deaf]
  have heard : (broker settings discoveryPayload will).hear b o = some b.detach := detaches
  simp only [Option.bind_some, Partner.hearAll, heard]
  exact hearAll_deaf settings discoveryPayload will b.detach after deaf'

theorem stop_heard (b b' : Broker) (w : World) (before : List Obs)
    (deaf : ∀ a ∈ before, a.isDeaf = true)
    (heard : (broker settings discoveryPayload will).hearAll b (before ++ w.stop.1) = some b') :
    b' = b.detach := by
  have whole : before ++ w.stop.1 = (before ++ [.reported .stopped]) ++ .returned none :: [] := by
    simp [World.stop]
  rw [whole, hearAll_detach settings discoveryPayload will b _ [] (.returned none) ?_ (by simp)
    rfl] at heard
  · exact (Option.some.inj heard).symm
  · intro a member
    rcases List.mem_append.mp member with old | new
    · exact deaf a old
    · obtain rfl := List.mem_singleton.mp new
      rfl

theorem handling_deaf (emitted : List Obs) (handling : ∀ o ∈ emitted, o.isHandling = true) :
    ∀ o ∈ emitted, o.isDeaf = true := by
  intro o member
  have does := handling o member
  cases o <;> simp_all [Obs.isHandling, Obs.isDeaf]

/-- A handler either goes through unheard, or its error drops the client. -/
theorem conclude_heard (b b' : Broker) (out : Outcome) (before : List Obs)
    (deaf : ∀ a ∈ before, a.isDeaf = true) (handling : ∀ o ∈ out.emitted, o.isHandling = true)
    (heard : (broker settings discoveryPayload will).hearAll b
      (before ++ (World.conclude out).1) = some b') :
    b' = b ∧ out.error = none ∧ World.conclude out = (out.emitted, out.world) ∨ b' = b.detach := by
  have quiet : ∀ o ∈ before ++ out.emitted, o.isDeaf = true := by
    intro o member
    rcases List.mem_append.mp member with old | new
    · exact deaf o old
    · exact handling_deaf out.emitted handling o new
  cases failed : out.error with
  | none =>
    have whole : World.conclude out = (out.emitted, out.world) := by simp [World.conclude, failed]
    rw [whole, hearAll_deaf settings discoveryPayload will b _ quiet] at heard
    exact .inl ⟨(Option.some.inj heard).symm, rfl, whole⟩
  | some e =>
    have whole : before ++ (World.conclude out).1 =
        (before ++ out.emitted) ++ .returned (some e) :: [] := by
      simp [World.conclude, failed]
    rw [whole, hearAll_detach settings discoveryPayload will b _ [] _ quiet (by simp) rfl] at heard
    exact .inr (Option.some.inj heard).symm

/-- The phase where only Offline's own sending is awaited. -/
theorem reaction_awaiting (m : BootstrapMachine) (event : Event) (id : PacketId)
    (awaits : (m.reaction event).1.phase = .shutdownAwaitOfflineAck id) :
    m.phase = .shutdownAwaitOfflineAck id ∨
      m.phase = .shutdownAwaitOfflineOutgoing false ∧ event = .outgoing (.publish id) := by
  cases event with
  | incoming packet =>
    cases packet with
    | pubAck other =>
      rcases m.publishAcknowledged_cases other with
        ⟨phase, taken⟩ | ⟨phase, taken⟩ | ⟨phase, taken⟩ | taken <;>
        simp_all [BootstrapMachine.reaction]
    | _ => exact .inl awaits
  | outgoing packet =>
    cases packet with
    | publish other =>
      obtain ⟨-, ⟨phase, -, taken⟩ | ⟨phase, -, taken⟩ | ⟨phase, -, taken⟩ | ⟨phase, taken⟩ |
        ⟨phase, -, taken⟩ | taken⟩ := m.outgoingPublish_cases other <;>
        simp_all [BootstrapMachine.reaction]
    | disconnect => simp [BootstrapMachine.reaction, BootstrapMachine.disconnected] at awaits
    | other => exact .inl awaits

theorem reaction_disconnects (m : BootstrapMachine) (event : Event)
    (asks : (m.reaction event).2 = some .disconnect) :
    ∃ id, m.phase = .shutdownAwaitOfflineAck id ∧ event = .incoming (.pubAck id) := by
  cases event with
  | incoming packet =>
    cases packet with
    | pubAck other =>
      rcases m.publishAcknowledged_cases other with
        ⟨phase, taken⟩ | ⟨phase, taken⟩ | ⟨phase, taken⟩ | taken <;>
        simp_all [BootstrapMachine.reaction]
    | _ => simp [BootstrapMachine.reaction] at asks
  | outgoing packet =>
    cases packet with
    | publish other =>
      have quiet := (m.outgoingPublish_cases other).1
      simp [BootstrapMachine.reaction, quiet] at asks
    | disconnect => simp [BootstrapMachine.reaction, BootstrapMachine.disconnected] at asks
    | other => simp [BootstrapMachine.reaction] at asks

theorem connection_append (trace emitted : List Obs)
    (unmarked : ∀ o ∈ emitted, isConnected o = false) :
    connection (trace ++ emitted) = connection trace ++ emitted :=
  since_append isConnected trace emitted unmarked

theorem handling_unmarked (emitted : List Obs) (handling : ∀ o ∈ emitted, o.isHandling = true) :
    ∀ o ∈ emitted, isConnected o = false := by
  intro o member
  have does := handling o member
  cases o <;> simp_all [Obs.isHandling, isConnected]

theorem handling_unsent (emitted : List Obs) (handling : ∀ o ∈ emitted, o.isHandling = true) :
    transmitted emitted = [] := by
  simp only [transmitted, List.filterMap_eq_nil_iff]
  intro o member
  have does := handling o member
  cases o <;> simp_all [Obs.isHandling, transmission?]

/-- Where the select loop is connected, nothing of Offline is to be noticed. -/
theorem held_live (c : List Obs) (w : World) (b : Broker) (s : Session) (place : Place c w)
    (control : w.control = .select) (up : w.client.up = true)
    (delivered : Delivered settings discoveryPayload c b s) :
    Held settings discoveryPayload c w b s := by
  obtain ⟨tracked, agrees, running, -⟩ := place_live c w place control up
  exact .inr ⟨⟨up, .inl control⟩, delivered, noticed_running c w _ agrees running tracked⟩

theorem held_quiet (c d : List Obs) (w v : World) (b : Broker) (s : Session)
    (client : v.client = w.client) (control : v.control = w.control)
    (protocol : v.protocol = w.protocol) (unsent : transmitted d = []) (silent : actions d = [])
    (held : Held settings discoveryPayload c w b s) :
    Held settings discoveryPayload (c ++ d) v b s := by
  rcases held with ⟨waiting, fresh⟩ | ⟨inUse, delivered, noticed⟩
  · exact .inl ⟨by rw [control, client]; exact waiting, fresh⟩
  · refine .inr ⟨by rw [InUse, control, client]; exact inUse,
      delivered_append settings discoveryPayload c d b s unsent delivered, ?_⟩
    refine noticed_next c d w v _ noticed ⟨[], by simp [client]⟩ ?_ (by simp [silent])
    intro id phase
    rw [protocol] at phase
    exact .inl phase

/-- An event of the shutdown sequence, with the broker still attached. -/
theorem drain_held (c : List Obs) (w : World) (b : Broker) (s : Session) (head : Buffered)
    (rest : List Buffered) (up : w.client.up = true) (control : w.control = .draining)
    (tracked : Tracked c w.client)
    (agrees : PhaseAgrees c (w.client.unreported.map (·.action)) w.protocol.phase)
    (events : w.client.events = head :: rest) (staleFirst : StaleFirst w.client.events)
    (fresh : ∀ e, head ≠ .stale e) (goes : head.event ≠ .outgoing .disconnect)
    (delivered : Delivered settings discoveryPayload c b s)
    (noticed : Noticed c w (OfflineHandled s)) :
    Held settings discoveryPayload
      (c ++ .polled head :: ((w.pop rest).handleEvent head.event).emitted)
      ((w.pop rest).handleEvent head.event).world b s := by
  have kept := handleEvent_kept c w head rest tracked agrees events staleFirst goes
    (fun e stale => absurd stale (fresh e))
  have frame := World.handleEvent_frame (w.pop rest) head.event
  have handling := handleEvent_handling (w.pop rest) head.event
  have left : ((w.pop rest).handleEvent head.event).world.client.events = rest := frame.events
  refine .inr ⟨⟨frame.up.trans up, .inr (frame.control.trans control)⟩,
    delivered_append settings discoveryPayload c _ b s ?_ delivered, ?_⟩
  · rw [transmitted_cons, handling_unsent _ handling]
    rfl
  · refine noticed_next c _ w _ _ noticed ⟨[head], by simp [events, left]⟩ ?_ ?_
    · intro id phase
      rw [World.handleEvent_protocol] at phase
      rcases reaction_awaiting w.protocol head.event id phase with before | ⟨before, sending⟩
      · exact .inl before
      · refine .inr ?_
        rw [before, unreported_pop w.client head rest events] at agrees
        cases head with
        | sent r sid =>
          have made : r.action = .publishOffline := (List.cons.inj agrees.1).1
          have same : sid = id := by simpa [Buffered.event, made] using sending
          exact ⟨r, made, by rw [events, left, same]⟩
        | ack sid => simp [Buffered.event] at sending
        | quiet => simp [Buffered.event] at sending
        | stale e => exact absurd rfl (fresh e)
    · intro requested
      have asks : (w.protocol.reaction head.event).2 = some .disconnect := by
        rw [actions_cons, handleEvent_actions _ _ kept.error] at requested
        simpa [request?, World.pop, eq_comm] using requested
      obtain ⟨id, phase, acks⟩ := reaction_disconnects w.protocol head.event asks
      refine ⟨id, phase, ?_⟩
      cases head with
      | sent r sid => simp only [Buffered.event] at acks; split at acks <;> simp at acks
      | ack sid =>
        obtain rfl : sid = id := by simpa [Buffered.event] using acks
        simp [events]
      | quiet => simp [Buffered.event] at acks
      | stale e => exact absurd rfl (fresh e)

theorem tie_intro (c : List Obs) (w : World) (b : Broker) (s : Session)
    (session : b.session = some s) (lastWords : LastWords settings b s)
    (held : Held settings discoveryPayload c w b s) : Tie settings discoveryPayload c w b := by
  simp only [Tie, session]
  exact ⟨lastWords, fun _ => held⟩

theorem transmit_tie (rules : ClientRules) (fifo : rules.fifo = true)
    (qosIds : rules.qosIds = true) (c : List Obs) (w : World) (b b' : Broker) (s : Session)
    (position : Nat) (id : PacketId) (r : Submission) (place : Place c w)
    (session : b.session = some s) (attached : s.attached = true)
    (held : Held settings discoveryPayload c w b s)
    (found : w.client.queue[position]? = some r)
    (may : w.mayTransmit rules position r id = true)
    (heard : (broker settings discoveryPayload will).hearAll b [.transmitted r id] = some b') :
    Tie settings discoveryPayload (c ++ [.transmitted r id])
      { w with client := { w.client with
          queue := w.client.queue.eraseIdx position
          events := w.client.events ++ [.sent r id] } } b' := by
  obtain ⟨up, rfl, -⟩ := mayTransmit_first rules fifo qosIds w position r id may
  rw [← List.head?_eq_getElem?] at found
  obtain ⟨later, queue⟩ := List.head?_eq_some_iff.mp found
  have inUse : InUse w := by
    cases place with
    | live control => exact ⟨up, .inl control⟩
    | draining control => exact ⟨up, .inr control⟩
    | idle _ empty => simp [empty] at queue
    | ended _ _ empty => simp [empty] at queue
  obtain ⟨tracked, agrees⟩ := inUse_place c w place inUse
  obtain ⟨delivered, noticed⟩ := held_inUse settings discoveryPayload c w b s held inUse
  rw [hearAll_one, Broker.hear,
    receivePacket_attached settings discoveryPayload b s _ session attached] at heard
  split at heard
  · contradiction
  · rename_i distinct
    obtain rfl := Option.some.inj heard
    obtain ⟨lastWords, delivered'⟩ := transmit_held settings discoveryPayload c w b s r id
      later queue tracked agrees delivered noticed
      (fun acknowledged member => distinct ⟨acknowledged, member⟩)
    refine tie_intro settings discoveryPayload _ _ _ _ rfl lastWords
      (.inr ⟨inUse, delivered', ?_⟩)
    exact noticed_snoc c [.transmitted r id] w _ (.sent r id) _ noticed rfl rfl rfl (by simp)

theorem receive_tie (c : List Obs) (w : World) (b b' : Broker) (s : Session) (id : PacketId)
    (place : Place c w) (session : b.session = some s) (lastWords : LastWords settings b s)
    (held : Held settings discoveryPayload c w b s)
    (heard : (broker settings discoveryPayload will).hearAll b [.received id] = some b') :
    Tie settings discoveryPayload (c ++ [.received id]) (w.buffer (.ack id)) b' := by
  rw [hearAll_one, Broker.hear] at heard
  split at heard
  · rename_i arrived
    obtain rfl := Option.some.inj heard
    rcases held with ⟨-, -, -, none⟩ | ⟨inUse, delivered, noticed⟩
    · simp [none] at arrived
    · obtain ⟨tracked, agrees⟩ := inUse_place c w place inUse
      obtain ⟨delivered', noticed'⟩ := receive_held settings discoveryPayload c w
        (w.buffer (.ack id)) b s id tracked agrees delivered noticed arrived rfl rfl
      exact tie_intro settings discoveryPayload _ _ _ s session lastWords
        (.inr ⟨inUse, delivered', noticed'⟩)
  · contradiction

theorem ping_tie (c : List Obs) (w : World) (b : Broker) (s : Session)
    (session : b.session = some s) (lastWords : LastWords settings b s)
    (held : Held settings discoveryPayload c w b s) :
    Tie settings discoveryPayload (c ++ []) (w.buffer .quiet) b := by
  refine tie_intro settings discoveryPayload _ _ b s session lastWords ?_
  rcases held with fresh | ⟨inUse, delivered, noticed⟩
  · exact .inl fresh
  · exact .inr ⟨inUse, delivered_append settings discoveryPayload c [] b s rfl delivered,
      noticed_snoc c [] w _ .quiet _ noticed rfl rfl rfl (by simp)⟩

/-- A handler of the select loop: it goes through, or it drops the client. -/
theorem conclude_tie (trace before : List Obs) (w u : World) (b b' : Broker) (s : Session)
    (out : Outcome) (deaf : ∀ o ∈ before, o.isDeaf = true)
    (unmarked : ∀ o ∈ before, isConnected o = false)
    (handling : ∀ o ∈ out.emitted, o.isHandling = true) (frame : Frame w out.world)
    (control : w.control = .select) (up : w.client.up = true)
    (place : Place (connection (trace ++ (before ++ (World.conclude out).1)))
      (World.conclude out).2)
    (session : b.session = some s) (lastWords : LastWords settings b s)
    (tie : Tie settings discoveryPayload (connection trace) u b)
    (delivered : Delivered settings discoveryPayload (connection trace) b s)
    (heard : (broker settings discoveryPayload will).hearAll b
      (before ++ (World.conclude out).1) = some b') :
    Tie settings discoveryPayload (connection (trace ++ (before ++ (World.conclude out).1)))
      (World.conclude out).2 b' := by
  rcases conclude_heard settings discoveryPayload will b b' out before deaf handling heard with
    ⟨rfl, -, whole⟩ | rfl
  · rw [whole] at place ⊢
    have quiet : ∀ o ∈ before ++ out.emitted, isConnected o = false := by
      intro o member
      rcases List.mem_append.mp member with old | new
      · exact unmarked o old
      · exact handling_unmarked _ handling o new
    have unsent : transmitted (before ++ out.emitted) = [] := by
      simp only [transmitted, List.filterMap_eq_nil_iff]
      intro o member
      have silent : o.isDeaf = true := by
        rcases List.mem_append.mp member with old | new
        · exact deaf o old
        · exact handling_deaf _ handling o new
      cases o <;> simp_all [Obs.isDeaf, transmission?]
    refine tie_intro settings discoveryPayload _ _ b' s session lastWords ?_
    refine held_live settings discoveryPayload _ _ b' s place (frame.control.trans control)
      (frame.up.trans up) ?_
    rw [connection_append trace _ quiet]
    exact delivered_append settings discoveryPayload _ _ b' s unsent delivered
  · exact tie_detach settings discoveryPayload _ _ u _ b tie

section Polled

variable (trace : List Obs) (w : World) (b b' : Broker) (s : Session) (head : Buffered)
  (rest : List Buffered)

theorem turn_tie (up : w.client.up = true) (control : w.control = .select)
    (place' : Place (connection (trace ++ .polled head :: ((w.pop rest).turn head.event).1))
      ((w.pop rest).turn head.event).2)
    (session : b.session = some s) (lastWords : LastWords settings b s)
    (tie : Tie settings discoveryPayload (connection trace) w b)
    (held : Held settings discoveryPayload (connection trace) w b s)
    (heard : (broker settings discoveryPayload will).hearAll b
      (.polled head :: ((w.pop rest).turn head.event).1) = some b') :
    Tie settings discoveryPayload
      (connection (trace ++ .polled head :: ((w.pop rest).turn head.event).1))
      ((w.pop rest).turn head.event).2 b' := by
  obtain ⟨delivered, -⟩ :=
    held_inUse settings discoveryPayload _ w b s held ⟨up, .inl control⟩
  have frame := World.handleEvent_frame (w.pop rest) head.event
  exact conclude_tie settings discoveryPayload will trace [.polled head] (w.pop rest) w b b' s _
    (by simp [Obs.isDeaf]) (by simp [isConnected])
    (andThen_handling _ _ (handleEvent_handling _ head.event) finishTurn_handling)
    (World.andThen_frame _ _ _ frame World.finishTurn_frame) control up place' session lastWords
    tie delivered heard

theorem drain_tie (control : w.control = .draining)
    (ordered : Ordered (.documented fun _ => false) trace w)
    (events : w.client.events = head :: rest)
    (session : b.session = some s) (lastWords : LastWords settings b s)
    (tie : Tie settings discoveryPayload (connection trace) w b)
    (held : Held settings discoveryPayload (connection trace) w b s)
    (heard : (broker settings discoveryPayload will).hearAll b
      (.polled head :: ((w.pop rest).drain head.event).1) = some b') :
    Tie settings discoveryPayload
      (connection (trace ++ .polled head :: ((w.pop rest).drain head.event).1))
      ((w.pop rest).drain head.event).2 b' := by
  obtain ⟨up, tracked, agrees, -⟩ := place_draining _ w ordered.place control
  obtain ⟨delivered, noticed⟩ :=
    held_inUse settings discoveryPayload _ w b s held ⟨up, .inr control⟩
  have fresh : ∀ e, head ≠ .stale e := by
    intro e stale
    have kept := (ordered.leftovers.2 e (by simp [events, stale])).2
    simp [ClientRules.documented] at kept
  by_cases stops : head.event = .outgoing .disconnect
  · rw [stops, drain_disconnect] at heard
    obtain rfl := stop_heard settings discoveryPayload will b b' _ [.polled head]
      (by simp [Obs.isDeaf]) heard
    exact tie_detach settings discoveryPayload _ _ w _ b tie
  · have kept := handleEvent_kept (connection trace) w head rest tracked agrees events
      ordered.leftovers.1 stops (fun e stale => absurd stale (fresh e))
    have handling := handleEvent_handling (w.pop rest) head.event
    rw [drain_kept _ _ _ kept stops] at heard ⊢
    have deaf : ∀ o ∈ .polled head :: ((w.pop rest).handleEvent head.event).emitted,
        o.isDeaf = true := by
      intro o member
      rcases List.mem_cons.mp member with rfl | member
      · rfl
      · exact handling_deaf _ handling o member
    rw [hearAll_deaf settings discoveryPayload will b _ deaf] at heard
    obtain rfl := Option.some.inj heard
    have unmarked : ∀ o ∈ .polled head :: ((w.pop rest).handleEvent head.event).emitted,
        isConnected o = false := by
      intro o member
      rcases List.mem_cons.mp member with rfl | member
      · rfl
      · exact handling_unmarked _ handling o member
    rw [connection_append trace _ unmarked]
    exact tie_intro settings discoveryPayload _ _ b s session lastWords
      (drain_held settings discoveryPayload _ w b s head rest up control tracked agrees
        events ordered.leftovers.1 fresh stops delivered noticed)

end Polled

/-- Shutdown on a connection in use: Offline is asked for and not sent yet. -/
theorem shutdown_tie (trace : List Obs) (w : World) (b b' : Broker) (s : Session)
    (place : Place (connection trace) w) (session : b.session = some s)
    (lastWords : LastWords settings b s)
    (tie : Tie settings discoveryPayload (connection trace) w b)
    (held : Held settings discoveryPayload (connection trace) w b s)
    (control : w.control = .select)
    (heard : (broker settings discoveryPayload will).hearAll b w.gracefulShutdown.1 = some b') :
    Tie settings discoveryPayload (connection (trace ++ w.gracefulShutdown.1))
      w.gracefulShutdown.2 b' := by
  cases up : w.client.up with
  | true =>
    obtain ⟨-, agrees, running, -⟩ := place_live _ w place control up
    obtain ⟨delivered, noticed⟩ :=
      held_inUse settings discoveryPayload _ w b s held ⟨up, .inl control⟩
    rw [gracefulShutdown_eq (connection trace) w agrees running] at heard ⊢
    rw [hearAll_deaf settings discoveryPayload will b _ (by simp [Obs.isDeaf])] at heard
    obtain rfl := Option.some.inj heard
    rw [connection_append trace _ (by simp [isConnected])]
    obtain ⟨begun, unstopped⟩ := phaseAgrees_begun _ _ _ agrees
    obtain ⟨skip, phase⟩ := shutdown_phase w.protocol running begun unstopped
    refine tie_intro settings discoveryPayload _ _ b s session lastWords
      (.inr ⟨⟨up, .inr rfl⟩,
        delivered_append settings discoveryPayload _ _ b s rfl delivered, ?_⟩)
    refine noticed_next _ _ w _ _ noticed ⟨[], rfl⟩ ?_ (by simp [request?])
    intro id awaits
    simp [phase] at awaits
  | false =>
    have phase := (place_down _ w place control up).phase
    simp only [World.gracefulShutdown, BootstrapMachine.shutdown, phase] at heard ⊢
    obtain rfl := stop_heard settings discoveryPayload will b b' _
      [.shutdown .disconnected, .reported .shuttingDown] (by simp [Obs.isDeaf]) heard
    exact tie_detach settings discoveryPayload _ _ w _ b tie

/-- The ConnAck of an accepted connection is answered with Discovery. -/
theorem connect_tie (trace : List Obs) (w : World) (b b' : Broker) (s : Session)
    (place : Place (connection trace) w)
    (place' : Place (connection (trace ++ w.connect.1)) w.connect.2)
    (session : b.session = some s) (lastWords : LastWords settings b s)
    (held : Held settings discoveryPayload (connection trace) w b s)
    (control : w.control = .connAcked)
    (heard : (broker settings discoveryPayload will).hearAll b w.connect.1 = some b') :
    Tie settings discoveryPayload (connection (trace ++ w.connect.1)) w.connect.2 b' := by
  obtain ⟨up, unconnected⟩ := place_connAcked _ w place control
  have empty := unconnected.queue
  obtain ⟨-, wire, handled, acks⟩ := held_fresh settings discoveryPayload _ w b s held
    (by simp [InUse, control])
  rw [hearAll_deaf settings discoveryPayload will b _ (by
    rw [connect_eq w empty]
    simp [Obs.isDeaf])] at heard
  obtain rfl := Option.some.inj heard
  refine tie_intro settings discoveryPayload _ _ b s session lastWords ?_
  refine held_live settings discoveryPayload _ _ b s place' (by rw [connect_eq w empty])
    (by rw [connect_eq w empty]; exact up) ?_
  rw [connect_connection trace w empty]
  exact {
    sent := by simp [wire, handled, transmission?]
    acks := by simp [acks]
    distinct := by simp [Broker.unacknowledged, wire, acks]
    offline := by simp [OfflineHandled, handled] }

/-- A slot is replaced or a flag raised. -/
theorem quiet_tie (trace : List Obs) (o : Obs) (w v : World) (b b' : Broker) (s : Session)
    (session : b.session = some s) (lastWords : LastWords settings b s)
    (held : Held settings discoveryPayload (connection trace) w b s) (deaf : o.isDeaf = true)
    (unmarked : isConnected o = false) (silent : requests [o] = []) (client : v.client = w.client)
    (control : v.control = w.control) (protocol : v.protocol = w.protocol)
    (heard : (broker settings discoveryPayload will).hearAll b [o] = some b') :
    Tie settings discoveryPayload (connection (trace ++ [o])) v b' := by
  rw [hearAll_deaf settings discoveryPayload will b _ (by simpa using deaf)] at heard
  obtain rfl := Option.some.inj heard
  rw [connection_append trace _ (by simpa using unmarked)]
  refine tie_intro settings discoveryPayload _ _ b s session lastWords
    (held_quiet settings discoveryPayload _ _ w v b s client control protocol ?_ ?_ held)
  · cases o <;> simp_all [Obs.isDeaf, transmission?]
  · simp [actions, silent]

/-- A step of the supervisor, heard by a broker whose session it still holds. -/
theorem step_held (trace : List Obs) (w : World) (b b' : Broker) (s : Session) (i : Input)
    (emitted : List Obs) (v : World) (ordered : Ordered (.documented fun _ => false) trace w)
    (session : b.session = some s) (attached : s.attached = true)
    (tie : Tie settings discoveryPayload (connection trace) w b)
    (taken : step (.documented fun _ => false) w i = some (emitted, v))
    (heard : (broker settings discoveryPayload will).hearAll b emitted = some b') :
    Tie settings discoveryPayload (connection (trace ++ emitted)) v b' := by
  have ordered' := step_ordered _ rfl rfl trace w i emitted v ordered (.inl rfl) taken
  have place := ordered.place
  obtain ⟨lastWords, holds⟩ : LastWords settings b s ∧
      (s.attached = true → Held settings discoveryPayload (connection trace) w b s) := by
    simpa [Tie, session] using tie
  have held := holds attached
  cases step_taken _ w i emitted v taken with
  | replaceState message =>
    exact quiet_tie settings discoveryPayload will trace _ w _ b b' s session lastWords held rfl rfl
      rfl rfl rfl rfl heard
  | request =>
    exact quiet_tie settings discoveryPayload will trace _ w _ b b' s session lastWords held rfl rfl
      rfl rfl rfl rfl heard
  | signal =>
    exact quiet_tie settings discoveryPayload will trace _ w _ b b' s session lastWords held rfl rfl
      rfl rfl rfl rfl heard
  | transmit position id r found may =>
    rw [connection_append trace _ (by simp [isConnected])]
    exact transmit_tie settings discoveryPayload will _ rfl rfl _ w b b' s position id r place
      session attached held found may heard
  | receive id up =>
    rw [connection_append trace _ (by simp [isConnected])]
    exact receive_tie settings discoveryPayload will _ w b b' s id place session lastWords held
      heard
  | ping up =>
    obtain rfl := Option.some.inj heard
    rw [connection_append trace _ (by simp)]
    exact ping_tie settings discoveryPayload _ w b s session lastWords held
  | accepted control down =>
    have fresh := held_fresh settings discoveryPayload _ w b s held (by simp [InUse, down])
    rw [hearAll_one, Broker.hear] at heard
    split at heard
    · obtain rfl := Option.some.inj heard
      exact tie_intro settings discoveryPayload _ _ b s session lastWords
        (.inl ⟨.inr rfl, fresh.2⟩)
    · contradiction
  | refused code refuses control down =>
    -- a refusal comes from no accepted session
    simp [Partner.hearAll, broker, Broker.hear, session, attached, refuses] at heard
  | connect control =>
    exact connect_tie settings discoveryPayload will trace w b b' s place ordered'.place session
      lastWords held control heard
  | polled head rest up events control =>
    exact turn_tie settings discoveryPayload will trace w b b' s head rest up control ordered'.place
      session lastWords tie held heard
  | drained head rest up events control =>
    exact drain_tie settings discoveryPayload will trace w b b' s head rest control ordered events
      session lastWords tie held heard
  | failed kept among keeps control =>
    have detached := hearAll_detach settings discoveryPayload will b []
      [.reported .disconnected] .lost (by simp) (by simp [Obs.isDeaf]) rfl
    obtain rfl := Option.some.inj (detached.symm.trans heard)
    exact tie_detach settings discoveryPayload _ _ w _ b tie
  | abandoned kept control =>
    have lost : (broker settings discoveryPayload will).hearAll b.detach w.stop.1 = some b' := heard
    obtain rfl := stop_heard settings discoveryPayload will b.detach b' w [] (by simp) lost
    have gone := tie_detach settings discoveryPayload _ (connection trace) w w b tie
    exact tie_detach settings discoveryPayload _ _ w _ _ gone
  | state control accepts changed =>
    have up := place_listening _ w place control accepts
    obtain ⟨delivered, -⟩ :=
      held_inUse settings discoveryPayload _ w b s held ⟨up, .inl control⟩
    exact conclude_tie settings discoveryPayload will trace [] w w b b' s _ (by simp) (by simp)
      (andThen_handling _ _ (publishCurrentState_handling w) finishTurn_handling)
      (World.andThen_frame _ _ _ (World.publishCurrentState_frame w) World.finishTurn_frame)
      control up ordered'.place session lastWords tie delivered heard
  | shutdown control =>
    exact shutdown_tie settings discoveryPayload will trace w b b' s place session lastWords tie
      held control heard
  | dismissed control =>
    obtain rfl := stop_heard settings discoveryPayload will b b' _ [.shutdown w.protocol.phase]
      (by simp [Obs.isDeaf]) heard
    exact tie_detach settings discoveryPayload _ _ w _ b tie
  | retry control =>
    obtain ⟨waiting, -⟩ := held_fresh settings discoveryPayload _ w b s held
      (by simp [InUse, control])
    simp [control] at waiting
  | timeout control =>
    obtain rfl := stop_heard settings discoveryPayload will b b' w [] (by simp) heard
    exact tie_detach settings discoveryPayload _ _ w _ b tie

theorem step_tie (trace : List Obs) (w : World) (b b' : Broker) (i : Input)
    (emitted : List Obs) (v : World) (ordered : Ordered (.documented fun _ => false) trace w)
    (tie : Tie settings discoveryPayload (connection trace) w b)
    (taken : step (.documented fun _ => false) w i = some (emitted, v))
    (heard : (broker settings discoveryPayload will).hearAll b emitted = some b') :
    Tie settings discoveryPayload (connection (trace ++ emitted)) v b' := by
  by_cases attached : ∃ s, b.session = some s ∧ s.attached = true
  · obtain ⟨s, session, attached⟩ := attached
    exact step_held settings discoveryPayload will trace w b b' s i emitted v ordered session
      attached tie taken heard
  · have unattached : ∀ s, b.session = some s → s.attached = false := by
      intro s session
      by_contra other
      exact attached ⟨s, session, by simpa using other⟩
    obtain ⟨session, retained⟩ := hearAll_unattached settings discoveryPayload will b b' emitted
      unattached heard
    exact tie_unattached settings discoveryPayload _ _ w v b b' unattached session retained tie

end

theorem shutdown_requests (trace : List Obs) (w : World) (closes : Closes trace w)
    (phase : Phase) (later : List Obs) (found : closing trace = some (phase, later)) :
    ShutdownActions phase later := by
  unfold Closes at closes
  rw [found] at closes
  cases control : w.control with
  | draining =>
    simp only [control] at closes
    unfold ShutdownActions
    rw [if_neg closes.1, closes.2]
    split
    · exact .inr rfl
    · exact .inl rfl
  | returned error => simpa [control] using closes
  | select | connAcked | retrying => simp [control] at closes

/-- A Disconnect comes after the PubAck of this connection's Offline. -/
def DisconnectsAcknowledged (c : List Obs) : Obs → Prop
  | .requested ⟨.disconnect, _⟩ => Acknowledged .publishOffline c
  | _ => True

/-- Shutdown requests Offline once and then at most a Disconnect, which waits for
Offline's own acknowledgement; and however a connection ends, the availability
that the broker retains afterwards is offline, if there is any. -/
theorem shutdown_and_availability (settings : MqttSettings) (credentials : MqttCredentials)
    (discoveryPayload : String) :
    (∀ inputs trace w,
      (supervisor (.documented fun _ => false) settings discoveryPayload).run inputs =
          some (trace, w) →
        (∀ phase later, closing trace = some (phase, later) → ShutdownActions phase later) ∧
        Guarded (fun before o => DisconnectsAcknowledged (connection before) o) trace) ∧
    ∀ inputs trace w b,
      ((supervisor (.documented fun _ => false) settings discoveryPayload).beside
          (broker settings discoveryPayload (settings.options credentials).lastWill)).run inputs =
          some (trace, (w, b)) →
        b.session = none → Settled settings b := by
  constructor
  · intro inputs trace w ran
    have inv := (supervisor (.documented fun _ => false) settings discoveryPayload).invariant
      (fun trace w => Ordered (.documented fun _ => false) trace w ∧ Closes trace w)
      ⟨ordered_start _ settings discoveryPayload, by simp [Closes, closing, supervisor]⟩
      (fun before s i emitted t inv taken =>
        ⟨step_ordered _ rfl rfl before s i emitted t inv.1 (.inl rfl) taken,
          step_closes _ before s i emitted t inv.1 (.inl rfl) inv.2 taken⟩)
      inputs trace w ran
    refine ⟨shutdown_requests trace w inv.2, ?_⟩
    intro before o after same
    have ordered := inv.1.guarded before o after same
    unfold DisconnectsAcknowledged
    split
    · exact ordered.2
    · exact True.intro
  · intro inputs trace w b ran ended
    have tie := (beside_invariant (supervisor (.documented fun _ => false) settings discoveryPayload)
      (broker settings discoveryPayload (settings.options credentials).lastWill)
      (Ordered (.documented fun _ => false))
      (fun trace w b => Tie settings discoveryPayload (connection (own trace)) w b)
      (ordered_start _ settings discoveryPayload) (.inl rfl)
      (fun before s i emitted t ordered taken =>
        step_ordered _ rfl rfl before s i emitted t ordered (.inl rfl) taken)
      (fun before s t i emitted s' t' ordered tie taken heard => by
        rw [own_append, own_inl]
        exact step_tie settings discoveryPayload _ (own before) s t t' i emitted s' ordered tie
          taken heard)
      (fun before s t k emitted t' ordered tie acted => by
        rw [own_append, own_inr, List.append_nil]
        exact act_tie settings discoveryPayload _ s t t' k emitted ordered.place tie acted)
      inputs trace w b ran).2
    simpa [Tie, ended] using tie

/-- The supervisor and the broker, from a ConnAck to the end of the session. -/
def shutdownInputs : List (Input ⊕ BrokerInput) :=
  [.inr .accept, .inl (.connAck .success), .inl .connect, .inl (.transmit 0 1), .inr .handle,
    .inl .poll, .inl (.receive 1), .inl .poll, .inl (.transmit 0 2), .inr .handle, .inl .poll,
    .inl .signal, .inl .shutdown, .inl (.receive 2), .inl (.transmit 0 3), .inr .handle,
    .inl .poll, .inl .poll, .inl (.receive 3), .inl .poll, .inl (.transmit 0 0), .inr .handle,
    .inl .poll]

theorem shutdown_and_availability_graceful :
    (∃ trace w, (supervisor (.documented fun _ => false) sampleSettings "{}").run
        [.connAck .success, .connect, .signal, .shutdown] = some (trace, w) ∧
      (∀ phase later, closing trace = some (phase, later) → ShutdownActions phase later)) ∧
    ∃ trace w b, ((supervisor (.documented fun _ => false) sampleSettings "{}").beside
        (broker sampleSettings "{}" (sampleSettings.options ⟨"user", "secret"⟩).lastWill)).run
        shutdownInputs = some (trace, (w, b)) ∧
      b.session = none ∧ w.control = .returned none ∧ Settled sampleSettings b := by
  refine ⟨⟨_, _, rfl, ((shutdown_and_availability sampleSettings ⟨"user", "secret"⟩ "{}").1
    [.connAck .success, .connect, .signal, .shutdown] _ _ rfl).1⟩, ?_⟩
  exact ⟨_, _, _, rfl, rfl, rfl,
    (shutdown_and_availability sampleSettings ⟨"user", "secret"⟩ "{}").2 shutdownInputs _ _ _ rfl
      rfl⟩

end RpiHealth
