import RpiHealth.Mqtt.Order

/-! Every step keeps the bootstrap order, and so does every run. -/
namespace RpiHealth
open Machines

variable (rules : ClientRules) (settings : MqttSettings) (discoveryPayload : String)

/-- The packet made for an action has QoS 0 for a state only. -/
theorem mayTransmit_first (fifo : rules.fifo = true) (qosIds : rules.qosIds = true) (w : World)
    (position : Nat) (r : Submission) (id : PacketId)
    (may : w.mayTransmit rules position r id = true) :
    w.client.up = true ∧ position = 0 ∧
      (r.action ≠ .disconnect → (id = 0 ↔ r.action = .publishState)) := by
  simp only [World.mayTransmit, fifo, qosIds, Bool.not_true, Bool.false_or, Bool.and_eq_true,
    decide_eq_true_eq] at may
  obtain ⟨⟨up, first⟩, fits⟩ := may
  refine ⟨up, first, fun published => ?_⟩
  cases made : r.action with
  | disconnect => exact absurd made published
  | _ => simpa [World.packet, MqttSettings.request, Request.qos?, made] using fits

theorem unmistaken_head (w : World) (b : Buffered) (rest : List Buffered)
    (leftovers : Leftovers rules w.client.events) (events : w.client.events = b :: rest)
    (benign : rules.keeps = (fun _ => false) ∨ unmistaken w .poll = true) (e : Event)
    (stale : b = .stale e) : w.protocol.misattributes e = false := by
  subst stale
  rcases benign with none | benign
  · have kept := (leftovers.2 e (by simp [events])).2
    simp [none] at kept
  · simpa [unmistaken, events] using benign

theorem transmit_sound (fifo : rules.fifo = true) (qosIds : rules.qosIds = true) (c : List Obs)
    (w : World) (position : Nat) (id : PacketId) (r : Submission) (place : Place c w)
    (leftovers : Leftovers rules w.client.events) (found : w.client.queue[position]? = some r)
    (may : w.mayTransmit rules position r id = true) :
    Sound rules c ([.transmitted r id],
      { w with client := { w.client with
          queue := w.client.queue.eraseIdx position
          events := w.client.events ++ [.sent r id] } }) := by
  obtain ⟨up, rfl, fits⟩ := mayTransmit_first rules fifo qosIds w position r id may
  rw [← List.head?_eq_getElem?] at found
  obtain ⟨later, queue⟩ := List.head?_eq_some_iff.mp found
  have sent := tracked_transmit c w.client r id later queue fits
  have erased : w.client.queue.eraseIdx 0 = later := by simp [queue]
  have unreported : Client.unreported ⟨w.client.up, later, w.client.events ++ [.sent r id]⟩ =
      w.client.unreported := by
    simp [Client.unreported, queue, Buffered.request?]
  have still := phaseAgrees_append c [.transmitted r id]
  have left := leftovers_snoc rules w.client.events (.sent r id) rfl leftovers
  rw [erased]
  refine ⟨by simp [isConnected], ⟨True.intro, True.intro⟩, ?_, left⟩
  cases place with
  | live control up tracked agrees running settled =>
    exact .live control up (sent tracked)
      (by rw [unreported]; exact still _ _ rfl agrees) running settled
  | draining control up tracked agrees closing =>
    exact .draining control up (sent tracked)
      (by rw [unreported]; exact still _ _ rfl agrees) closing
  | idle control empty => simp [empty] at queue
  | ended error control empty => simp [empty] at queue

/-- An event of this connection that reports no request is buffered. -/
theorem buffer_place (c d : List Obs) (w : World) (b : Buffered) (own : b.isStale = false)
    (silent : b.request? = none) (quiet : requests d = []) (unsent : transmitted d = [])
    (place : Place c w) (up : w.client.up = true) : Place (c ++ d) (w.buffer b) := by
  have unreported : (w.buffer b).client.unreported = w.client.unreported := by
    simp [World.buffer, Client.unreported, silent]
  have still := fun tracked => tracked_append c d _ quiet unsent
    (tracked_buffer c w.client b own silent tracked)
  have agreed := fun phase => phaseAgrees_append c d (w.client.unreported.map (·.action)) phase
    (by simp [actions, quiet])
  cases place with
  | live control up tracked agrees running settled =>
    exact .live control up (still tracked) (by rw [unreported]; exact agreed _ agrees) running
      settled
  | draining control up tracked agrees closing =>
    exact .draining control up (still tracked) (by rw [unreported]; exact agreed _ agrees) closing
  | idle control empty unheard phase settled =>
    refine .idle control empty ?_ phase settled
    intro r id member
    rcases List.mem_append.mp member with member | member
    · exact unheard r id member
    · obtain rfl : .sent r id = b := by simpa using member
      simp [Buffered.request?] at silent
  | ended error control empty => simp [empty] at up

theorem connect_eq (w : World) (empty : w.client.queue = []) :
    w.connect =
      ([.allocated (requestCollection w.requests).2, .reported .bootstrapping,
          .connected (requestCollection w.requests).2, .requested ⟨.publishDiscovery, none⟩],
        { w with
          requests := (requestCollection w.requests).1
          status := .bootstrapping
          protocol := (w.protocol.connected (requestCollection w.requests).2).1
          control := .select
          client := { w.client with queue := [⟨.publishDiscovery, none⟩] } }) := by
  simp [World.connect, BootstrapMachine.connected, World.perform, empty, REQUEST_CHANNEL_CAPACITY,
    World.conclude]

/-- Discovery is the connection's first request. -/
theorem connect_connection (trace : List Obs) (w : World) (empty : w.client.queue = []) :
    connection (trace ++ w.connect.1) = [.requested ⟨.publishDiscovery, none⟩] := by
  have shift : trace ++ w.connect.1 =
      (trace ++ [.allocated (requestCollection w.requests).2, .reported .bootstrapping]) ++
        .connected (requestCollection w.requests).2 :: [.requested ⟨.publishDiscovery, none⟩] := by
    simp [connect_eq w empty]
  rw [connection, shift, since_append_marked isConnected _ _ _ rfl (by simp [isConnected])]

theorem connect_ordered (trace : List Obs) (w : World) (ordered : Ordered rules trace w)
    (control : w.control = .connAcked) :
    Ordered rules (trace ++ w.connect.1) w.connect.2 := by
  obtain ⟨guarded, place, leftovers⟩ := ordered
  obtain ⟨up, empty, silent, phase, settled⟩ := place_connAcked _ w place control
  have whole := connect_connection trace w empty
  have none : w.client.events.filterMap Buffered.request? = [] := by
    simp only [List.filterMap_eq_nil_iff]
    intro b member
    cases b with
    | sent r id => exact absurd member (silent r id)
    | _ => rfl
  refine ⟨?_, ?_, ?_⟩
  · rw [connect_eq w empty]
    refine (guarded_append _ _ _).mpr
      ⟨guarded, True.intro, True.intro, True.intro, ?_, True.intro⟩
    show actions (connection _) = []
    rw [connection, since_snoc]
    rfl
  · rw [whole, connect_eq w empty]
    refine .live rfl up ?_ ?_ rfl rfl
    · exact {
        fifo := by simp [transmission?]
        sent := fun r id member => absurd member (silent r id)
        ids := fun r id member => absurd member (silent r id)
        leftover := fun e _ => by simp [Client.unreported, none] }
    · simp only [Client.unreported, none]
      exact ⟨rfl, rfl⟩
  · rw [connect_eq w empty]
    exact leftovers

/-- What replaces a slot or raises the flag leaves the connection alone. -/
theorem quiet_sound (c : List Obs) (o : Obs) (w v : World) (place : Place c w)
    (leftovers : Leftovers rules w.client.events) (unmarked : isConnected o = false)
    (met : InOrder c o) (quiet : requests [o] = []) (unsent : transmitted [o] = [])
    (client : v.client = w.client) (control : v.control = w.control)
    (protocol : v.protocol = w.protocol) : Sound rules c ([o], v) where
  unmarked a member := by
    obtain rfl : a = o := by simpa using member
    exact unmarked
  meets := ⟨met, True.intro⟩
  place := place_quiet c [o] w v quiet unsent client control protocol place
  leftovers := client ▸ leftovers

/-- In the select loop no Disconnect was requested, so none is left over. -/
theorem select_ordinary (c : List Obs) (w : World) (place : Place c w)
    (leftovers : Leftovers rules w.client.events) (control : w.control = .select) (b : Buffered)
    (member : b ∈ w.client.events) : b.event.isOrdinary = true := by
  cases up : w.client.up with
  | true =>
    obtain ⟨-, agrees, running, -⟩ := place_live c w place control up
    exact events_ordinary rules c w.client w.protocol.phase agrees running leftovers b member
  | false =>
    have silent := (place_down c w place control up).silent
    cases b with
    | sent r id => exact absurd member (silent r id)
    | ack id => rfl
    | quiet => rfl
    | stale e => exact (leftovers.2 e member).1

theorem fail_sound (c : List Obs) (w : World) (kept : List Event) (place : Place c w)
    (leftovers : Leftovers rules w.client.events)
    (among : kept.Sublist (w.client.events.map Buffered.event))
    (keeps : ∀ e ∈ kept, rules.keeps e = true) (control : w.control = .select) :
    Sound rules c (w.connectionFailed kept) where
  unmarked := by simp [World.connectionFailed, isConnected]
  meets := ⟨True.intro, True.intro, True.intro⟩
  place := .idle (.inr (.inr ⟨rfl, rfl⟩)) rfl (by simp [World.connectionFailed]) rfl rfl
  leftovers := by
    refine ⟨List.pairwise_map.mpr (List.pairwise_of_forall (fun _ _ _ => rfl)), ?_⟩
    intro e member
    simp only [World.connectionFailed, List.mem_map, Buffered.stale.injEq,
      exists_eq_right] at member
    refine ⟨?_, keeps e member⟩
    obtain ⟨b, found, rfl⟩ := List.mem_map.mp (among.subset member)
    exact select_ordinary rules c w place leftovers control b found

theorem shutdown_sound (c : List Obs) (w : World) (place : Place c w)
    (leftovers : Leftovers rules w.client.events) (control : w.control = .select) :
    Sound rules c w.gracefulShutdown := by
  cases up : w.client.up with
  | true =>
    obtain ⟨tracked, agrees, running, -⟩ := place_live c w place control up
    exact gracefulShutdown_sound rules c w up tracked agrees running leftovers
  | false =>
    have phase := (place_down c w place control up).phase
    simp only [World.gracefulShutdown, BootstrapMachine.shutdown, phase]
    exact sound_cons rules c _ (_ :: _, _) rfl True.intro
      (sound_cons rules _ _ _ rfl True.intro (stop_sound rules _ _))

/-- One step keeps the order, unless a leftover event is mistaken for one of its
own. -/
theorem step_ordered (fifo : rules.fifo = true) (qosIds : rules.qosIds = true)
    (trace : List Obs) (w : World) (i : Input) (emitted : List Obs) (v : World)
    (ordered : Ordered rules trace w)
    (benign : rules.keeps = (fun _ => false) ∨ unmistaken w i = true)
    (taken : step rules w i = some (emitted, v)) : Ordered rules (trace ++ emitted) v := by
  by_cases connecting : i = .connect
  · subst connecting
    cases step_taken rules w .connect emitted v taken with
    | connect control => exact connect_ordered rules trace w ordered control
  obtain ⟨guarded, place, leftovers⟩ := ordered
  refine ordered_of_sound rules trace (emitted, v) guarded ?_
  cases step_taken rules w i emitted v taken with
  | connect control => exact absurd rfl connecting
  | replaceState message =>
    exact quiet_sound rules _ _ w _ place leftovers rfl True.intro rfl rfl rfl rfl rfl
  | request => exact quiet_sound rules _ _ w _ place leftovers rfl True.intro rfl rfl rfl rfl rfl
  | signal => exact quiet_sound rules _ _ w _ place leftovers rfl True.intro rfl rfl rfl rfl rfl
  | transmit position id r found may =>
    exact transmit_sound rules fifo qosIds _ w position id r place leftovers found may
  | receive id up =>
    exact ⟨by simp [isConnected], ⟨True.intro, True.intro⟩,
      buffer_place _ _ w _ rfl rfl rfl rfl place up, leftovers_snoc _ _ _ rfl leftovers⟩
  | ping up =>
    exact ⟨by simp, True.intro, buffer_place _ _ w _ rfl rfl rfl rfl place up,
      leftovers_snoc _ _ _ rfl leftovers⟩
  | accepted control down =>
    obtain ⟨empty, silent, phase, settled⟩ := place_down _ w place control down
    exact {
      unmarked := by simp [isConnected]
      meets := ⟨True.intro, True.intro⟩
      place := .idle (.inr (.inl ⟨rfl, rfl⟩)) empty silent phase settled
      leftovers := leftovers }
  | refused code refuses control down =>
    obtain ⟨empty, silent, phase, settled⟩ := place_down _ w place control down
    rw [turn_idle w code phase settled]
    exact {
      unmarked := by simp [isConnected]
      meets := ⟨True.intro, True.intro⟩
      place := .idle (.inl ⟨control, down⟩) empty silent phase settled
      leftovers := leftovers }
  | polled b rest up events control =>
    obtain ⟨tracked, agrees, running, settled⟩ := place_live _ w place control up
    have own := unmistaken_head rules w b rest leftovers events benign
    exact sound_cons rules _ (.polled b) _ rfl True.intro
      (turn_sound rules _ w b rest control up tracked agrees running settled leftovers events own)
  | drained b rest up events control =>
    obtain ⟨-, tracked, agrees, closing⟩ := place_draining _ w place control
    have own := unmistaken_head rules w b rest leftovers events benign
    exact sound_cons rules _ (.polled b) _ rfl True.intro
      (drain_sound rules _ w b rest control up tracked agrees closing leftovers events own)
  | failed kept among keeps control =>
    exact fail_sound rules _ w kept place leftovers among keeps control
  | abandoned kept control =>
    exact sound_cons rules _ .lost _ rfl True.intro (stop_sound rules _ w)
  | state control accepts changed =>
    have up := place_listening _ w place control accepts
    obtain ⟨tracked, agrees, running, settled⟩ := place_live _ w place control up
    exact stateTurn_sound rules _ w control up tracked agrees running settled leftovers
  | shutdown control => exact shutdown_sound rules _ w place leftovers control
  | dismissed control => exact sound_cons rules _ _ _ rfl True.intro (stop_sound rules _ _)
  | retry control =>
    obtain ⟨down, empty, silent, phase, settled⟩ := place_retrying _ w place control
    rw [retry_idle w phase settled]
    exact ⟨by simp, True.intro, .idle (.inl ⟨rfl, down⟩) empty silent phase settled, leftovers⟩
  | timeout control => exact stop_sound rules _ w

theorem ordered_start : Ordered rules [] (supervisor rules settings discoveryPayload).initial where
  guarded := guarded_nil _
  place := .idle (.inl ⟨rfl, rfl⟩) rfl (by simp [supervisor]) rfl rfl
  leftovers := by simp [supervisor, Leftovers, StaleFirst]

theorem run_ordered (inputs : List Input) (trace : List Obs) (w : World)
    (ran : (supervisor (.documented fun _ => false) settings discoveryPayload).run inputs =
      some (trace, w)) : Ordered (.documented fun _ => false) trace w :=
  Machine.invariant _ (Ordered _) (ordered_start _ settings discoveryPayload)
    (fun before s i emitted t ordered taken =>
      step_ordered _ rfl rfl before s i emitted t ordered (.inl rfl) taken)
    inputs trace w ran

/-- Requests made in order form a prefix of the bootstrap until shutdown. -/
theorem bootstrapOrder_of_guarded (c : List Obs) (guarded : Guarded InOrder c)
    (running : ¬ HasShutdown c) : BootstrapOrder (actions c) := by
  induction c using List.reverseRecOn with
  | nil => exact ⟨0, by simp⟩
  | append_singleton c o ih =>
    obtain ⟨earlier, last⟩ := (guarded_snoc InOrder c o).mp guarded
    have before : ¬ HasShutdown c := fun closed => running (hasShutdown_append c [o] closed)
    have sofar := ih earlier before
    cases o with
    | requested r =>
      obtain ⟨action, message⟩ := r
      cases action with
      | publishDiscovery =>
        have first : actions c = [] := last
        exact ⟨0, by simp [first, bootstrapSequence]⟩
      | publishOnline =>
        have first : actions c = [.publishDiscovery] := last.1
        exact ⟨0, by simp [first, bootstrapSequence]⟩
      | publishState =>
        obtain ⟨states, all⟩ := last.1
        exact ⟨states + 1, by simp [all, bootstrapSequence_snoc]⟩
      | publishOffline => exact absurd last before
      | disconnect => exact absurd last.1 before
    | _ => simpa [request?] using sofar

/-- Bootstrap order on the wire. -/
theorem bootstrap_order (inputs : List Input) (trace : List Obs) (w : World)
    (ran : (supervisor (.documented fun _ => false) settings discoveryPayload).run inputs =
      some (trace, w)) :
    Guarded (fun before o => InOrder (connection before) o) trace ∧
      ∀ before, before <+: trace → ¬ HasShutdown (connection before) →
        BootstrapOrder (actions (connection before)) := by
  have guarded := (run_ordered settings discoveryPayload inputs trace w ran).guarded
  refine ⟨guarded, fun before isPrefix running => ?_⟩
  exact bootstrapOrder_of_guarded _
    (guarded_since isConnected InOrder before (guarded_initial _ before trace isPrefix guarded))
    running

def sampleSettings : MqttSettings where
  host := "mqtt.example.test"
  port := 1883
  clientId := "rpi-health-pi"
  keepAlive := 30
  stateTopic := "rpi-health/pi/state"
  availabilityTopic := "rpi-health/pi/availability"
  discoveryTopic := "homeassistant/device/pi/config"

/-- A connection from its ConnAck to the first state. -/
def bootstrapInputs : List Input :=
  [.connAck .success, .connect, .transmit 0 1, .poll, .receive 1, .poll, .transmit 0 2, .poll,
    .receive 2, .poll, .replaceState ⟨1, "{}"⟩, .state, .transmit 0 0, .poll]

theorem bootstrap_order_online : ∃ trace w,
    (supervisor (.documented fun _ => false) sampleSettings "{}").run bootstrapInputs =
      some (trace, w) ∧
    w.status = .online ∧ actions (connection trace) = bootstrapSequence 1 ∧
    Guarded (fun before o => InOrder (connection before) o) trace :=
  ⟨_, _, rfl, rfl, rfl, (bootstrap_order sampleSettings "{}" bootstrapInputs _ _ rfl).1⟩

end RpiHealth
