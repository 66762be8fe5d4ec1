import RpiHealth.Daemon.Stopping

/-! What is still begun after the flag is raised: no collection is asked for, at most
two that were asked for before come to an end, and the client is asked for nothing but
Offline and Disconnect. -/
namespace RpiHealth
open Machines Watch Service

/-- A connection that is being shut down is in a phase of its own. -/
def Leaving (w : World) : Prop := w.control = .draining → w.protocol.phase.isShutdown = true

/-- What is asked of a client while its connection is shut down. -/
def Parting (o : Obs) : Prop :=
  (∀ requestId, o ≠ .allocated requestId) ∧
    ∀ r, o = .requested r → r.action = .publishOffline ∨ r.action = .disconnect

theorem performAny_emitted (w : World) (action : Option ProtocolAction)
    (message : Option StateMessage) (o : Obs)
    (member : o ∈ (w.performAny action message).emitted) :
    ∃ a, action = some a ∧ o = .requested ⟨a, message⟩ := by
  cases action with
  | none => simp [World.performAny] at member
  | some a =>
    simp only [World.performAny, World.perform] at member
    split at member
    · exact ⟨a, rfl, List.mem_singleton.mp member⟩
    · simp at member

theorem reaction_parting (m : BootstrapMachine) (event : Event) (action : ProtocolAction)
    (leaving : m.phase.isShutdown = true) (asked : (m.reaction event).2 = some action) :
    action = .disconnect := by
  cases event with
  | incoming packet =>
    cases packet with
    | pubAck id =>
      rcases m.publishAcknowledged_cases id with
        ⟨phase, taken⟩ | ⟨phase, taken⟩ | ⟨phase, taken⟩ | taken <;>
        simp_all [BootstrapMachine.reaction, Phase.isShutdown]
    | _ => simp [BootstrapMachine.reaction] at asked
  | outgoing packet =>
    cases packet with
    | publish id => simp [BootstrapMachine.reaction, (m.outgoingPublish_cases id).1] at asked
    | disconnect | other =>
      simp [BootstrapMachine.reaction, BootstrapMachine.disconnected] at asked

/-- Shutdown asks for Offline and moves into the phases of its own, or for nothing. -/
theorem shutdown_parting (m : BootstrapMachine) (action : ProtocolAction)
    (asked : m.shutdown.2 = some action) :
    action = .publishOffline ∧ m.shutdown.1.phase.isShutdown = true := by
  unfold BootstrapMachine.shutdown at asked ⊢
  split at asked <;> simp_all [Phase.isShutdown]

theorem conclude_parting (out : Outcome) (parting : ∀ o ∈ out.emitted, Parting o) :
    ∀ o ∈ (World.conclude out).1, Parting o := by
  unfold World.conclude
  split
  · exact parting
  · intro o member
    rcases List.mem_append.mp member with old | new
    · exact parting o old
    · rw [List.mem_singleton.mp new]
      simp [Parting]

theorem stop_parting (w : World) : ∀ o ∈ w.stop.1, Parting o := by
  simp [World.stop, Parting]

theorem handleEvent_parting (w : World) (event : Event)
    (leaving : w.protocol.phase.isShutdown = true) :
    ∀ o ∈ (w.handleEvent event).emitted, Parting o := by
  intro o member
  obtain ⟨action, asked, rfl⟩ := performAny_emitted _ _ _ o member
  obtain rfl := reaction_parting w.protocol event action leaving asked
  simp [Parting]

theorem drain_parting (w : World) (event : Event) (leaving : w.protocol.phase.isShutdown = true) :
    ∀ o ∈ (w.drain event).1, Parting o := by
  have handled := handleEvent_parting w event leaving
  simp only [World.drain]
  split
  · intro o member
    rcases List.mem_append.mp member with old | new
    · exact handled o old
    · exact stop_parting _ o new
  · exact conclude_parting _ handled

theorem gracefulShutdown_parting (w : World) : ∀ o ∈ w.gracefulShutdown.1, Parting o := by
  let v : World := { w with
    protocol := w.protocol.shutdown.1, status := .shuttingDown, control := .draining }
  intro o member
  simp only [World.gracefulShutdown, List.mem_cons] at member
  rcases member with rfl | rfl | later
  · simp [Parting]
  · simp [Parting]
  · cases asked : w.protocol.shutdown.2 with
    | none =>
      rw [asked] at later
      exact stop_parting v o later
    | some action =>
      rw [asked] at later
      refine conclude_parting (v.perform action none) (fun p among => ?_) o later
      obtain ⟨a, same, rfl⟩ := performAny_emitted v (some action) none p among
      obtain rfl := Option.some.inj same
      simp [Parting, (shutdown_parting w.protocol _ asked).1]

theorem leaving_returned (w : World) (error : Option MqttError)
    (control : w.control = .returned error) : Leaving w := by
  simp [Leaving, control]

theorem conclude_leaving (out : Outcome)
    (still : out.error = none → out.world.protocol.phase.isShutdown = true) :
    Leaving (World.conclude out).2 := by
  unfold World.conclude
  split
  · rename_i fine
    exact fun _ => still fine
  · exact leaving_returned _ _ rfl

theorem gracefulShutdown_leaving (w : World) : Leaving w.gracefulShutdown.2 := by
  let v : World := { w with
    protocol := w.protocol.shutdown.1, status := .shuttingDown, control := .draining }
  simp only [World.gracefulShutdown]
  cases asked : w.protocol.shutdown.2 with
  | none => exact leaving_returned _ none rfl
  | some action =>
    have kept := World.performAny_protocol v (some action) none
    refine conclude_leaving (v.perform action none) (fun _ => ?_)
    exact (congrArg (fun m => m.phase.isShutdown) kept).trans
      (shutdown_parting w.protocol action asked).2

theorem drain_leaving (w : World) (event : Event) (leaving : w.protocol.phase.isShutdown = true) :
    Leaving (w.drain event).2 := by
  simp only [World.drain]
  split
  · exact leaving_returned _ none rfl
  · rename_i goes
    refine conclude_leaving _ (fun fine => ?_)
    rw [World.handleEvent_protocol]
    exact (w.protocol.reaction_isShutdown event (fun ends => goes ⟨fine, .inl ends⟩)).trans leaving

theorem step_leaving (rules : ClientRules) (w v : World) (i : Input) (emitted : List Obs)
    (dormant : Dormant w) (leaving : Leaving w) (taken : step rules w i = some (emitted, v)) :
    Leaving v := by
  have shift := step_shift rules w v i emitted dormant taken
  cases step_taken rules w i emitted v taken with
  | replaceState | request | signal | transmit | receive | ping => exact leaving
  | drained b rest up events control => exact drain_leaving (w.pop rest) b.event (leaving control)
  | shutdown control => exact gracefulShutdown_leaving w
  | abandoned | dismissed | timeout => exact leaving_returned _ none rfl
  | accepted here | connect here | polled _ _ _ _ here | failed _ _ _ here | state here
  | refused _ _ here | retry here =>
    intro draining
    cases shift with
    | accepts _ _ goes | starts _ _ goes | loses _ _ goes | retries _ _ goes | ends _ goes
    | fails _ _ goes => simp [goes] at draining
    | stays same => simp [here, same] at draining
    | drains _ input => simp at input

/-- With the flag raised. -/
theorem step_parting (rules : ClientRules) (w v : World) (i : Input) (emitted : List Obs)
    (dormant : Dormant w) (leaving : Leaving w) (own : i.isSupervisors = true)
    (idle : w.control ≠ .connAcked) (noticed : w.control = .select → i = .shutdown)
    (taken : step rules w i = some (emitted, v)) : ∀ o ∈ emitted, Parting o := by
  cases step_taken rules w i emitted v taken with
  | replaceState | request | signal => simp [Input.isSupervisors] at own
  | transmit | receive | ping => simp [Parting]
  | accepted here | polled _ _ _ _ here | failed _ _ _ here | state here | refused _ _ here =>
    simpa using noticed here
  | connect here => exact absurd here idle
  | drained b rest up events control =>
    have parted := drain_parting (w.pop rest) b.event (leaving control)
    simpa [Parting] using parted
  | abandoned kept control => simp [World.stop, Parting]
  | shutdown control => exact gracefulShutdown_parting w
  | dismissed control => simp [World.stop, Parting]
  | retry control =>
    have quiet := retry_idle w (dormant.idle (.inr (.inl control))).2
      (dormant.settled (.inr (.inr control)))
    simp [quiet]
  | timeout control => exact stop_parting w

/-- Only an allocation writes the request slot. -/
theorem step_requests_kept (rules : ClientRules) (w v : World) (i : Input) (emitted : List Obs)
    (dormant : Dormant w) (other : ∀ m, i ≠ .replaceState m)
    (silent : ∀ requestId, .allocated requestId ∉ emitted)
    (taken : step rules w i = some (emitted, v)) : v.requests = w.requests := by
  have kept := (step_moves w i emitted v dormant other taken).keep
    (fun trace p => p.requests = w.requests ∨ ∃ requestId, .allocated requestId ∈ trace) ?_ []
    (.inl rfl)
  · exact kept.resolve_right (fun ⟨requestId, member⟩ => silent requestId (by simpa using member))
  · intro trace p further q before moved
    rcases before with same | ⟨requestId, member⟩
    · cases moved with
      | allocate | begin => exact .inr ⟨(requestCollection p.requests).2, by simp⟩
      | _ => exact .inl same
    · exact .inr ⟨requestId, List.mem_append_left _ member⟩

section Winding

variable {C X : Type} (rules : ClientRules) (collects : SnapshotCollector C X)

/-- A collection comes to its end. -/
def ServiceInput.endsCycle : ServiceInput X → Bool
  | .collect _ | .collectPanics => true
  | _ => false

/-- The collections that are under way or asked for. -/
def Service.outstanding (s : Service C) : Nat :=
  (if s.seen = s.world.requests.version then 0 else 1) +
    match s.stage with
    | .taken _ | .collecting _ => 1
    | _ => 0

theorem serves_leaving (s t : Service C) (i : ServiceInput X) (emitted : List (Served X))
    (grounded : Grounded s) (leaving : Leaving s.world)
    (taken : Serves rules collects s i emitted t) : Leaving t.world := by
  cases taken with
  | mqtt i own w may stepped =>
    exact step_leaving rules s.world w i own grounded.dormant leaving stepped
  | spin running control =>
    rw [spin_world s grounded control]
    exact leaving
  | _ => exact leaving

theorem serves_parting (s t : Service C) (i : ServiceInput X) (emitted : List (Served X))
    (stopping : Stopping s) (leaving : Leaving s.world)
    (taken : Serves rules collects s i emitted t) :
    t.world.requests = s.world.requests ∧ ∀ o, .inl (.inl o) ∈ emitted → Parting o := by
  cases taken with
  | mqtt i own w may stepped =>
    obtain ⟨-, mine, -, -⟩ := (mayTake_iff s i).mp may
    obtain ⟨idle, noticed⟩ := stopping_control s stopping i may
    have parted := step_parting rules s.world w i own stopping.grounded.dormant leaving mine idle
      noticed stepped
    refine ⟨step_requests_kept rules s.world w i own stopping.grounded.dormant
      (mayTake_other s i may) (fun requestId member => (parted _ member).1 requestId rfl) stepped,
      fun o member => ?_⟩
    obtain ⟨p, among, same⟩ := List.mem_map.mp member
    exact Sum.inl.inj (Sum.inl.inj same) ▸ parted p among
  | spin running control =>
    rw [spin_world s stopping.grounded control]
    exact ⟨rfl, by simp⟩
  | schedule _ _ lowered | tick _ _ _ lowered => simp [stopping.raised] at lowered
  | signal received free control | observe completion free control =>
    exact absurd control (stopping.flagged.raised.mp stopping.raised)
  | collected | _ => exact ⟨rfl, by simp [Parting]⟩

theorem serves_outstanding (s t : Service C) (i : ServiceInput X) (emitted : List (Served X))
    (stopping : Stopping s) (leaving : Leaving s.world)
    (taken : Serves rules collects s i emitted t) :
    (if i.endsCycle then 1 else 0) + t.outstanding ≤ s.outstanding := by
  have frozen := (serves_parting rules collects s t i emitted stopping leaving taken).1
  unfold Service.outstanding
  rw [frozen]
  cases taken with
  | ignored stage | took stage =>
    have unread := (stopping.grounded.notified stage).ne
    simp [stage, unread, ServiceInput.endsCycle]
  | wake stage | close stage | engage _ stage | collected _ _ _ stage | failed _ _ _ stage
  | collectPanics _ stage | released stage | gaveUp _ stage =>
    simp [stage, ServiceInput.endsCycle, Nat.add_comm]
  | signal received free control | observe completion free control =>
    exact absurd control (stopping.flagged.raised.mp stopping.raised)
  | _ => simp [ServiceInput.endsCycle]

variable (collector : C) (settings : MqttSettings) (discoveryPayload : String)

theorem service_leaving (inputs : List (ServiceInput X)) (trace : List (Served X)) (s : Service C)
    (ran : (service rules collects collector settings discoveryPayload).run inputs =
      some (trace, s)) : Leaving s.world := by
  have inv := (service rules collects collector settings discoveryPayload).invariant
    (fun _ s => Grounded s ∧ Leaving s.world)
    ⟨grounded_start rules collects settings discoveryPayload collector,
      by simp [Leaving, service]⟩ ?_ inputs trace s ran
  · exact inv.2
  · rintro _ s i emitted t ⟨grounded, leaving⟩ taken
    have serves := serve_serves rules collects s emitted t i taken
    exact ⟨serves_grounded rules collects s t i emitted grounded serves,
      serves_leaving rules collects s t i emitted grounded leaving serves⟩

theorem winding_ranked :
    (service rules collects collector settings discoveryPayload).Ranked
      (fun s => Stopping s ∧ Leaving s.world) ServiceInput.endsCycle Service.outstanding where
  keeps s i emitted t inv taken := by
    have serves := serve_serves rules collects s emitted t i taken
    exact ⟨serves_stopping rules collects s t i emitted inv.1 serves,
      serves_leaving rules collects s t i emitted inv.1.grounded inv.2 serves⟩
  lowers s i emitted t inv taken mine := by
    have less := serves_outstanding rules collects s t i emitted inv.1 inv.2
      (serve_serves rules collects s emitted t i taken)
    rw [mine, if_pos rfl] at less
    omega
  others s i emitted t inv taken _ := by
    have less := serves_outstanding rules collects s t i emitted inv.1 inv.2
      (serve_serves rules collects s emitted t i taken)
    omega

theorem outstanding_le (s : Service C) : s.outstanding ≤ 2 := by
  unfold Service.outstanding
  split <;> split <;> decide

/-- From the moment the flag is raised no collection is asked for, no more than two come
to their end, and the client is asked for nothing but Offline and Disconnect. -/
theorem service_winds_down (inputs : List (ServiceInput X)) (trace : List (Served X))
    (s : Service C)
    (ran : (service rules collects collector settings discoveryPayload).run inputs =
      some (trace, s)) (raised : s.world.shutdown = true) (later : List (ServiceInput X))
    (emitted : List (Served X)) (t : Service C)
    (ranLater : (service rules collects collector settings discoveryPayload).runFrom s later =
      some (emitted, t)) :
    (∀ o, .inl (.inl o) ∈ emitted → Parting o) ∧ later.countP ServiceInput.endsCycle ≤ 2 := by
  have stopping := service_stopping rules collects collector settings discoveryPayload inputs trace
    s ran raised
  have leaving := service_leaving rules collects collector settings discoveryPayload inputs trace s
    ran
  have ranked := winding_ranked rules collects collector settings discoveryPayload
  constructor
  · have emits := (service rules collects collector settings discoveryPayload).runFrom_emits
      (fun s => Stopping s ∧ Leaving s.world) (fun o => ∀ p, o = .inl (.inl p) → Parting p) ?_
      later s t emitted ⟨stopping, leaving⟩ ranLater
    · exact fun o member => emits.2 _ member o rfl
    · intro s i own t inv taken
      refine ⟨ranked.keeps s i own t inv taken, ?_⟩
      rintro o member p rfl
      exact (serves_parting rules collects s t i own inv.1 inv.2
        (serve_serves rules collects s own t i taken)).2 p member
  · have bounded := (ranked.bounded later s t emitted ⟨stopping, leaving⟩ ranLater).2
    have most := outstanding_le s
    omega

end Winding

/-- One collection runs and another was asked for when the flag was raised. -/
def windingLater : List (ServiceInput Unit) :=
  [.collect (), .mqtt .shutdown, .release, .wake, .take, .unschedule, .engage, .collect (),
    .mqtt (.transmit 0 7), .mqtt (.transmit 0 8), .mqtt .poll, .mqtt .timeout]

theorem service_winds_down_sample : ∃ trace s emitted t,
    (service (.documented fun _ => false) sampleSnapshots () sampleSettings "{}").run
      hangingService = some (trace, s) ∧
    (service (.documented fun _ => false) sampleSnapshots () sampleSettings "{}").runFrom s
      windingLater = some (emitted, t) ∧
    windingLater.countP ServiceInput.endsCycle = 2 ∧
    (∀ o, .inl (.inl o) ∈ emitted → Parting o) ∧
    windingLater.countP ServiceInput.endsCycle ≤ 2 :=
  ⟨_, _, _, _, rfl, rfl, rfl, service_winds_down (.documented fun _ => false) sampleSnapshots ()
    sampleSettings "{}" hangingService _ _ rfl rfl windingLater _ _ rfl⟩

end RpiHealth
