import RpiHealth.Daemon.Service
import RpiHealth.Mqtt.Status

/-! The service is one of the daemon's interleavings: whatever the signal, the
scheduler, the busy flag and the collector's thread do, supervisor and worker go
through steps they can take on their own. -/
namespace RpiHealth
open Machines Watch Service

/-- What the daemon's worker does while the thread is at this point. -/
def Stage.work : Stage → Work
  | .waiting | .notified | .collected (.ok _) => .waiting
  | .taken requestId | .collecting requestId => .collecting requestId
  | .collected (.error _) | .ended _ => .stopped

def Service.worker {C : Type} (s : Service C) : Worker := ⟨s.seen, s.stage.work⟩

/-- The part of the service that the daemon speaks of. -/
def Service.joint {C : Type} (s : Service C) : World × Worker := (s.world, s.worker)

def Served.shown {X : Type} : Served X → Option Joint := Sum.getLeft?

structure Grounded {C : Type} (s : Service C) : Prop where
  dormant : Dormant s.world
  standing : Standing s.world
  seen : s.seen ≤ s.world.requests.version
  /-- What made the thread wake up is still unread. -/
  notified : s.stage = .notified → s.seen < s.world.requests.version

/-- The request slot is as it was, or it was written and holds a greater number. -/
def Grows (before after : Slot Nat) : Prop :=
  after = before ∨ before.version < after.version ∧
    (after.value < U64_MAX → before.value < after.value)

theorem grows_request (slot : Slot Nat) : Grows slot (requestCollection slot).1 := by
  refine .inr ⟨Nat.lt_succ_self _, fun below => ?_⟩
  simp only [requestCollection, Slot.sendModify_value] at below ⊢
  omega

theorem grows_trans (first second third : Slot Nat) (one : Grows first second)
    (two : Grows second third) (bound : min second.value U64_MAX ≤ third.value) :
    Grows first third := by
  rcases one with rfl | ⟨version, value⟩
  · exact two
  · rcases two with rfl | ⟨version', value'⟩
    · exact .inr ⟨version, value⟩
    · refine .inr ⟨version.trans version', fun below => ?_⟩
      have middle := value' below
      exact (value (by omega)).trans middle

theorem step_requests (rules : ClientRules) (w v : World) (i : Input) (emitted : List Obs)
    (dormant : Dormant w) (taken : step rules w i = some (emitted, v)) :
    Grows w.requests v.requests := by
  by_cases replaces : ∃ m, i = .replaceState m
  · obtain ⟨m, rfl⟩ := replaces
    obtain ⟨rfl, rfl⟩ := Prod.mk.inj (Option.some.inj taken)
    exact .inl rfl
  · refine (step_moves w i emitted v dormant (fun m same => replaces ⟨m, same⟩) taken).keep
      (fun _ p => Grows w.requests p.requests) ?_ [] (.inl rfl)
    intro _ p further q before moved
    refine grows_trans _ _ _ before ?_ (move_requests rules p q further moved)
    cases moved with
    | allocate | begin => exact grows_request p.requests
    | _ => exact .inl rfl

theorem grows_version (before after : Slot Nat) (grows : Grows before after) :
    before.version ≤ after.version := by
  rcases grows with rfl | ⟨version, -⟩
  · exact Nat.le_refl _
  · exact version.le

theorem step_silent (rules : ClientRules) (w v : World) (i : Input) (emitted : List Obs)
    (dormant : Dormant w) (other : ∀ m, i ≠ .replaceState m)
    (taken : step rules w i = some (emitted, v)) : ∀ o ∈ emitted, ∀ m, o ≠ .replaced m :=
  (step_moves w i emitted v dormant other taken).silent _
    (fun p emitted q => move_keeps_states rules p q emitted)

theorem hearAll_passes (k : Worker) (emitted : List Obs)
    (silent : ∀ o ∈ emitted, ∀ m, o ≠ .replaced m) :
    collectionWorker.hearAll k emitted = some k := by
  induction emitted with
  | nil => rfl
  | cons o rest ih =>
    have passes : collectionWorker.hear k o = some k := by
      cases o with
      | replaced m => exact absurd rfl (silent _ (by simp) m)
      | _ => rfl
    rw [Partner.hearAll, passes, Option.bind_some]
    exact ih (fun a member => silent a (by simp [member]))

/-- A settled supervisor whose turn has nothing to handle stays as it is. -/
theorem finishTurn_settled_world (w : World) (control : w.control = .select)
    (settled : w.protocol.becameOnline = false) (status : w.status = w.standing)
    (up : w.protocol.phase = .online → w.client.up = true) :
    (World.conclude w.finishTurn).2 = w := by
  have same : ({ w.protocol with becameOnline := false } : BootstrapMachine) = w.protocol := by
    rw [← settled]
  simp only [World.finishTurn, BootstrapMachine.justBecameOnline, settled, Bool.false_eq_true,
    if_false, same]
  split
  · rename_i online
    have phase : w.protocol.phase = .online := of_decide_eq_true online
    have said : w.status = .online := by
      rw [status]
      simp [World.standing, control, up phase, BootstrapMachine.standing, phase]
    simp only [World.conclude, ← said]
  · rfl

section Matching

variable {C X : Type} (rules : ClientRules) (collects : SnapshotCollector C X)
  (settings : MqttSettings) (discoveryPayload : String)

theorem daemon_supervisor (w v : World) (k : Worker) (i : Input) (emitted : List Obs)
    (taken : step rules w i = some (emitted, v))
    (silent : ∀ o ∈ emitted, ∀ m, o ≠ .replaced m) :
    (daemon rules settings discoveryPayload).runFrom (w, k) [.inl i] =
      some (emitted.map .inl, (v, k)) := by
  apply Machine.runFrom_one
  simp [daemon, Machine.beside, supervisor, taken, hearAll_passes k emitted silent]

theorem daemon_worker (w : World) (k k' : Worker) (i : WorkerInput) (emitted : List WorkerObs)
    (taken : k.act w i = some (emitted, k')) :
    (daemon rules settings discoveryPayload).runFrom (w, k) [.inr i] =
      some (emitted.map .inr, (w, k')) := by
  apply Machine.runFrom_one
  simp [daemon, Machine.beside, collectionWorker, taken]

theorem spin_world (s : Service C) (grounded : Grounded s) (control : s.world.control = .select) :
    (World.conclude s.world.finishTurn).2 = s.world := by
  apply finishTurn_settled_world s.world control (grounded.dormant.settled (.inl control))
  · exact grounded.standing.status (by simp [control])
  · intro phase
    by_contra down
    have idle := grounded.dormant.idle (.inr (.inr ⟨control, by simpa using down⟩))
    simp [idle.2] at phase

theorem serves_grounded (s t : Service C) (i : ServiceInput X) (emitted : List (Served X))
    (grounded : Grounded s) (taken : Serves rules collects s i emitted t) : Grounded t := by
  cases taken with
  | mqtt i own w may stepped =>
    have later := grows_version _ _ (step_requests rules s.world w i own grounded.dormant stepped)
    exact {
      dormant := step_dormant rules s.world i (own, w) grounded.dormant stepped
      standing := step_standing s.world grounded.standing grounded.dormant rules i own w stepped
      seen := grounded.seen.trans later
      notified := fun stage => lt_of_lt_of_le (grounded.notified stage) later }
  | spin running control =>
    rw [spin_world s grounded control]
    exact grounded
  | wake stage changed =>
    have unequal : s.seen ≠ s.world.requests.version := by simpa [Slot.hasChanged] using changed
    exact { grounded with notified := fun _ => lt_of_le_of_ne grounded.seen unequal }
  | ignored | took => exact { grounded with seen := le_refl _, notified := by simp }
  | schedule | tick =>
    exact {
      dormant := { grounded.dormant with }
      standing := { grounded.standing with }
      seen := Nat.le_succ_of_le grounded.seen
      notified := fun stage => Nat.lt_succ_of_lt (grounded.notified stage) }
  | collected | signal | observe =>
    exact { grounded with
      dormant := { grounded.dormant with }
      standing := { grounded.standing with }
      notified := by first | exact grounded.notified | simp }
  | skipped => exact grounded
  | _ => exact { grounded with notified := by first | exact grounded.notified | simp }

theorem mayTake_other (s : Service C) (i : Input) (may : s.mayTake i = true) :
    ∀ m, i ≠ .replaceState m := by
  rintro m rfl
  exact absurd ((mayTake_iff s _).mp may).2.1 (by simp [Input.isSupervisors])

/-- Every step of the service is one step of the daemon, or none. -/
theorem serves_matched (s t : Service C) (i : ServiceInput X) (emitted : List (Served X))
    (grounded : Grounded s) (taken : Serves rules collects s i emitted t) :
    ∃ inputs, (daemon rules settings discoveryPayload).runFrom s.joint inputs =
      some (emitted.filterMap Served.shown, t.joint) := by
  cases taken with
  | mqtt i own w may stepped =>
    have silent := step_silent rules s.world w i own grounded.dormant (mayTake_other s i may) stepped
    refine ⟨[.inl i], ?_⟩
    rw [Service.joint, daemon_supervisor rules settings discoveryPayload s.world w s.worker i own
      stepped silent, List.filterMap_map]
    simp [Served.shown, Function.comp_def, Service.joint, Service.worker]
  | spin running control =>
    refine ⟨[], ?_⟩
    rw [spin_world s grounded control]
    rfl
  | close stage unchanged =>
    refine ⟨[.inr .close], daemon_worker rules settings discoveryPayload _ _ _ _ [.closed] ?_⟩
    simp [Worker.act, Service.worker, Stage.work, stage, unchanged]
  | ignored stage zero =>
    have changed : s.world.requests.hasChanged s.seen = true := by
      simpa [Slot.hasChanged] using (grounded.notified stage).ne
    refine ⟨[.inr .take], daemon_worker rules settings discoveryPayload _ _ _ _ [] ?_⟩
    simp [Worker.act, Worker.take, Service.worker, Stage.work, stage, changed, zero]
  | took stage asked =>
    have changed : s.world.requests.hasChanged s.seen = true := by
      simpa [Slot.hasChanged] using (grounded.notified stage).ne
    refine ⟨[.inr .take], daemon_worker rules settings discoveryPayload _ _ _ _ [.took _] ?_⟩
    simp [Worker.act, Worker.take, Service.worker, Stage.work, stage, changed, asked]
  | collected requestId met payload stage made =>
    refine ⟨[.inl (.replaceState ⟨requestId, payload⟩)], Machine.runFrom_one _ _ _ _ _ ?_⟩
    simp [daemon, Machine.beside, supervisor, step, Partner.hearAll, collectionWorker, Worker.hear,
      Service.joint, Service.worker, Stage.work, stage]
    rfl
  | failed requestId met e stage refused =>
    refine ⟨[.inr .fail], daemon_worker rules settings discoveryPayload _ _ _ _ [.failed] ?_⟩
    simp [Worker.act, Service.worker, Stage.work, stage]
  | collectPanics requestId stage =>
    refine ⟨[.inr .fail], daemon_worker rules settings discoveryPayload _ _ _ _ [.failed] ?_⟩
    simp [Worker.act, Service.worker, Stage.work, stage]
  | schedule | tick => exact ⟨[.inl .request], Machine.runFrom_one _ _ _ _ _ rfl⟩
  | signal | observe => exact ⟨[.inl .signal], Machine.runFrom_one _ _ _ _ _ rfl⟩
  | wake stage | engage requestId stage | released stage | gaveUp e stage =>
    refine ⟨[], ?_⟩
    simp [Machine.runFrom, Service.joint, Service.worker, Stage.work, stage]
  | mqttPanics | neverStarted | warned | skipped | unschedule | schedulerPanics | joinCollector
  | drainTimeout | finish => exact ⟨[], rfl⟩

theorem grounded_start (collector : C) :
    Grounded (service rules collects collector settings discoveryPayload).initial where
  dormant := dormant_start rules settings discoveryPayload
  standing := standing_start rules settings discoveryPayload
  seen := Nat.le_refl _
  notified := by simp [service]

theorem service_refines (collector : C) :
    (service rules collects collector settings discoveryPayload).Refines
      (daemon rules settings discoveryPayload) (fun _ s => Grounded s) Service.joint
      Served.shown where
  start := rfl
  holds := grounded_start rules collects settings discoveryPayload collector
  keeps _ s i emitted t grounded taken :=
    serves_grounded rules collects s t i emitted grounded (serve_serves rules collects s emitted t i taken)
  matched _ s i emitted t grounded taken :=
    serves_matched rules collects settings discoveryPayload s t i emitted grounded
      (serve_serves rules collects s emitted t i taken)

/-- Every run of the service, with its own thread and its flags, is a run of supervisor
and worker that shows the same. -/
theorem service_runs_daemon (collector : C) (inputs : List (ServiceInput X))
    (trace : List (Served X)) (s : Service C)
    (ran : (service rules collects collector settings discoveryPayload).run inputs =
      some (trace, s)) : ∃ daemonInputs,
    (daemon rules settings discoveryPayload).run daemonInputs =
      some (trace.filterMap Served.shown, s.world, s.worker) :=
  (service_refines rules collects settings discoveryPayload collector).run inputs trace s ran

end Matching

/-- A collector that always has the same to say. -/
def sampleSnapshots : SnapshotCollector Unit Unit := fun _ _ => (.ok "{}", ())

/-- A collection is skipped while the first one runs, and a signal ends the service
before the connection is bootstrapped. -/
def sampleService : List (ServiceInput Unit) :=
  [.schedule, .wake, .take, .engage, .tick 5, .mqtt (.connAck .success), .mqtt .connect,
    .mqtt (.transmit 0 7), .mqtt .poll, .collect (), .release, .wake, .take, .engage,
    .signal (.ok ()), .mqtt .shutdown, .unschedule, .mqtt (.transmit 0 8), .mqtt .poll,
    .mqtt (.receive 8), .mqtt .poll, .mqtt (.transmit 0 0), .mqtt .poll, .drainTimeout, .finish]

theorem service_runs_daemon_sample : ∃ trace s,
    (service (.documented fun _ => false) sampleSnapshots () sampleSettings "{}").run
      sampleService = some (trace, s) ∧ s.control = .returned (.ok ()) ∧
    ∃ daemonInputs, (daemon (.documented fun _ => false) sampleSettings "{}").run daemonInputs =
      some (trace.filterMap Served.shown, s.world, s.worker) :=
  ⟨_, _, rfl, rfl, service_runs_daemon (.documented fun _ => false) sampleSnapshots sampleSettings
    "{}" () sampleService _ _ rfl⟩

end RpiHealth
