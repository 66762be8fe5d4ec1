import RpiHealth.Daemon.Ending

/-! The flag is raised: the service's own deadlines and notices end it in a few steps,
whatever the broker and the collector do meanwhile, and little is begun anew. -/
namespace RpiHealth
open Machines Watch Service

section Stopping

variable {C X : Type}

/-- Steps that neither the broker nor the collector has a say in: the flag is noticed,
a deadline is over, a task that ended is joined. -/
def ServiceInput.isOwn : ServiceInput X → Bool
  | .mqtt .shutdown | .mqtt .timeout | .schedule | .unschedule | .joinCollector | .drainTimeout
  | .finish => true
  | _ => false

def Control.rank : Control → Nat
  | .returned _ => 0
  | .draining => 1
  | .select | .connAcked | .retrying => 2

namespace Service

def mqttRank (s : Service C) : Nat := if s.mqttPanicked then 0 else s.world.control.rank

def schedulerRank (s : Service C) : Nat := if s.schedulerEnd.isSome then 0 else 1

def controlRank (s : Service C) : Nat :=
  match s.control with
  | .selecting => 3
  | .finishing completion drained => if completion.drains && drained.isNone then 2 else 1
  | .returned _ => 0

/-- How many of its own steps the service is away from its end. -/
def rank (s : Service C) : Nat := s.mqttRank + s.schedulerRank + s.controlRank

end Service

/-- The flag is raised, and no handler of the supervisor was under way. -/
structure Stopping (s : Service C) : Prop where
  grounded : Grounded s
  flagged : Flagged s
  raised : s.world.shutdown = true
  free : s.free = true

variable (rules : ClientRules) (collects : SnapshotCollector C X)

theorem free_iff (s : Service C) :
    s.free = true ↔ (s.mqttPanicked = false → s.world.control ≠ .connAcked) := by
  cases panicked : s.mqttPanicked <;> simp [Service.free, panicked]

/-- With the flag raised, the supervisor cannot start a connection. -/
theorem stopping_control (s : Service C) (stopping : Stopping s) (i : Input)
    (may : s.mayTake i = true) : s.world.control ≠ .connAcked ∧
      (s.world.control = .select → i = .shutdown) := by
  obtain ⟨running, -, -, noticed⟩ := (mayTake_iff s i).mp may
  exact ⟨(free_iff s).mp stopping.free running, fun select => noticed select stopping.raised⟩

theorem serves_stopping (s t : Service C) (i : ServiceInput X) (emitted : List (Served X))
    (stopping : Stopping s) (taken : Serves rules collects s i emitted t) : Stopping t := by
  have grounded := serves_grounded rules collects s t i emitted stopping.grounded taken
  have flagged := serves_flagged rules collects s t i emitted stopping.grounded stopping.flagged
    taken
  cases taken with
  | mqtt i own w may stepped =>
    obtain ⟨idle, noticed⟩ := stopping_control s stopping i may
    have kept := step_shutdown_kept rules s.world w i own (mayTake_signal s i may) stepped
    refine ⟨grounded, flagged, kept.trans stopping.raised, (free_iff _).mpr fun _ => ?_⟩
    cases step_shift rules s.world w i own stopping.grounded.dormant stepped with
    | stays same => exact same ▸ idle
    | accepts was input goes =>
      rw [noticed was] at input
      contradiction
    | starts _ _ goes | loses _ _ goes | retries _ _ goes | drains _ _ goes | ends _ goes
    | fails _ _ goes => simp [goes]
  | spin running control lowered => simp [stopping.raised] at lowered
  | mqttPanics => exact ⟨grounded, flagged, stopping.raised, by simp [Service.free]⟩
  | signal received free control | observe completion free control =>
    exact absurd control (stopping.flagged.raised.mp stopping.raised)
  | _ => exact ⟨grounded, flagged, stopping.raised, stopping.free⟩

/-- No step of the supervisor takes it further away from its end. -/
theorem step_rank (w v : World) (i : Input) (emitted : List Obs) (dormant : Dormant w)
    (taken : step rules w i = some (emitted, v)) : v.control.rank ≤ w.control.rank := by
  cases step_shift rules w v i emitted dormant taken with
  | stays same => rw [same]
  | accepts was _ goes | loses was _ goes | retries was _ goes | drains was _ goes
  | starts was _ goes => simp [was, goes, Control.rank]
  | ends _ goes | fails _ _ goes => simp [goes, Control.rank]

theorem serves_mqttRank (s t : Service C) (i : ServiceInput X) (emitted : List (Served X))
    (stopping : Stopping s) (taken : Serves rules collects s i emitted t) :
    t.mqttRank ≤ s.mqttRank := by
  cases taken with
  | mqtt i own w may stepped =>
    have running := ((mayTake_iff s i).mp may).1
    simp only [mqttRank, running, Bool.false_eq_true, if_false]
    exact step_rank rules s.world w i own stopping.grounded.dormant stepped
  | spin running control lowered => simp [stopping.raised] at lowered
  | mqttPanics => simp [mqttRank]
  | _ => exact Nat.le_refl _

theorem serves_schedulerRank (s t : Service C) (i : ServiceInput X) (emitted : List (Served X))
    (taken : Serves rules collects s i emitted t) : t.schedulerRank ≤ s.schedulerRank := by
  cases ended : s.schedulerEnd with
  | none =>
    have most : s.schedulerRank = 1 := by simp [schedulerRank, ended]
    rw [most, schedulerRank]
    split <;> decide
  | some result =>
    simp [schedulerRank, ended, serves_schedulerEnd rules collects s t i emitted taken result ended]

theorem serves_controlRank (s t : Service C) (i : ServiceInput X) (emitted : List (Served X))
    (stopping : Stopping s) (taken : Serves rules collects s i emitted t) :
    t.controlRank ≤ s.controlRank := by
  cases taken with
  | signal received free control | observe completion free control =>
    exact absurd control (stopping.flagged.raised.mp stopping.raised)
  | joinCollector completion ended free control drains
  | drainTimeout completion free control drains => simp [controlRank, control, drains]
  | finish completion drained result free control => simp [controlRank]
  | _ => exact Nat.le_refl _

/-- The service's own steps bring it nearer. -/
theorem serves_own (s t : Service C) (i : ServiceInput X) (emitted : List (Served X))
    (stopping : Stopping s) (mine : i.isOwn = true)
    (taken : Serves rules collects s i emitted t) :
    t.mqttRank < s.mqttRank ∨ t.schedulerRank < s.schedulerRank ∨
      t.controlRank < s.controlRank := by
  cases taken with
  | mqtt i own w may stepped =>
    have running := ((mayTake_iff s i).mp may).1
    refine .inl ?_
    simp only [mqttRank, running, Bool.false_eq_true, if_false]
    cases i with
    | shutdown =>
      obtain ⟨was, goes⟩ := step_shutdown_leaves rules s.world w own stepped
      have before : s.world.control.rank = 2 := by rcases was with was | was <;> rw [was] <;> rfl
      rw [before]
      rcases goes with goes | ⟨error, goes⟩ <;> simp [goes, Control.rank]
    | timeout =>
      obtain ⟨was, goes⟩ := step_timeout_leaves rules s.world w own stepped
      simp [was, goes, Control.rank]
    | _ => simp [ServiceInput.isOwn] at mine
  | neverStarted free control | unschedule free control =>
    exact .inr (.inl (by simp [schedulerRank, schedulerEnd, control]))
  | schedule free control lowered => simp [stopping.raised] at lowered
  | joinCollector completion ended free control drains
  | drainTimeout completion free control drains =>
    exact .inr (.inr (by simp [controlRank, control, drains]))
  | finish completion drained result free control =>
    refine .inr (.inr ?_)
    simp only [controlRank, control]
    split <;> decide
  | _ => simp [ServiceInput.isOwn] at mine

variable (collector : C) (settings : MqttSettings) (discoveryPayload : String)

theorem service_ranked :
    (service rules collects collector settings discoveryPayload).Ranked Stopping
      ServiceInput.isOwn rank where
  keeps s i emitted t stopping taken :=
    serves_stopping rules collects s t i emitted stopping
      (serve_serves rules collects s emitted t i taken)
  lowers s i emitted t stopping taken mine := by
    have serves := serve_serves rules collects s emitted t i taken
    have mqtt := serves_mqttRank rules collects s t i emitted stopping serves
    have scheduler := serves_schedulerRank rules collects s t i emitted serves
    have control := serves_controlRank rules collects s t i emitted stopping serves
    have nearer := serves_own rules collects s t i emitted stopping mine serves
    simp only [rank]
    omega
  others s i emitted t stopping taken _ := by
    have serves := serve_serves rules collects s emitted t i taken
    have mqtt := serves_mqttRank rules collects s t i emitted stopping serves
    have scheduler := serves_schedulerRank rules collects s t i emitted serves
    have control := serves_controlRank rules collects s t i emitted stopping serves
    simp only [rank]
    omega

theorem mqtt_possible (s : Service C) (stopping : Stopping s) (running : s.mqttRank ≠ 0) :
    ∃ i, ServiceInput.isOwn (X := X) i = true ∧ (serve rules collects s i).isSome = true := by
  have live : s.mqttPanicked = false := by
    by_contra panicked
    simp [mqttRank, panicked] at running
  have connecting := (free_iff s).mp stopping.free live
  cases control : s.world.control with
  | connAcked => exact absurd control connecting
  | returned error => simp [mqttRank, live, control, Control.rank] at running
  | draining =>
    refine ⟨.mqtt .timeout, rfl, ?_⟩
    have may : s.mayTake .timeout = true := by
      simp [mayTake_iff, live, Input.isSupervisors, control]
    simp [serve, may, step, control]
  | select | retrying =>
    refine ⟨.mqtt .shutdown, rfl, ?_⟩
    have may : s.mayTake .shutdown = true := by
      simp [mayTake_iff, live, Input.isSupervisors, control]
    simp [serve, may, step, control, stopping.raised]

theorem scheduler_possible (s : Service C) (stopping : Stopping s) (running : s.schedulerRank ≠ 0) :
    ∃ i, ServiceInput.isOwn (X := X) i = true ∧ (serve rules collects s i).isSome = true := by
  cases control : s.scheduler.control with
  | starting => exact ⟨.schedule, rfl, by simp [serve, stopping.free, control]⟩
  | ticking => exact ⟨.unschedule, rfl, by simp [serve, stopping.free, control, stopping.raised]⟩
  | ended | panicked => simp [schedulerRank, schedulerEnd, control] at running

theorem mqttEnd_of_rank (s : Service C) (settled : s.mqttRank = 0) :
    ∃ ended, s.mqttEnd = some ended := by
  unfold mqttRank at settled
  unfold mqttEnd
  split
  · exact ⟨_, rfl⟩
  · rename_i running
    rw [if_neg running] at settled
    cases control : s.world.control with
    | returned error => cases error <;> exact ⟨_, rfl⟩
    | select | connAcked | retrying | draining => simp [control, Control.rank] at settled

theorem schedulerEnd_of_rank (s : Service C) (settled : s.schedulerRank = 0) :
    ∃ ended, s.schedulerEnd = some ended := by
  unfold schedulerRank at settled
  split at settled
  · rename_i ended
    exact Option.isSome_iff_exists.mp ended
  · contradiction

/-- Once supervisor and scheduler are done, the main task goes on by itself. -/
theorem main_possible (s : Service C) (stopping : Stopping s) (mqttDone : s.mqttRank = 0)
    (schedulerDone : s.schedulerRank = 0) (running : s.controlRank ≠ 0) :
    ∃ i, ServiceInput.isOwn (X := X) i = true ∧ (serve rules collects s i).isSome = true := by
  obtain ⟨mqtt, hasMqtt⟩ := mqttEnd_of_rank s mqttDone
  obtain ⟨scheduler, hasScheduler⟩ := schedulerEnd_of_rank s schedulerDone
  cases control : s.control with
  | selecting => exact absurd control (stopping.flagged.raised.mp stopping.raised)
  | returned result => simp [controlRank, control] at running
  | finishing completion drained =>
    by_cases waits : completion.drains = true ∧ drained = none
    · obtain ⟨drains, rfl⟩ := waits
      cases gone : s.collectorEnd with
      | none => exact ⟨.drainTimeout, rfl, by simp [serve, control, gone, stopping.free, drains]⟩
      | some ended =>
        exact ⟨.joinCollector, rfl, by simp [serve, control, gone, stopping.free, drains]⟩
    · refine ⟨.finish, rfl, ?_⟩
      have joined : ∃ result, s.result completion drained = some result := by
        cases completion with
        | collector ended => simp [Service.result, hasMqtt, hasScheduler]
        | signal received | mqtt ended | scheduler ended =>
          obtain ⟨last, rfl⟩ := Option.ne_none_iff_exists'.mp (fun none => waits ⟨rfl, none⟩)
          simp [Service.result, hasMqtt, hasScheduler]
      obtain ⟨result, made⟩ := joined
      simp [serve, control, stopping.free, made]

theorem own_possible (s : Service C) (stopping : Stopping s) (running : s.rank ≠ 0) :
    ∃ i, ServiceInput.isOwn (X := X) i = true ∧ (serve rules collects s i).isSome = true := by
  by_cases mqtt : s.mqttRank = 0
  · by_cases scheduler : s.schedulerRank = 0
    · exact main_possible rules collects s stopping mqtt scheduler
        (fun control => running (by simp [rank, mqtt, scheduler, control]))
    · exact scheduler_possible rules collects s stopping scheduler
  · exact mqtt_possible rules collects s stopping mqtt

theorem rank_le (s : Service C) (flagged : Flagged s) (raised : s.world.shutdown = true) :
    s.rank ≤ 5 := by
  have mqtt : s.mqttRank ≤ 2 := by
    unfold mqttRank
    split
    · decide
    · cases s.world.control <;> simp [Control.rank]
  have scheduler : s.schedulerRank ≤ 1 := by
    unfold schedulerRank
    split <;> decide
  have control : s.controlRank ≤ 2 := by
    unfold controlRank
    split
    · rename_i selecting
      exact absurd selecting (flagged.raised.mp raised)
    · split <;> decide
    · decide
  simp only [rank]
  omega

/-- The flag is never raised in the middle of a handler. -/
theorem service_stopping (inputs : List (ServiceInput X)) (trace : List (Served X))
    (s : Service C)
    (ran : (service rules collects collector settings discoveryPayload).run inputs =
      some (trace, s)) (raised : s.world.shutdown = true) : Stopping s := by
  have inv := (service rules collects collector settings discoveryPayload).invariant
    (fun _ s => Grounded s ∧ Flagged s ∧ (s.world.shutdown = true → s.free = true))
    ⟨grounded_start rules collects settings discoveryPayload collector,
      ⟨by simp [service], by simp [service], by simp [service]⟩, by simp [service]⟩
    ?_ inputs trace s ran
  · exact ⟨inv.1, inv.2.1, raised, inv.2.2 raised⟩
  · rintro _ s i emitted t ⟨grounded, flagged, free⟩ taken
    have serves := serve_serves rules collects s emitted t i taken
    refine ⟨serves_grounded rules collects s t i emitted grounded serves,
      serves_flagged rules collects s t i emitted grounded flagged serves, fun now => ?_⟩
    by_cases before : s.world.shutdown = true
    · exact (serves_stopping rules collects s t i emitted ⟨grounded, flagged, before, free before⟩
        serves).free
    · cases serves with
      | signal received free' | observe completion free' => exact free'
      | mqtt i own w may stepped =>
        have kept := step_shutdown_kept rules s.world w i own (mayTake_signal s i may) stepped
        exact absurd (kept.symm.trans now) before
      | spin running control =>
        rw [spin_world s grounded control] at now
        exact absurd now before
      | _ => exact absurd now before

/-- Once the flag is raised, five of the service's own steps are all that can come, under
every interleaving, and they alone bring it to an end: neither the broker nor a hanging
collection can hold it up. -/
theorem service_stops (inputs : List (ServiceInput X)) (trace : List (Served X)) (s : Service C)
    (ran : (service rules collects collector settings discoveryPayload).run inputs =
      some (trace, s)) (raised : s.world.shutdown = true) :
    (∀ later emitted t, (service rules collects collector settings discoveryPayload).runFrom s
      later = some (emitted, t) → later.countP ServiceInput.isOwn ≤ 5) ∧
    ∃ later emitted t result,
      (service rules collects collector settings discoveryPayload).runFrom s later =
        some (emitted, t) ∧ (∀ i ∈ later, i.isOwn = true) ∧ later.length ≤ 5 ∧
        t.control = .returned result := by
  have stopping := service_stopping rules collects collector settings discoveryPayload inputs trace
    s ran raised
  have ranked := service_ranked rules collects collector settings discoveryPayload
  have most := rank_le s stopping.flagged raised
  have bounded : ∀ later emitted t, (service rules collects collector settings
      discoveryPayload).runFrom s later = some (emitted, t) →
      later.countP ServiceInput.isOwn ≤ 5 := by
    intro later emitted t ranLater
    have := (ranked.bounded later s t emitted stopping ranLater).2
    omega
  refine ⟨bounded, ?_⟩
  obtain ⟨later, emitted, t, ranLater, own, settled⟩ := ranked.settles
    (fun s stopping running => own_possible rules collects s stopping running) s stopping
  have all : later.countP ServiceInput.isOwn = later.length := List.countP_eq_length.mpr own
  have few := bounded later emitted t ranLater
  have control : t.controlRank = 0 := by
    simp only [rank] at settled
    omega
  obtain ⟨result, returned⟩ : ∃ result, t.control = .returned result := by
    unfold controlRank at control
    split at control
    · contradiction
    · split at control <;> contradiction
    · rename_i result returned
      exact ⟨result, returned⟩
  exact ⟨later, emitted, t, result, ranLater, own, by omega, returned⟩

end Stopping

/-- The broker never answers, and the collection hangs. -/
def hangingService : List (ServiceInput Unit) :=
  [.schedule, .wake, .take, .engage, .mqtt (.connAck .success), .mqtt .connect, .signal (.ok ())]

theorem service_stops_hanging : ∃ trace s,
    (service (.documented fun _ => false) sampleSnapshots () sampleSettings "{}").run
      hangingService = some (trace, s) ∧ s.stage = .collecting 1 ∧
    ∃ later emitted t result,
      (service (.documented fun _ => false) sampleSnapshots () sampleSettings "{}").runFrom s
        later = some (emitted, t) ∧ (∀ i ∈ later, i.isOwn = true) ∧ later.length ≤ 5 ∧
        t.control = .returned result :=
  ⟨_, _, rfl, rfl, (service_stops (.documented fun _ => false) sampleSnapshots () sampleSettings
    "{}" hangingService _ _ rfl rfl).2⟩

end RpiHealth
