import RpiHealth.Daemon.Delivery
import RpiHealth.Mqtt.Control

/-! What the service returns, and what must have happened for it: every error names a
fault of the run, and a task that is joined has never simply stopped. -/
namespace RpiHealth
open Machines Watch Service

/-- Who may have ended before the flag was raised. -/
structure Flagged {C : Type} (s : Service C) : Prop where
  raised : s.world.shutdown = true ↔ s.control ≠ .selecting
  mqtt : s.world.control = .draining ∨ s.world.control = .returned none → s.world.shutdown = true
  scheduler : s.scheduler.control = .ended → s.world.shutdown = true

section Ends

variable {C X : Type} (rules : ClientRules) (collects : SnapshotCollector C X)

theorem mayTake_signal (s : Service C) (i : Input) (may : s.mayTake i = true) : i ≠ .signal := by
  rintro rfl
  exact absurd ((mayTake_iff s _).mp may).2.1 (by simp [Input.isSupervisors])

theorem step_closing (w v : World) (i : Input) (emitted : List Obs) (dormant : Dormant w)
    (other : i ≠ .signal) (taken : step rules w i = some (emitted, v))
    (before : w.control = .draining ∨ w.control = .returned none → w.shutdown = true)
    (closing : v.control = .draining ∨ v.control = .returned none) : v.shutdown = true := by
  have kept := step_shutdown_kept rules w v i emitted other taken
  rw [kept]
  cases step_shift rules w v i emitted dormant taken with
  | stays same => exact before (same ▸ closing)
  | accepts _ _ goes | starts _ _ goes | loses _ _ goes | retries _ _ goes => simp [goes] at closing
  | drains _ input _ =>
    subst input
    exact step_shutdown_raised rules w _ taken
  | ends was _ _ =>
    rcases was with draining | ⟨-, input⟩
    · exact before (.inl draining)
    · subst input
      exact step_shutdown_raised rules w _ taken
  | fails e _ goes => simp [goes] at closing

theorem serves_flagged (s t : Service C) (i : ServiceInput X) (emitted : List (Served X))
    (grounded : Grounded s) (flagged : Flagged s) (taken : Serves rules collects s i emitted t) :
    Flagged t := by
  cases taken with
  | mqtt i own w may stepped =>
    have other := mayTake_signal s i may
    have kept := step_shutdown_kept rules s.world w i own other stepped
    exact {
      raised := by rw [kept]; exact flagged.raised
      mqtt := step_closing rules s.world w i own grounded.dormant other stepped flagged.mqtt
      scheduler := fun ended => by rw [kept]; exact flagged.scheduler ended }
  | spin running control =>
    rw [spin_world s grounded control]
    exact flagged
  | neverStarted free control raised | unschedule free control raised =>
    exact { flagged with scheduler := fun _ => raised }
  | schedule free control lowered => exact { flagged with scheduler := by simp }
  | schedulerPanics => exact { flagged with scheduler := by simp }
  | signal | observe =>
    exact ⟨by simp [complete], fun _ => rfl, fun _ => rfl⟩
  | joinCollector completion ended free control | drainTimeout completion free control
  | finish completion drained result free control =>
    exact { flagged with raised := by simp [flagged.raised, control] }
  | _ => exact { flagged with }

/-- Whoever has ended stays as it ended. -/
theorem serves_mqttEnd (s t : Service C) (i : ServiceInput X) (emitted : List (Served X))
    (grounded : Grounded s) (taken : Serves rules collects s i emitted t) (ended : MqttEnd)
    (before : s.mqttEnd = some ended) : t.mqttEnd = some ended := by
  cases taken with
  | mqtt i own w may stepped =>
    have running := ((mayTake_iff s i).mp may).1
    obtain ⟨error, here⟩ : ∃ error, s.world.control = .returned error := by
      simp only [Service.mqttEnd, running, Bool.false_eq_true, if_false] at before
      split at before
      · rename_i control
        exact ⟨none, control⟩
      · rename_i e control
        exact ⟨some e, control⟩
      · contradiction
    have same : w.control = s.world.control := by
      cases step_shift rules s.world w i own grounded.dormant stepped with
      | stays same => exact same
      | accepts was | starts was | loses was | retries was | drains was => simp [here] at was
      | ends was => simp [here] at was
      | fails e runs => exact absurd here (runs error)
    simpa only [Service.mqttEnd, same] using before
  | spin running control =>
    rw [spin_world s grounded control]
    exact before
  | mqttPanics runs => simp [runs] at before
  | _ => exact before

theorem serves_schedulerEnd (s t : Service C) (i : ServiceInput X) (emitted : List (Served X))
    (taken : Serves rules collects s i emitted t) (ended : SchedulerEnd)
    (before : s.schedulerEnd = some ended) : t.schedulerEnd = some ended := by
  cases taken with
  | neverStarted free control | schedule free control | unschedule free control =>
    simp [Service.schedulerEnd, control] at before
  | schedulerPanics free runs => simp [runs] at before
  | _ => exact before

theorem serves_collectorEnd (s t : Service C) (i : ServiceInput X) (emitted : List (Served X))
    (taken : Serves rules collects s i emitted t) (ended : CollectorEnd)
    (before : s.collectorEnd = some ended) : t.collectorEnd = some ended := by
  cases taken with
  | wake stage | close stage | ignored stage | took stage | engage _ stage | collected _ _ _ stage
  | failed _ _ _ stage | collectPanics _ stage | released stage | gaveUp _ stage =>
    simp [Service.collectorEnd, stage] at before
  | _ => exact before

/-- How each part of the service ended is in the trace. -/
structure Recorded (trace : List (Served X)) (s : Service C) : Prop where
  returned : ∀ error, s.world.control = .returned error → .inl (.inl (.returned error)) ∈ trace
  mqtt : s.mqttPanicked = true → .inr (.panicked .mqttSupervisor) ∈ trace
  scheduler : s.scheduler.control = .panicked → .inr (.panicked .collectionScheduler) ∈ trace
  collector : s.stage = .ended (.error .panicked) → .inr (.panicked .collectorWorker) ∈ trace

theorem recorded_same (trace emitted : List (Served X)) (s t : Service C)
    (recorded : Recorded trace s) (world : t.world.control = s.world.control)
    (mqtt : t.mqttPanicked = s.mqttPanicked)
    (scheduler : t.scheduler.control = .panicked → s.scheduler.control = .panicked)
    (collector : t.stage = .ended (.error .panicked) → s.stage = .ended (.error .panicked)) :
    Recorded (trace ++ emitted) t where
  returned error control := List.mem_append_left _ (recorded.returned error (world ▸ control))
  mqtt panicked := List.mem_append_left _ (recorded.mqtt (mqtt ▸ panicked))
  scheduler panicked := List.mem_append_left _ (recorded.scheduler (scheduler panicked))
  collector panicked := List.mem_append_left _ (recorded.collector (collector panicked))

theorem serves_recorded (trace emitted : List (Served X)) (s t : Service C) (i : ServiceInput X)
    (grounded : Grounded s) (recorded : Recorded trace s)
    (taken : Serves rules collects s i emitted t) : Recorded (trace ++ emitted) t := by
  have unchanged := recorded_same trace emitted s s recorded rfl rfl id id
  cases taken with
  | mqtt i own w may stepped =>
    have said : ∀ error, w.control = .returned error →
        s.world.control = .returned error ∨ .returned error ∈ own := by
      intro error control
      cases step_shift rules s.world w i own grounded.dormant stepped with
      | stays same => exact .inl (same ▸ control)
      | accepts _ _ goes | starts _ _ goes | loses _ _ goes | retries _ _ goes | drains _ _ goes =>
        simp [goes] at control
      | ends _ goes said | fails _ _ goes said =>
        obtain rfl : _ = error := Control.returned.inj (goes.symm.trans control)
        exact .inr said
    refine { unchanged with returned := fun error control => ?_ }
    rcases said error control with before | now
    · exact unchanged.returned error before
    · exact List.mem_append_right _ (List.mem_map.mpr ⟨_, now, rfl⟩)
  | spin running control =>
    rw [spin_world s grounded control]
    exact unchanged
  | mqttPanics => exact { unchanged with mqtt := fun _ => by simp }
  | schedulerPanics => exact { unchanged with scheduler := fun _ => by simp }
  | collectPanics => exact { unchanged with collector := fun _ => by simp }
  | skipped => exact unchanged
  | _ =>
    refine recorded_same trace _ s _ recorded rfl rfl ?_ ?_
    · first | exact id | simp
    · first | exact id | simp

/-- A thread that ended cleanly had no sender left to wait for. -/
def Closed (s : Service C) : Prop :=
  s.stage = .ended (.ok (.ok ())) → s.mqttEnd.isSome = true ∧ s.schedulerEnd.isSome = true

theorem serves_closed (s t : Service C) (i : ServiceInput X) (emitted : List (Served X))
    (grounded : Grounded s) (closed : Closed s) (taken : Serves rules collects s i emitted t) :
    Closed t := by
  have stays : s.mqttEnd.isSome = true ∧ s.schedulerEnd.isSome = true →
      t.mqttEnd.isSome = true ∧ t.schedulerEnd.isSome = true := by
    rintro ⟨mqtt, scheduler⟩
    obtain ⟨a, hasA⟩ := Option.isSome_iff_exists.mp mqtt
    obtain ⟨b, hasB⟩ := Option.isSome_iff_exists.mp scheduler
    exact ⟨by simp [serves_mqttEnd rules collects s t i emitted grounded taken a hasA],
      by simp [serves_schedulerEnd rules collects s t i emitted taken b hasB]⟩
  intro stage
  cases taken with
  | close _ _ mqtt scheduler => exact stays ⟨mqtt, scheduler⟩
  | skipped => exact closed stage
  | _ => first | exact stays (closed stage) | simp at stage

/-- The fault that an error names is one that the run went through. -/
def Blames (collector : C) (trace : List (Served X)) : ServiceError → Prop
  | .collection source => ∃ requestId,
    (requestId, .error source) ∈ answers collects collector (cycles trace)
  | .signalHandling source => .inr (.completed (.signal (.error source))) ∈ trace
  | .mqtt source => .inl (.inl (.returned (some source))) ∈ trace
  | .taskStopped _ => False
  | .taskFailed task => .inr (.panicked task) ∈ trace

/-- What the service may return. -/
def Answered (collector : C) (trace : List (Served X)) (s : Service C) : ServiceResult → Prop
  | .ok _ => .inr (.completed (.signal (.ok ()))) ∈ trace ∧ s.mqttEnd = some (.ok (.ok ())) ∧
    s.schedulerEnd = some (.ok ()) ∧
    (.inr .discarded ∈ trace ∨ s.collectorEnd = some (.ok (.ok ())))
  | .error e => Blames collects collector trace e

/-- A task that ends the select has not simply stopped. -/
def Completion.Fits (s : Service C) : Completion → Prop
  | .signal _ => True
  | .mqtt ended => s.mqttEnd = some ended ∧ ended ≠ .ok (.ok ())
  | .scheduler ended => s.schedulerEnd = some ended ∧ ended ≠ .ok ()
  | .collector ended => s.collectorEnd = some ended ∧ ended ≠ .ok (.ok ())

/-- The collector was given up, or joined. -/
def Drained (trace : List (Served X)) (s : Service C) (result : ServiceResult) : Prop :=
  result = .ok () ∧ .inr .discarded ∈ trace ∨
    ∃ ended, s.collectorEnd = some ended ∧ result = finishCollector ended

structure Concluding (collector : C) (trace : List (Served X)) (s : Service C) : Prop where
  finishing : ∀ completion drained, s.control = .finishing completion drained →
    .inr (.completed completion) ∈ trace ∧ completion.Fits s ∧
      ∀ result, drained = some result → Drained trace s result
  returned : ∀ result, s.control = .returned result → Answered collects collector trace s result

theorem unexpectedMqtt_eq (ended : MqttEnd) (unclean : ended ≠ .ok (.ok ())) :
    unexpectedMqtt ended = finishMqtt ended := by
  match ended with
  | .ok (.ok ()) => exact absurd rfl unclean
  | .ok (.error _) => rfl
  | .error _ => rfl

theorem unexpectedCollector_eq (ended : CollectorEnd) (unclean : ended ≠ .ok (.ok ())) :
    unexpectedCollector ended = finishCollector ended := by
  match ended with
  | .ok (.ok ()) => exact absurd rfl unclean
  | .ok (.error _) => rfl
  | .error _ => rfl

theorem unexpectedTask_eq (ended : SchedulerEnd) (task : Task) (unclean : ended ≠ .ok ()) :
    unexpectedTask ended task = finishTask ended task := by
  match ended with
  | .ok () => exact absurd rfl unclean
  | .error _ => rfl

theorem finishMqtt_ok (ended : MqttEnd) : finishMqtt ended = .ok () ↔ ended = .ok (.ok ()) := by
  match ended with
  | .ok (.ok ()) => simp [finishMqtt, Except.mapError]
  | .ok (.error _) => simp [finishMqtt, Except.mapError]
  | .error _ => simp [finishMqtt]

theorem finishCollector_ok (ended : CollectorEnd) :
    finishCollector ended = .ok () ↔ ended = .ok (.ok ()) := by
  match ended with
  | .ok (.ok ()) => simp [finishCollector, Except.mapError]
  | .ok (.error _) => simp [finishCollector, Except.mapError]
  | .error _ => simp [finishCollector]

theorem finishTask_ok (ended : SchedulerEnd) (task : Task) :
    finishTask ended task = .ok () ↔ ended = .ok () := by
  match ended with
  | .ok () => simp [finishTask, Except.mapError]
  | .error _ => simp [finishTask, Except.mapError]

theorem and_ok (first second : ServiceResult) :
    first.and second = .ok () ↔ first = .ok () ∧ second = .ok () := by
  match first with
  | .ok () => simp [ServiceResult.and]
  | .error e => simp [ServiceResult.and]

theorem and_error (first second : ServiceResult) (e : ServiceError)
    (failed : first.and second = .error e) : first = .error e ∨ second = .error e := by
  match first with
  | .ok () => exact .inr failed
  | .error e' => exact .inl failed

section Blaming

variable (collector : C) (trace : List (Served X)) (s : Service C)
  (delivering : Delivering collects collector trace s) (recorded : Recorded trace s)

include recorded in
theorem finishMqtt_blames (ended : MqttEnd) (e : ServiceError) (here : s.mqttEnd = some ended)
    (failed : finishMqtt ended = .error e) : Blames collects collector trace e := by
  unfold Service.mqttEnd at here
  split at here
  · rename_i panicked
    obtain rfl := Option.some.inj here
    obtain rfl := Except.error.inj failed
    exact recorded.mqtt panicked
  · split at here
    · obtain rfl := Option.some.inj here
      simp [finishMqtt, Except.mapError] at failed
    · rename_i source control
      obtain rfl := Option.some.inj here
      obtain rfl := Except.error.inj failed
      exact recorded.returned (some source) control
    · contradiction

include recorded in
theorem finishTask_blames (ended : SchedulerEnd) (e : ServiceError)
    (here : s.schedulerEnd = some ended)
    (failed : finishTask ended .collectionScheduler = .error e) :
    Blames collects collector trace e := by
  unfold Service.schedulerEnd at here
  split at here
  · obtain rfl := Option.some.inj here
    simp [finishTask, Except.mapError] at failed
  · rename_i panicked
    obtain rfl := Option.some.inj here
    obtain rfl := Except.error.inj failed
    exact recorded.scheduler panicked
  · contradiction

include delivering recorded in
theorem finishCollector_blames (ended : CollectorEnd) (e : ServiceError)
    (here : s.collectorEnd = some ended) (failed : finishCollector ended = .error e) :
    Blames collects collector trace e := by
  have stage : s.stage = .ended ended := by
    unfold Service.collectorEnd at here
    split at here
    · rename_i stage
      obtain rfl := Option.some.inj here
      exact stage
    · contradiction
  match ended, failed with
  | .ok (.error source), failed =>
    obtain rfl := Except.error.inj failed
    exact delivering.failed source (.inr stage)
  | .error .panicked, failed =>
    obtain rfl := Except.error.inj failed
    exact recorded.collector stage

include delivering recorded in
theorem drained_blames (result : ServiceResult) (e : ServiceError)
    (drained : Drained trace s result) (failed : result = .error e) :
    Blames collects collector trace e := by
  rcases drained with ⟨rfl, -⟩ | ⟨ended, here, rfl⟩
  · contradiction
  · exact finishCollector_blames collects collector trace s delivering recorded ended e here failed

theorem drained_ok (drained : Drained trace s (.ok ())) :
    .inr .discarded ∈ trace ∨ s.collectorEnd = some (.ok (.ok ())) := by
  rcases drained with ⟨-, discarded⟩ | ⟨ended, here, same⟩
  · exact .inl discarded
  · exact .inr (here.trans (congrArg some ((finishCollector_ok ended).mp same.symm)))

/-- A task that ended the select has a fault of its own, which is the error. -/
theorem unexpected_answered (primary second third result : ServiceResult)
    (fault : primary ≠ .ok ()) (made : result = (primary.and second).and third)
    (one : ∀ e, primary = .error e → Blames collects collector trace e) :
    Answered collects collector trace s result := by
  match primary, fault, one with
  | .ok (), fault, _ => exact absurd rfl fault
  | .error e, _, one =>
    obtain rfl : result = .error e := made
    exact one e rfl

include delivering recorded in
theorem result_answered (completion : Completion) (drained : Option ServiceResult)
    (result : ServiceResult) (completed : .inr (.completed completion) ∈ trace)
    (fits : completion.Fits s) (kept : ∀ r, drained = some r → Drained trace s r)
    (joined : s.result completion drained = some result) :
    Answered collects collector trace s result := by
  cases completion with
  | signal received =>
    simp only [Service.result, Option.bind_eq_bind, Option.bind_eq_some_iff, Option.pure_def,
      Option.some.injEq] at joined
    obtain ⟨mqtt, hasMqtt, scheduler, hasScheduler, last, hasLast, rfl⟩ := joined
    have gaveUp := kept last hasLast
    cases outcome : ((ServiceResult.and (received.mapError .signalHandling) (finishMqtt mqtt)).and
        (finishTask scheduler .collectionScheduler)).and last with
    | ok done =>
      cases done
      obtain ⟨⟨⟨first, second⟩, third⟩, fourth⟩ :
          ((received.mapError ServiceError.signalHandling = .ok () ∧ finishMqtt mqtt = .ok ()) ∧
            finishTask scheduler .collectionScheduler = .ok ()) ∧ last = .ok () := by
        simpa only [and_ok] using outcome
      have heard : received = .ok () := by
        cases received with
        | ok u => rfl
        | error e => simp [Except.mapError] at first
      rw [(finishMqtt_ok mqtt).mp second] at hasMqtt
      rw [(finishTask_ok scheduler _).mp third] at hasScheduler
      exact ⟨heard ▸ completed, hasMqtt, hasScheduler, drained_ok trace s (fourth ▸ gaveUp)⟩
    | error e =>
      rcases and_error _ _ e outcome with early | late
      · rcases and_error _ _ e early with early | late
        · rcases and_error _ _ e early with first | second
          · cases received with
            | ok u => simp [Except.mapError] at first
            | error source =>
              obtain rfl := Except.error.inj first
              exact completed
          · exact finishMqtt_blames collects collector trace s recorded mqtt e hasMqtt second
        · exact finishTask_blames collects collector trace s recorded scheduler e hasScheduler late
      · exact drained_blames collects collector trace s delivering recorded last e gaveUp late
  | mqtt ended =>
    simp only [Service.result, Option.bind_eq_bind, Option.bind_eq_some_iff, Option.pure_def,
      Option.some.injEq] at joined
    obtain ⟨scheduler, -, last, -, made⟩ := joined
    rw [unexpectedMqtt_eq ended fits.2] at made
    exact unexpected_answered collects collector trace s _ _ _ result
      (fun clean => fits.2 ((finishMqtt_ok ended).mp clean)) made.symm
      (fun e => finishMqtt_blames collects collector trace s recorded ended e fits.1)
  | scheduler ended =>
    simp only [Service.result, Option.bind_eq_bind, Option.bind_eq_some_iff, Option.pure_def,
      Option.some.injEq] at joined
    obtain ⟨mqtt, -, last, -, made⟩ := joined
    rw [unexpectedTask_eq ended _ fits.2] at made
    exact unexpected_answered collects collector trace s _ _ _ result
      (fun clean => fits.2 ((finishTask_ok ended _).mp clean)) made.symm
      (fun e => finishTask_blames collects collector trace s recorded ended e fits.1)
  | collector ended =>
    simp only [Service.result, Option.bind_eq_bind, Option.bind_eq_some_iff, Option.pure_def,
      Option.some.injEq] at joined
    obtain ⟨mqtt, -, scheduler, -, made⟩ := joined
    rw [unexpectedCollector_eq ended fits.2] at made
    exact unexpected_answered collects collector trace s _ _ _ result
      (fun clean => fits.2 ((finishCollector_ok ended).mp clean)) made.symm
      (fun e => finishCollector_blames collects collector trace s delivering recorded ended e fits.1)

end Blaming

variable (collector : C)

theorem firstEnded_fits (s : Service C) (completion : Completion) (flagged : Flagged s)
    (closed : Closed s) (control : s.control = .selecting)
    (first : s.firstEnded = some completion) : completion.Fits s := by
  have lowered : s.world.shutdown ≠ true := fun raised => flagged.raised.mp raised control
  unfold Service.firstEnded at first
  split at first
  · rename_i ended mqtt
    obtain rfl := Option.some.inj first
    refine ⟨mqtt, fun clean => lowered (flagged.mqtt (.inr ?_))⟩
    subst clean
    unfold Service.mqttEnd at mqtt
    split at mqtt
    · simp at mqtt
    · split at mqtt <;> simp_all
  · rename_i ended scheduler
    obtain rfl := Option.some.inj first
    refine ⟨scheduler, fun clean => lowered (flagged.scheduler ?_)⟩
    subst clean
    unfold Service.schedulerEnd at scheduler
    split at scheduler <;> simp_all
  · rename_i ended mqtt scheduler gone
    obtain rfl := Option.some.inj first
    refine ⟨gone, fun clean => ?_⟩
    subst clean
    have stage : s.stage = .ended (.ok (.ok ())) := by
      unfold Service.collectorEnd at gone
      split at gone <;> simp_all
    -- the request slot was closed by the tasks that held it
    simpa [mqtt] using (closed stage).1
  · contradiction

theorem fits_later (s t : Service C) (i : ServiceInput X) (emitted : List (Served X))
    (completion : Completion) (grounded : Grounded s)
    (taken : Serves rules collects s i emitted t) (fits : completion.Fits s) :
    completion.Fits t := by
  cases completion with
  | signal => exact True.intro
  | mqtt ended => exact ⟨serves_mqttEnd rules collects s t i emitted grounded taken _ fits.1, fits.2⟩
  | scheduler ended => exact ⟨serves_schedulerEnd rules collects s t i emitted taken _ fits.1, fits.2⟩
  | collector ended => exact ⟨serves_collectorEnd rules collects s t i emitted taken _ fits.1, fits.2⟩

theorem drained_later (trace emitted : List (Served X)) (s t : Service C) (i : ServiceInput X)
    (result : ServiceResult) (taken : Serves rules collects s i emitted t)
    (drained : Drained trace s result) : Drained (trace ++ emitted) t result := by
  rcases drained with ⟨rfl, discarded⟩ | ⟨ended, here, rfl⟩
  · exact .inl ⟨rfl, List.mem_append_left _ discarded⟩
  · exact .inr ⟨ended, serves_collectorEnd rules collects s t i emitted taken _ here, rfl⟩

theorem blames_later (trace emitted : List (Served X)) (e : ServiceError)
    (blames : Blames collects collector trace e) :
    Blames collects collector (trace ++ emitted) e := by
  cases e with
  | collection source =>
    obtain ⟨requestId, member⟩ := blames
    rw [Blames, cycles_append, answers_append]
    exact ⟨requestId, List.mem_append_left _ member⟩
  | signalHandling source => exact List.mem_append_left _ blames
  | mqtt source => exact List.mem_append_left _ blames
  | taskStopped task => exact blames
  | taskFailed task => exact List.mem_append_left _ blames

theorem answered_later (trace emitted : List (Served X)) (s t : Service C) (i : ServiceInput X)
    (result : ServiceResult) (grounded : Grounded s)
    (taken : Serves rules collects s i emitted t)
    (answered : Answered collects collector trace s result) :
    Answered collects collector (trace ++ emitted) t result := by
  match result, answered with
  | .error e, answered => exact blames_later collects collector trace emitted e answered
  | .ok (), ⟨heard, mqtt, scheduler, drained⟩ =>
    exact ⟨List.mem_append_left _ heard,
      serves_mqttEnd rules collects s t i emitted grounded taken _ mqtt,
      serves_schedulerEnd rules collects s t i emitted taken _ scheduler,
      drained.imp (List.mem_append_left _)
        (serves_collectorEnd rules collects s t i emitted taken _)⟩

theorem serves_concluding (trace emitted : List (Served X)) (s t : Service C) (i : ServiceInput X)
    (grounded : Grounded s) (flagged : Flagged s) (closed : Closed s)
    (delivering : Delivering collects collector trace s) (recorded : Recorded trace s)
    (concluding : Concluding collects collector trace s)
    (taken : Serves rules collects s i emitted t) :
    Concluding collects collector (trace ++ emitted) t := by
  -- whatever leaves the main task alone keeps what it has so far
  have later : t.control = s.control → Concluding collects collector (trace ++ emitted) t := by
    intro same
    refine ⟨fun completion drained control => ?_, fun result control => ?_⟩
    · obtain ⟨completed, fits, kept⟩ := concluding.finishing completion drained (same ▸ control)
      exact ⟨List.mem_append_left _ completed,
        fits_later rules collects s t i emitted completion grounded taken fits,
        fun r some => drained_later rules collects trace emitted s t i r taken (kept r some)⟩
    · exact answered_later rules collects collector trace emitted s t i result grounded taken
        (concluding.returned result (same ▸ control))
  cases taken with
  | signal received free control =>
    refine ⟨fun completion drained finishing => ?_, by simp [complete]⟩
    obtain ⟨rfl, rfl⟩ := ServiceControl.finishing.inj finishing
    exact ⟨by simp [complete], True.intro, by simp⟩
  | observe first free control ended =>
    refine ⟨fun completion drained finishing => ?_, by simp [complete]⟩
    obtain ⟨rfl, rfl⟩ := ServiceControl.finishing.inj finishing
    refine ⟨by simp [complete], ?_, by simp⟩
    have fits := firstEnded_fits s first flagged closed control ended
    exact fits_later rules collects s _ .observe _ first grounded (.observe first free control ended)
      fits
  | joinCollector completion ended free control drains gone =>
    obtain ⟨completed, fits, -⟩ := concluding.finishing completion none control
    refine ⟨fun again drained finishing => ?_, by simp⟩
    obtain ⟨rfl, rfl⟩ := ServiceControl.finishing.inj finishing
    exact ⟨List.mem_append_left _ completed, by cases completion <;> exact fits,
      fun r same => .inr ⟨ended, gone, (Option.some.inj same).symm⟩⟩
  | drainTimeout completion free control drains runs =>
    obtain ⟨completed, fits, -⟩ := concluding.finishing completion none control
    refine ⟨fun again drained finishing => ?_, by simp⟩
    obtain ⟨rfl, rfl⟩ := ServiceControl.finishing.inj finishing
    exact ⟨List.mem_append_left _ completed, by cases completion <;> exact fits,
      fun r same => .inl ⟨(Option.some.inj same).symm, by simp⟩⟩
  | finish completion drained result free control joined =>
    obtain ⟨completed, fits, kept⟩ := concluding.finishing completion drained control
    refine ⟨by simp, fun again returned => ?_⟩
    obtain rfl := ServiceControl.returned.inj returned
    have answered := result_answered collects collector trace s delivering recorded completion
      drained result completed fits kept joined
    exact answered_later rules collects collector trace _ s _ .finish result grounded
      (.finish completion drained result free control joined) answered
  | _ => exact later rfl

variable (settings : MqttSettings) (discoveryPayload : String)

theorem service_concluding (inputs : List (ServiceInput X)) (trace : List (Served X))
    (s : Service C)
    (ran : (service rules collects collector settings discoveryPayload).run inputs =
      some (trace, s)) :
    Grounded s ∧ Flagged s ∧ Closed s ∧ Delivering collects collector trace s ∧
      Recorded trace s ∧ Concluding collects collector trace s := by
  refine (service rules collects collector settings discoveryPayload).invariant
    (fun trace s => Grounded s ∧ Flagged s ∧ Closed s ∧ Delivering collects collector trace s ∧
      Recorded trace s ∧ Concluding collects collector trace s)
    ⟨grounded_start rules collects settings discoveryPayload collector,
      ⟨by simp [service], by simp [service], by simp [service]⟩, by simp [Closed, service],
      delivering_start rules collects collector settings discoveryPayload,
      ⟨by simp [service], by simp [service], by simp [service], by simp [service]⟩,
      ⟨by simp [service], by simp [service]⟩⟩
    ?_ inputs trace s ran
  rintro trace s i emitted t ⟨grounded, flagged, closed, delivering, recorded, concluding⟩ taken
  have serves := serve_serves rules collects s emitted t i taken
  exact ⟨serves_grounded rules collects s t i emitted grounded serves,
    serves_flagged rules collects s t i emitted grounded flagged serves,
    serves_closed rules collects s t i emitted grounded closed serves,
    serves_delivering rules collects collector trace emitted s t i grounded delivering serves,
    serves_recorded rules collects trace emitted s t i grounded recorded serves,
    serves_concluding rules collects collector trace emitted s t i grounded flagged closed
      delivering recorded concluding serves⟩

/-- Whatever the service returns is explained by its run: success, by a signal, by a
supervisor and a scheduler that ended well, and by a collector that did or was given
up; an error, by the very fault it names. No task is ever found to have just stopped. -/
theorem service_result_explained (inputs : List (ServiceInput X)) (trace : List (Served X))
    (s : Service C)
    (ran : (service rules collects collector settings discoveryPayload).run inputs =
      some (trace, s)) (result : ServiceResult) (returned : s.control = .returned result) :
    Answered collects collector trace s result :=
  (service_concluding rules collects collector settings discoveryPayload inputs trace s
    ran).2.2.2.2.2.returned result returned

end Ends

/-- The collector's thread panics, and the service stops with it. -/
def panickingService : List (ServiceInput Unit) :=
  [.schedule, .wake, .take, .engage, .collectPanics, .observe, .mqtt .shutdown, .unschedule,
    .finish]

theorem service_result_explained_panic : ∃ trace s,
    (service (.documented fun _ => false) sampleSnapshots () sampleSettings "{}").run
      panickingService = some (trace, s) ∧
    s.control = .returned (.error (.taskFailed .collectorWorker)) ∧
    Answered sampleSnapshots () trace s (.error (.taskFailed .collectorWorker)) :=
  ⟨_, _, rfl, rfl, service_result_explained (.documented fun _ => false) sampleSnapshots ()
    sampleSettings "{}" panickingService _ _ rfl _ rfl⟩

end RpiHealth
