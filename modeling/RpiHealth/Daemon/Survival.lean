import RpiHealth.Daemon.Ending

/-! What the service outlives. Broker, network, scheduler and sources may do what they
like: as long as nothing panics and every state can be written, only a signal ends it. -/
namespace RpiHealth
open Machines Watch Service

/-- A part of the program panics. -/
def ServiceInput.isPanic {X : Type} : ServiceInput X → Bool
  | .mqttPanics | .schedulerPanics | .collectPanics => true
  | _ => false

section Survival

variable {C X : Type}

/-- What the supervisor emits and is told, in the trace of the service. -/
def told (trace : List (Served X)) : List Obs := own (own trace)

@[simp] theorem told_append (first second : List (Served X)) :
    told (first ++ second) = told first ++ told second := by
  simp [told]

@[simp] theorem told_mqtt (emitted : List Obs) :
    told (emitted.map fun o => (.inl (.inl o) : Served X)) = emitted := by
  have twice : (emitted.map fun o => (.inl (.inl o) : Served X)) =
      (emitted.map Sum.inl).map Sum.inl := by simp
  rw [told, twice, own_inl, own_inl]

/-- Nothing has gone wrong, and a signal is all that may have ended the select. -/
structure Steady (stable : C → Prop) (trace : List (Served X)) (s : Service C) : Prop where
  mqtt : s.mqttPanicked = false
  scheduler : s.scheduler.control ≠ .panicked
  collector : stable s.collector
  stage : ∀ e, s.stage ≠ .collected (.error e)
  ended : ∀ result, s.stage = .ended result → result = .ok (.ok ())
  bounded : Bounded (session (told trace)) s.world
  completed : ∀ completion, .inr (.completed completion) ∈ trace →
    ∃ received, completion = .signal received
  finishing : ∀ completion drained, s.control = .finishing completion drained →
    .inr (.completed completion) ∈ trace ∧ ∀ result, drained = some result → result = .ok ()
  returned : ∀ result, s.control = .returned result → ∃ received,
    .inr (.completed (.signal received)) ∈ trace ∧ result = received.mapError .signalHandling

variable (rules : ClientRules) (collects : SnapshotCollector C X) (stable : C → Prop)

/-- A step that leaves the main task, the tasks' ends and the collector alone. -/
theorem steady_same (trace emitted : List (Served X)) (s t : Service C)
    (steady : Steady stable trace s) (mqtt : t.mqttPanicked = s.mqttPanicked)
    (scheduler : t.scheduler.control ≠ .panicked) (collector : stable t.collector)
    (stage : ∀ e, t.stage ≠ .collected (.error e))
    (ended : ∀ result, t.stage = .ended result → result = .ok (.ok ()))
    (bounded : Bounded (session (told trace ++ told emitted)) t.world)
    (control : t.control = s.control)
    (silent : ∀ completion, .inr (.completed completion) ∉ emitted) :
    Steady stable (trace ++ emitted) t where
  mqtt := mqtt.trans steady.mqtt
  scheduler := scheduler
  collector := collector
  stage := stage
  ended := ended
  bounded := told_append trace emitted ▸ bounded
  completed completion member :=
    steady.completed completion ((List.mem_append.mp member).resolve_right (silent completion))
  finishing completion drained here := by
    obtain ⟨completed, clean⟩ := steady.finishing completion drained (control ▸ here)
    exact ⟨List.mem_append_left _ completed, clean⟩
  returned result here := by
    obtain ⟨received, heard, same⟩ := steady.returned result (control ▸ here)
    exact ⟨received, List.mem_append_left _ heard, same⟩

theorem steady_mqttEnd (trace : List (Served X)) (s : Service C) (steady : Steady stable trace s)
    (ended : MqttEnd) (here : s.mqttEnd = some ended) :
    s.world.control = .returned none ∧ ended = .ok (.ok ()) := by
  simp only [Service.mqttEnd, steady.mqtt, Bool.false_eq_true, if_false] at here
  split at here
  · rename_i control
    exact ⟨control, (Option.some.inj here).symm⟩
  · rename_i e control
    exact absurd control ((bounded_fine _ _ steady.bounded).2 e)
  · contradiction

theorem steady_schedulerEnd (trace : List (Served X)) (s : Service C)
    (steady : Steady stable trace s) (ended : SchedulerEnd) (here : s.schedulerEnd = some ended) :
    s.scheduler.control = .ended ∧ ended = .ok () := by
  unfold Service.schedulerEnd at here
  split at here
  · rename_i control
    exact ⟨control, (Option.some.inj here).symm⟩
  · rename_i control
    exact absurd control steady.scheduler
  · contradiction

theorem steady_collectorEnd (trace : List (Served X)) (s : Service C)
    (steady : Steady stable trace s) (ended : CollectorEnd) (here : s.collectorEnd = some ended) :
    ended = .ok (.ok ()) ∧ s.stage = .ended (.ok (.ok ())) := by
  unfold Service.collectorEnd at here
  split at here
  · rename_i result stage
    obtain rfl := Option.some.inj here
    obtain rfl := steady.ended result stage
    exact ⟨rfl, stage⟩
  · contradiction

/-- Before the flag is raised no task of a steady service ends. -/
theorem steady_firstEnded (trace : List (Served X)) (s : Service C)
    (steady : Steady stable trace s) (flagged : Flagged s) (closed : Closed s)
    (control : s.control = .selecting) : s.firstEnded = none := by
  have lowered : s.world.shutdown ≠ true := fun raised => flagged.raised.mp raised control
  have mqtt : s.mqttEnd = none := by
    by_contra some
    obtain ⟨ended, here⟩ := Option.ne_none_iff_exists'.mp some
    exact lowered (flagged.mqtt (.inr (steady_mqttEnd stable trace s steady ended here).1))
  have scheduler : s.schedulerEnd = none := by
    by_contra some
    obtain ⟨ended, here⟩ := Option.ne_none_iff_exists'.mp some
    exact lowered (flagged.scheduler (steady_schedulerEnd stable trace s steady ended here).1)
  have collector : s.collectorEnd = none := by
    by_contra some
    obtain ⟨ended, here⟩ := Option.ne_none_iff_exists'.mp some
    have gone := closed (steady_collectorEnd stable trace s steady ended here).2
    simp [mqtt] at gone
  simp [Service.firstEnded, mqtt, scheduler, collector]

theorem steady_result (trace : List (Served X)) (s : Service C) (steady : Steady stable trace s)
    (completion : Completion) (drained : Option ServiceResult) (result : ServiceResult)
    (control : s.control = .finishing completion drained)
    (joined : s.result completion drained = some result) : ∃ received,
    .inr (.completed (.signal received)) ∈ trace ∧
      result = received.mapError .signalHandling := by
  obtain ⟨completed, clean⟩ := steady.finishing completion drained control
  obtain ⟨received, rfl⟩ := steady.completed completion completed
  refine ⟨received, completed, ?_⟩
  simp only [Service.result, Option.bind_eq_bind, Option.bind_eq_some_iff, Option.pure_def,
    Option.some.injEq] at joined
  obtain ⟨mqtt, hasMqtt, scheduler, hasScheduler, last, hasLast, rfl⟩ := joined
  obtain rfl := (steady_mqttEnd stable trace s steady mqtt hasMqtt).2
  obtain rfl := (steady_schedulerEnd stable trace s steady scheduler hasScheduler).2
  obtain rfl := clean last hasLast
  cases received with
  | ok u => rfl
  | error e => rfl

/-- Something the supervisor neither emits nor is told. -/
theorem silent_bounded (trace emitted : List (Served X)) (w : World) (silent : told emitted = [])
    (bounded : Bounded (session (told trace)) w) :
    Bounded (session (told trace ++ told emitted)) w := by
  rwa [silent, List.append_nil]

theorem complete_steady (trace : List (Served X)) (s : Service C) (steady : Steady stable trace s)
    (received : Except IoError Unit) :
    Steady stable (trace ++ (s.complete (X := X) (.signal received)).1)
      (s.complete (X := X) (.signal received)).2 where
  mqtt := steady.mqtt
  scheduler := steady.scheduler
  collector := steady.collector
  stage := steady.stage
  ended := steady.ended
  bounded := by
    rw [told_append]
    exact bounded_note _ s.world _ .signalled rfl rfl rfl rfl steady.bounded
  completed completion member := by
    rcases List.mem_append.mp member with old | new
    · exact steady.completed completion old
    · exact ⟨received, by simpa [complete] using new⟩
  finishing completion drained here := by
    obtain ⟨rfl, rfl⟩ := ServiceControl.finishing.inj here
    exact ⟨by simp [complete], by simp⟩
  returned result here := by simp [complete] at here

theorem serves_steady (trace emitted : List (Served X)) (s t : Service C) (i : ServiceInput X)
    (answers : Meets (fun before o => Answers (session before) o) (told trace) (told emitted))
    (calm : i.isPanic = false)
    (reliable : ∀ met, i = .collect met → stable s.collector →
      (∃ payload, (collects s.collector met).1 = .ok payload) ∧
        stable (collects s.collector met).2)
    (grounded : Grounded s) (flagged : Flagged s) (closed : Closed s)
    (steady : Steady stable trace s) (taken : Serves rules collects s i emitted t) :
    Steady stable (trace ++ emitted) t := by
  cases taken with
  | mqtt i own w may stepped =>
    rw [told_mqtt] at answers
    have kept := step_bounded rules _ own s.world w i answers steady.bounded grounded.dormant
      stepped
    exact steady_same stable trace _ s _ steady rfl steady.scheduler steady.collector steady.stage
      steady.ended (by rw [told_mqtt]; exact kept) rfl (by simp)
  | spin running control =>
    rw [spin_world s grounded control]
    exact steady_same stable trace _ s s steady rfl steady.scheduler steady.collector steady.stage
      steady.ended (silent_bounded _ _ s.world rfl steady.bounded) rfl (by simp)
  | mqttPanics | schedulerPanics | collectPanics => simp [ServiceInput.isPanic] at calm
  | collected requestId met payload stage made =>
    obtain ⟨-, next⟩ := reliable met rfl steady.collector
    exact steady_same stable trace _ s _ steady rfl steady.scheduler next (by simp) (by simp)
      (bounded_note _ s.world _ _ rfl rfl rfl rfl steady.bounded) rfl (by simp)
  | failed requestId met e stage refused =>
    obtain ⟨⟨payload, made⟩, -⟩ := reliable met rfl steady.collector
    rw [refused] at made
    contradiction
  | gaveUp e stage => exact absurd stage (steady.stage e)
  | schedule | tick =>
    exact steady_same stable trace _ s _ steady rfl (by first | exact steady.scheduler | simp)
      steady.collector steady.stage steady.ended
      (bounded_note _ s.world _ _ rfl rfl rfl rfl steady.bounded) rfl (by simp)
  | neverStarted | unschedule =>
    exact steady_same stable trace _ s _ steady rfl (by simp) steady.collector steady.stage
      steady.ended (silent_bounded _ _ s.world rfl steady.bounded) rfl (by simp)
  | warned | skipped =>
    exact steady_same stable trace _ s _ steady rfl steady.scheduler steady.collector steady.stage
      steady.ended (silent_bounded _ _ s.world rfl steady.bounded) rfl (by simp)
  | wake | close | ignored | took | engage | released =>
    exact steady_same stable trace _ s _ steady rfl steady.scheduler steady.collector (by simp)
      (by simp) (silent_bounded _ _ s.world rfl steady.bounded) rfl (by simp)
  | signal received => exact complete_steady stable trace s steady received
  | observe completion free control first =>
    simp [steady_firstEnded stable trace s steady flagged closed control] at first
  | joinCollector completion ended free control drains gone =>
    obtain ⟨completed, -⟩ := steady.finishing completion none control
    have clean := (steady_collectorEnd stable trace s steady ended gone).1
    rw [List.append_nil]
    refine { steady with finishing := ?_, returned := by simp }
    intro again drained here
    obtain ⟨rfl, rfl⟩ := ServiceControl.finishing.inj here
    exact ⟨completed, fun result same => by
      rw [← Option.some.inj same]
      exact (finishCollector_ok ended).mpr clean⟩
  | drainTimeout completion free control =>
    obtain ⟨completed, -⟩ := steady.finishing completion none control
    have same := steady_same stable trace [.inr .discarded] s s steady rfl steady.scheduler
      steady.collector steady.stage steady.ended
      (silent_bounded _ _ s.world rfl steady.bounded) rfl (by simp)
    refine { same with finishing := ?_, returned := by simp }
    intro again drained here
    obtain ⟨rfl, rfl⟩ := ServiceControl.finishing.inj here
    exact ⟨List.mem_append_left _ completed, fun result given => (Option.some.inj given).symm⟩
  | finish completion drained result free control joined =>
    obtain ⟨received, heard, made⟩ :=
      steady_result stable trace s steady completion drained result control joined
    have same := steady_same stable trace [.inr (.finished result)] s s steady rfl steady.scheduler
      steady.collector steady.stage steady.ended
      (silent_bounded _ _ s.world rfl steady.bounded) rfl (by simp)
    refine { same with finishing := by simp, returned := ?_ }
    intro again here
    obtain rfl := ServiceControl.returned.inj here
    exact ⟨received, List.mem_append_left _ heard, made⟩

variable (settings : MqttSettings) (discoveryPayload : String) (collector : C)

theorem steady_start (start : stable collector) : Steady stable ([] : List (Served X))
    (service rules collects collector settings discoveryPayload).initial where
  mqtt := rfl
  scheduler := by simp [service]
  collector := start
  stage := by simp [service]
  ended := by simp [service]
  bounded := bounded_start settings discoveryPayload
  completed := by simp
  finishing := by simp [service]
  returned := by simp [service]

theorem service_steady (start : stable collector) (inputs : List (ServiceInput X))
    (calm : ∀ i ∈ inputs, i.isPanic = false)
    (reliable : ∀ met, .collect met ∈ inputs → ∀ c, stable c →
      (∃ payload, (collects c met).1 = .ok payload) ∧ stable (collects c met).2)
    (trace : List (Served X)) (s : Service C)
    (ran : (service rules collects collector settings discoveryPayload).run inputs =
      some (trace, s)) :
    Grounded s ∧ Flagged s ∧ Closed s ∧ (Answering (told trace) → Steady stable trace s) := by
  let m := service rules collects collector settings discoveryPayload
  have along : m.Along (fun _ i => i ∈ inputs) m.initial inputs :=
    m.along_of_mem _ inputs (fun _ member => member) m.initial
  refine m.invariant_along (fun _ i => i ∈ inputs)
    (fun trace s =>
      Grounded s ∧ Flagged s ∧ Closed s ∧ (Answering (told trace) → Steady stable trace s))
    ⟨grounded_start rules collects settings discoveryPayload collector,
      ⟨by simp [m, service], by simp [m, service], by simp [m, service]⟩,
      by simp [Closed, m, service],
      fun _ => steady_start rules collects stable settings discoveryPayload collector start⟩
    ?_ inputs trace s along ran
  rintro trace s i emitted t ⟨grounded, flagged, closed, steady⟩ member taken
  have serves := serve_serves rules collects s emitted t i taken
  refine ⟨serves_grounded rules collects s t i emitted grounded serves,
    serves_flagged rules collects s t i emitted grounded flagged serves,
    serves_closed rules collects s t i emitted grounded closed serves,
    fun answering => ?_⟩
  rw [told_append] at answering
  obtain ⟨before, answers⟩ := (answering_append _ _).mp answering
  refine serves_steady rules collects stable trace emitted s t i answers (calm i member) ?_ grounded
    flagged closed (steady before) serves
  rintro met rfl
  exact reliable met member s.collector

end Survival

/-- The payloads of the collector, as texts. -/
def snapshots (times : TimeFormat) (render : Document → String) :
    SnapshotCollector Collector Sources :=
  fun c met => ((collectPayload times c met).1.map render, (collectPayload times c met).2)

/-- A collector whose numbers can be written has a payload and stays such a collector:
the condition reads nothing that a cycle changes. -/
theorem snapshots_reliable (times : TimeFormat) (render : Document → String)
    (collector : Collector) (inputs : List (ServiceInput Sources))
    (writable : ∀ met, .collect met ∈ inputs →
      met.Roundable collector ∧ (times.format met.observedAt).isSome) :
    ∀ met, .collect met ∈ inputs → ∀ c : Collector,
      (∀ other : Sources, other.Roundable c ↔ other.Roundable collector) →
      (∃ payload, (snapshots times render c met).1 = .ok payload) ∧
        ∀ other : Sources, other.Roundable (snapshots times render c met).2 ↔
          other.Roundable collector := by
  intro met member c same
  obtain ⟨roundable, formatted⟩ := writable met member
  obtain ⟨d, made⟩ := (collectPayload_ok times c met formatted).mpr ((same met).mpr roundable)
  refine ⟨⟨render d, by simp [snapshots, made, Except.map]⟩, fun next => ?_⟩
  exact (roundable_next times c met next).trans (same next)

/-- Without a panic, as long as each cycle's numbers can be written and the client returns
as acknowledged only what was sent, nothing the broker, the network, the scheduler or the
sources do ends the service: only a signal ends the select, and what the service then
returns is how the signal was received. -/
theorem service_survives (rules : ClientRules) (times : TimeFormat) (render : Document → String)
    (settings : MqttSettings) (discoveryPayload : String)
    (collector : Collector) (inputs : List (ServiceInput Sources))
    (calm : ∀ i ∈ inputs, i.isPanic = false)
    (writable : ∀ met, .collect met ∈ inputs →
      met.Roundable collector ∧ (times.format met.observedAt).isSome)
    (trace : List (Served Sources)) (s : Service Collector)
    (ran : (service rules (snapshots times render) collector settings discoveryPayload).run
      inputs = some (trace, s)) (answering : Answering (told trace)) :
    (∀ completion, .inr (.completed completion) ∈ trace →
      ∃ received, completion = .signal received) ∧
      ∀ result, s.control = .returned result → ∃ received,
        .inr (.completed (.signal received)) ∈ trace ∧
          result = received.mapError .signalHandling := by
  have steady := service_steady rules (snapshots times render)
    (fun c => ∀ met : Sources, met.Roundable c ↔ met.Roundable collector) settings discoveryPayload
    collector (fun met => Iff.rfl) inputs calm
    (snapshots_reliable times render collector inputs writable) trace s ran
  exact ⟨(steady.2.2.2 answering).completed, (steady.2.2.2 answering).returned⟩

/-- Nothing can be read, and nothing can be run. -/
def deniedSources : Sources where
  readText _ _ := .error ⟨.other, "permission denied"⟩
  run _ _ _ := .error .timedOut
  statvfs _ := .error ⟨.other, "permission denied"⟩
  observedAt := ⟨0⟩
  startedAt := 0
  endedAt := 0

theorem denied_roundable (c : Collector) : deniedSources.Roundable c where
  load input load read := by simp [deniedSources] at read
  temperature output value absent := by simp [Sources.Absent, deniedSources] at absent

/-- The broker is lost before Discovery is answered, what was left of it is taken for the
next connection's, and a cycle reads nothing. -/
def deniedService : List (ServiceInput Sources) :=
  [.schedule, .mqtt (.connAck .success), .mqtt .connect, .mqtt (.transmit 0 7),
    .mqtt (.fail [.outgoing (.publish 7)]), .mqtt .retry, .mqtt (.connAck .success),
    .mqtt .connect, .mqtt .poll, .wake, .take, .engage, .collect deniedSources, .release,
    .signal (.ok ()), .unschedule, .mqtt .shutdown, .mqtt .timeout, .close, .joinCollector,
    .finish]

theorem service_survives_denied : ∃ trace s,
    (service (.documented fun _ => true) (snapshots sampleTimes fun _ => "{}") sampleCollector
      sampleSettings "{}").run deniedService = some (trace, s) ∧
    s.control = .returned (.ok ()) ∧ ∃ received,
      .inr (.completed (.signal received)) ∈ trace ∧
        (.ok () : ServiceResult) = received.mapError .signalHandling := by
  refine ⟨_, _, rfl, rfl, ?_⟩
  refine (service_survives (.documented fun _ => true) sampleTimes (fun _ => "{}")
    sampleSettings "{}" sampleCollector deniedService (by decide) ?_ _ _ rfl ?_).2 _ rfl
  · intro met member
    obtain rfl : met = deniedSources := by simpa [deniedService] using member
    exact ⟨denied_roundable sampleCollector, rfl⟩
  · decide +kernel

end RpiHealth
