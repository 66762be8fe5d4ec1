import RpiHealth.Daemon.Farewell

/-! What happens to requests that come faster than collections end: they are not queued
up, ticks pass while a collection runs, and the warnings about it are rare. -/
namespace RpiHealth
open Machines Watch Service

/-- The thread is in a collection, or was left in one. -/
def Stage.occupies : Stage → Bool
  | .collecting _ | .collected _ | .ended (.error _) => true
  | _ => false

section Pressure

variable {C X : Type}

/-- A collection comes to its end. -/
def cycleEnds : Served X → Bool
  | .inr (.collected _ _) | .inr (.panicked .collectorWorker) => true
  | _ => false

/-- A collection is asked for, by the scheduler or by the supervisor. -/
def asks : Served X → Bool
  | .inl (.inl (.allocated _)) => true
  | _ => false

def warning? : Served X → Option Nat
  | .inr (.busyWarning now) => some now
  | _ => none

def warnings (trace : List (Served X)) : List Nat := trace.filterMap warning?

@[simp] theorem warnings_append (first second : List (Served X)) :
    warnings (first ++ second) = warnings first ++ warnings second :=
  List.filterMap_append

theorem warnings_own (emitted : List Obs) :
    warnings (emitted.map (fun o => (.inl (.inl o) : Served X))) = [] := by
  induction emitted with
  | nil => rfl
  | cons o rest ih => exact ih

theorem asks_own (emitted : List Obs) :
    (emitted.map (fun o => (.inl (.inl o) : Served X))).countP asks = 0 ↔
      ∀ requestId, .allocated requestId ∉ emitted := by
  simp only [List.countP_eq_zero, List.mem_map, forall_exists_index, and_imp]
  constructor
  · intro none requestId member
    exact absurd (none _ _ member rfl) (by simp [asks])
  · rintro none served o member rfl
    cases o with
    | allocated requestId => exact absurd member (none requestId)
    | _ => simp [asks]

theorem cycleEnds_own (emitted : List Obs) :
    (emitted.map (fun o => (.inl (.inl o) : Served X))).countP cycleEnds = 0 := by
  simp only [List.countP_eq_zero, List.mem_map, forall_exists_index, and_imp]
  rintro served o - rfl
  simp [cycleEnds]

/-- The flag that the scheduler looks at is that of the thread, and the warnings so far
are far apart. -/
structure Paused (trace : List (Served X)) (s : Service C) : Prop where
  busy : s.busy = s.stage.occupies
  apart : (warnings trace).Pairwise (fun first later => first + BUSY_WARNING_INTERVAL ≤ later)
  last : s.scheduler.lastBusyWarning = (warnings trace).getLast?

/-- Only the thread's stage and what is warned of matter. -/
theorem paused_same (trace emitted : List (Served X)) (s t : Service C) (paused : Paused trace s)
    (busy : t.busy = t.stage.occupies) (silent : warnings emitted = [])
    (last : t.scheduler.lastBusyWarning = s.scheduler.lastBusyWarning) :
    Paused (trace ++ emitted) t where
  busy := busy
  apart := by
    rw [warnings_append, silent, List.append_nil]
    exact paused.apart
  last := by rw [last, warnings_append, silent, List.append_nil, paused.last]

variable (rules : ClientRules) (collects : SnapshotCollector C X)

theorem serves_paused (trace emitted : List (Served X)) (s t : Service C) (i : ServiceInput X)
    (paused : Paused trace s) (taken : Serves rules collects s i emitted t) :
    Paused (trace ++ emitted) t := by
  have busy := paused.busy
  cases taken with
  | mqtt i own w => exact paused_same trace _ s _ paused busy (warnings_own own) rfl
  | warned now free control lowered occupied warns =>
    have since : ∀ first ∈ warnings trace, first + BUSY_WARNING_INTERVAL ≤ now := by
      intro first member
      cases last : (warnings trace).getLast? with
      | none =>
        rw [List.getLast?_eq_none_iff.mp last] at member
        cases member
      | some latest =>
        rw [Service.warns, paused.last, last] at warns
        have passed : BUSY_WARNING_INTERVAL ≤ now - latest := of_decide_eq_true warns
        have positive : 0 < BUSY_WARNING_INTERVAL := by decide
        obtain ⟨front, split⟩ := List.getLast?_eq_some_iff.mp last
        have apart := paused.apart
        rw [split, List.pairwise_append] at apart
        rw [split, List.mem_append, List.mem_singleton] at member
        rcases member with earlier | rfl
        · have := apart.2.2 first earlier latest (by simp)
          omega
        · omega
    refine ⟨busy, ?_, ?_⟩
    · rw [warnings_append, List.pairwise_append]
      refine ⟨paused.apart, List.pairwise_singleton _ _, fun first member later here => ?_⟩
      obtain rfl : later = now := by simpa [warnings, warning?] using here
      exact since first member
    · simp [warnings, warning?]
  | wake stage | close stage | ignored stage | took stage | engage _ stage
  | collected _ _ _ stage | failed _ _ _ stage | collectPanics _ stage | released stage
  | gaveUp _ stage =>
    rw [stage] at busy
    exact paused_same trace _ s _ paused (by simp_all [Stage.occupies]) rfl rfl
  | _ => exact paused_same trace _ s _ paused busy rfl rfl

theorem outstanding_asked (s t : Service C) (stage : t.stage = s.stage) :
    t.outstanding ≤ s.outstanding + 1 := by
  unfold Service.outstanding
  rw [stage]
  split <;> omega

/-- A collection that ends was asked for, and what is asked for again before it is begun is
one thing to do. -/
theorem serves_spends (s t : Service C) (i : ServiceInput X) (emitted : List (Served X))
    (grounded : Grounded s) (taken : Serves rules collects s i emitted t) :
    emitted.countP cycleEnds + t.outstanding ≤ s.outstanding + emitted.countP asks := by
  cases taken with
  | mqtt i own w may stepped =>
    rw [cycleEnds_own]
    by_cases silent : (own.map (fun o => (.inl (.inl o) : Served X))).countP asks = 0
    · have kept := step_requests_kept rules s.world w i own grounded.dormant
        (mayTake_other s i may) ((asks_own own).mp silent) stepped
      simp [Service.outstanding, kept]
    · have most := outstanding_asked s { s with world := w } rfl
      omega
  | spin running control =>
    rw [spin_world s grounded control]
    simp [cycleEnds, Service.outstanding]
  | ignored stage | took stage =>
    have unread := (grounded.notified stage).ne
    simp [stage, unread, Service.outstanding, cycleEnds]
  | wake stage | close stage | engage _ stage | collected _ _ _ stage | failed _ _ _ stage
  | collectPanics _ stage | released stage | gaveUp _ stage =>
    simp [stage, Service.outstanding, List.countP_cons, cycleEnds, asks, Nat.add_comm]
  | schedule | tick =>
    simp only [List.countP_singleton, cycleEnds, asks, if_true, Nat.zero_add, Bool.false_eq_true,
      if_false]
    exact outstanding_asked s _ rfl
  | signal | observe =>
    simp only [Service.complete, List.countP_cons, List.countP_nil, cycleEnds, asks]
    exact Nat.le_of_eq (Nat.zero_add _)
  | _ => simp [Service.outstanding, cycleEnds]

variable (collector : C) (settings : MqttSettings) (discoveryPayload : String)

theorem service_paused (inputs : List (ServiceInput X)) (trace : List (Served X)) (s : Service C)
    (ran : (service rules collects collector settings discoveryPayload).run inputs =
      some (trace, s)) : Grounded s ∧ Paused trace s := by
  refine (service rules collects collector settings discoveryPayload).invariant
    (fun trace s => Grounded s ∧ Paused trace s)
    ⟨grounded_start rules collects settings discoveryPayload collector,
      ⟨rfl, List.Pairwise.nil, rfl⟩⟩ ?_ inputs trace s ran
  rintro trace s i emitted t ⟨grounded, paused⟩ taken
  have serves := serve_serves rules collects s emitted t i taken
  exact ⟨serves_grounded rules collects s t i emitted grounded serves,
    serves_paused rules collects trace emitted s t i paused serves⟩

/-- While the thread is in a collection, a tick asks for nothing and changes nothing but the
time of the last warning. -/
theorem tick_passes (s t : Service C) (now : Nat) (emitted : List (Served X))
    (busy : s.busy = true) (taken : serve rules collects s (.tick now) = some (emitted, t)) :
    emitted.countP asks = 0 ∧ t.world = s.world ∧ t.stage = s.stage := by
  have serves := serve_serves rules collects s emitted t _ taken
  cases serves with
  | warned => exact ⟨rfl, rfl, rfl⟩
  | skipped => exact ⟨rfl, rfl, rfl⟩
  | tick now free control lowered idle => exact absurd (busy.symm.trans idle) (by decide)

/-- From every reachable state on, collections end no more often than one is asked for,
two apart that may be left from before. Ticks pass while one is under way, and the
warnings about it are a minute apart. -/
theorem service_not_overrun (inputs : List (ServiceInput X)) (trace : List (Served X))
    (s : Service C)
    (ran : (service rules collects collector settings discoveryPayload).run inputs =
      some (trace, s)) :
    (warnings trace).Pairwise (fun first later => first + BUSY_WARNING_INTERVAL ≤ later) ∧
    (s.stage.occupies = true → ∀ now emitted t,
      serve rules collects s (.tick now) = some (emitted, t) →
        emitted.countP asks = 0 ∧ t.world = s.world ∧ t.stage = s.stage) ∧
    ∀ later emitted t,
      (service rules collects collector settings discoveryPayload).runFrom s later =
        some (emitted, t) →
      emitted.countP cycleEnds + t.outstanding ≤ s.outstanding + emitted.countP asks ∧
        s.outstanding ≤ 2 := by
  obtain ⟨grounded, paused⟩ := service_paused rules collects collector settings discoveryPayload
    inputs trace s ran
  refine ⟨paused.apart, fun occupied now emitted t taken =>
    tick_passes rules collects s t now emitted (paused.busy.trans occupied) taken,
    fun later emitted t ranLater => ⟨?_, outstanding_le s⟩⟩
  refine ((service rules collects collector settings discoveryPayload).runFrom_spends Grounded
    Service.outstanding cycleEnds asks ?_ later s t emitted grounded ranLater).2
  intro s i own t grounded taken
  have serves := serve_serves rules collects s own t i taken
  exact ⟨serves_grounded rules collects s t i own grounded serves,
    serves_spends rules collects s t i own grounded serves⟩

end Pressure

/-- The scheduler asks, the worker begins, and a tick finds it busy. -/
def busyService : List (ServiceInput Unit) :=
  [.schedule, .wake, .take, .engage, .tick 5]

theorem service_not_overrun_busy : ∃ trace s emitted t,
    (service (.documented fun _ => false) sampleSnapshots () sampleSettings "{}").run
      busyService = some (trace, s) ∧ warnings trace = [5] ∧ s.stage.occupies = true ∧
    (service (.documented fun _ => false) sampleSnapshots () sampleSettings "{}").runFrom s
      [.tick 6, .collect ()] = some (emitted, t) ∧
    emitted.countP cycleEnds + t.outstanding ≤ s.outstanding + emitted.countP asks ∧
      s.outstanding ≤ 2 :=
  ⟨_, _, _, _, rfl, rfl, rfl, rfl, (service_not_overrun (.documented fun _ => false)
    sampleSnapshots () sampleSettings "{}" busyService _ _ rfl).2.2 [.tick 6, .collect ()] _ _ rfl⟩

end RpiHealth
