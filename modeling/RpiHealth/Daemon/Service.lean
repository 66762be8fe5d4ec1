import RpiHealth.Collector.Payloads
import RpiHealth.Daemon.Replay
import RpiHealth.Library.Refinement

/-! The whole service: the signal, the scheduler, the supervisor and the collector's
thread, how the first end among them stops the others, and what the service returns.
One thread runs all but the collector, so a task keeps that thread while a handler of
it is under way, and a select looks at its branches in their order. -/
namespace RpiHealth
open Machines Watch

/-- In nanoseconds. -/
def BUSY_WARNING_INTERVAL : Nat := 60000000000

inductive Task where
  | mqttSupervisor | collectionScheduler | collectorWorker
  deriving DecidableEq, Repr

def Task.name : Task → String
  | .mqttSupervisor => "MQTT supervisor"
  | .collectionScheduler => "collection scheduler"
  | .collectorWorker => "collector worker"

/-- No task is ever cancelled before it is joined. -/
inductive JoinError where
  | panicked
  deriving DecidableEq, Repr

/-- What a service that has started returns; a collection's own errors are kept. -/
inductive ServiceError where
  | collection (source : DaemonError)
  | signalHandling (source : IoError)
  | mqtt (source : MqttError)
  | taskStopped (task : Task)
  | taskFailed (task : Task)
  deriving DecidableEq, Repr

abbrev ServiceResult := Except ServiceError Unit

/-- What joining each task yields. -/
abbrev MqttEnd := Except JoinError (Except MqttError Unit)
abbrev SchedulerEnd := Except JoinError Unit
abbrev CollectorEnd := Except JoinError (Except DaemonError Unit)

/-- The first of two results, unless only the second is an error. -/
def ServiceResult.and (first second : ServiceResult) : ServiceResult :=
  match first with
  | .ok _ => second
  | .error e => .error e

def finishMqtt : MqttEnd → ServiceResult
  | .ok result => result.mapError .mqtt
  | .error _ => .error (.taskFailed .mqttSupervisor)

def finishCollector : CollectorEnd → ServiceResult
  | .ok result => result.mapError .collection
  | .error _ => .error (.taskFailed .collectorWorker)

def finishTask (ended : SchedulerEnd) (task : Task) : ServiceResult :=
  ended.mapError (fun _ => .taskFailed task)

def unexpectedMqtt : MqttEnd → ServiceResult
  | .ok (.ok _) => .error (.taskStopped .mqttSupervisor)
  | .ok (.error e) => .error (.mqtt e)
  | .error _ => .error (.taskFailed .mqttSupervisor)

def unexpectedCollector : CollectorEnd → ServiceResult
  | .ok (.ok _) => .error (.taskStopped .collectorWorker)
  | .ok (.error e) => .error (.collection e)
  | .error _ => .error (.taskFailed .collectorWorker)

def unexpectedTask (ended : SchedulerEnd) (task : Task) : ServiceResult :=
  match ended with
  | .ok _ => .error (.taskStopped task)
  | .error _ => .error (.taskFailed task)

/-- The branch that ends the select of the service. -/
inductive Completion where
  | signal (received : Except IoError Unit)
  | mqtt (ended : MqttEnd)
  | scheduler (ended : SchedulerEnd)
  | collector (ended : CollectorEnd)
  deriving DecidableEq

/-- The collector's end is not what ended the select. -/
def Completion.drains : Completion → Bool
  | .collector _ => false
  | _ => true

/-- Where the collector's thread is in its loop. -/
inductive Stage where
  | waiting
  /-- The slot has changed and was not read yet. -/
  | notified
  /-- A request was read, and the busy flag is not set yet. -/
  | taken (requestId : Nat)
  | collecting (requestId : Nat)
  /-- A collection is over, and the busy flag is not cleared yet. -/
  | collected (result : Except DaemonError Unit)
  | ended (result : CollectorEnd)
  deriving DecidableEq

inductive SchedulerControl where
  | starting | ticking | ended | panicked
  deriving DecidableEq, Repr

structure Scheduler where
  control : SchedulerControl := .starting
  lastBusyWarning : Option Nat := none
  deriving DecidableEq, Repr

inductive ServiceControl where
  | selecting
  /-- The other tasks are joined; what draining the collector gave is kept. -/
  | finishing (completion : Completion) (drained : Option ServiceResult)
  | returned (result : ServiceResult)
  deriving DecidableEq

structure Service (C : Type) where
  world : World
  collector : C
  stage : Stage := .waiting
  seen : Nat := 0
  busy : Bool := false
  scheduler : Scheduler := {}
  mqttPanicked : Bool := false
  control : ServiceControl := .selecting

inductive ServiceInput (X : Type) where
  /-- A step of the supervisor, of its client or of the network. -/
  | mqtt (i : Input)
  /-- The supervisor's select returns at once: the collector's thread is gone. -/
  | spin
  | mqttPanics
  /-- The request slot has changed. -/
  | wake
  /-- Every sender of the request slot is gone. -/
  | close
  | take
  | engage
  /-- A collection ends, with what it met. -/
  | collect (met : X)
  | collectPanics
  | release
  | schedule
  | tick (now : Nat)
  /-- The scheduler notices the shutdown flag. -/
  | unschedule
  | schedulerPanics
  /-- The wait for a signal of the operating system is over. -/
  | signal (received : Except IoError Unit)
  /-- A task has ended. -/
  | observe
  | joinCollector
  | drainTimeout
  | finish
  deriving DecidableEq

inductive ServiceObs (X : Type) where
  | spun (emitted : List Obs)
  | panicked (task : Task)
  | collected (requestId : Nat) (met : X)
  | busyWarning (now : Nat)
  | completed (completion : Completion)
  | discarded
  | finished (result : ServiceResult)
  deriving DecidableEq

/-- What the supervisor and the worker emit, and what the service adds. -/
abbrev Served (X : Type) := Joint ⊕ ServiceObs X

/-- How a collector makes the payload of a cycle. -/
abbrev SnapshotCollector (C X : Type) := C → X → Except DaemonError String × C

/-- Inputs that are the supervisor's to take, of its client or of the network. -/
def Input.isSupervisors : Input → Bool
  | .replaceState _ | .request | .signal => false
  | _ => true

namespace Service

variable {C X : Type}

/-- No handler of the supervisor is under way. -/
def free (s : Service C) : Bool := s.mqttPanicked || decide (s.world.control ≠ .connAcked)

def mqttEnd (s : Service C) : Option MqttEnd :=
  if s.mqttPanicked then some (.error .panicked)
  else
    match s.world.control with
    | .returned none => some (.ok (.ok ()))
    | .returned (some e) => some (.ok (.error e))
    | _ => none

def schedulerEnd (s : Service C) : Option SchedulerEnd :=
  match s.scheduler.control with
  | .ended => some (.ok ())
  | .panicked => some (.error .panicked)
  | _ => none

def collectorEnd (s : Service C) : Option CollectorEnd :=
  match s.stage with
  | .ended result => some result
  | _ => none

/-- The supervisor runs, takes a noticed shutdown before anything else, and goes on
with a ConnAck at once. -/
def mayTake (s : Service C) (i : Input) : Bool :=
  !s.mqttPanicked && i.isSupervisors &&
    (decide (s.world.control ≠ .connAcked) || decide (i = .connect)) &&
    (decide (s.world.control ≠ .select) || !s.world.shutdown || decide (i = .shutdown))

/-- The flag is raised as soon as the select is over. -/
def complete (s : Service C) (completion : Completion) : List (Served X) × Service C :=
  ([.inr (.completed completion), .inl (.inl .signalled)],
    { s with
      world := { s.world with shutdown := true }
      control := .finishing completion none })

/-- The first task of the select that has ended. -/
def firstEnded (s : Service C) : Option Completion :=
  match s.mqttEnd, s.schedulerEnd, s.collectorEnd with
  | some ended, _, _ => some (.mqtt ended)
  | none, some ended, _ => some (.scheduler ended)
  | none, none, some ended => some (.collector ended)
  | none, none, none => none

/-- What the service returns, once all that it waits for has ended. -/
def result (s : Service C) (completion : Completion) (drained : Option ServiceResult) :
    Option ServiceResult :=
  match completion with
  | .signal received => do
    let mqtt ← s.mqttEnd
    let scheduler ← s.schedulerEnd
    let collector ← drained
    let primary : ServiceResult := received.mapError .signalHandling
    return ((primary.and (finishMqtt mqtt)).and
      (finishTask scheduler .collectionScheduler)).and collector
  | .mqtt ended => do
    let scheduler ← s.schedulerEnd
    let collector ← drained
    return ((unexpectedMqtt ended).and (finishTask scheduler .collectionScheduler)).and collector
  | .scheduler ended => do
    let mqtt ← s.mqttEnd
    let collector ← drained
    return ((unexpectedTask ended .collectionScheduler).and (finishMqtt mqtt)).and collector
  | .collector ended => do
    let mqtt ← s.mqttEnd
    let scheduler ← s.schedulerEnd
    return ((unexpectedCollector ended).and (finishMqtt mqtt)).and
      (finishTask scheduler .collectionScheduler)

def request (s : Service C) : List (Served X) × Service C :=
  ([.inl (.inl (.allocated (requestCollection s.world.requests).2))],
    { s with world := { s.world with requests := (requestCollection s.world.requests).1 } })

/-- The last warning is long ago, or there was none. -/
def warns (s : Service C) (now : Nat) : Bool :=
  match s.scheduler.lastBusyWarning with
  | none => true
  | some last => decide (BUSY_WARNING_INTERVAL ≤ now - last)

/-- The scheduler's first poll. -/
def schedule (s : Service C) : List (Served X) × Service C :=
  if s.world.shutdown then
    ([], { s with scheduler := { s.scheduler with control := .ended } })
  else ({ s with scheduler := { s.scheduler with control := .ticking } } : Service C).request

def tick (s : Service C) (now : Nat) : List (Served X) × Service C :=
  if s.busy then
    if s.warns now then
      ([.inr (.busyWarning now)],
        { s with scheduler := { s.scheduler with lastBusyWarning := some now } })
    else ([], s)
  else s.request

/-- The value that the slot holds by now is read, and 0 asks for nothing. -/
def take (s : Service C) : List (Served X) × Service C :=
  if s.world.requests.value = 0 then
    ([], { s with seen := s.world.requests.version, stage := .waiting })
  else
    ([.inl (.inr (.took s.world.requests.value))],
      { s with seen := s.world.requests.version, stage := .taken s.world.requests.value })

def collect (collects : SnapshotCollector C X) (s : Service C) (requestId : Nat) (met : X) :
    List (Served X) × Service C :=
  let cycle := collects s.collector met
  match cycle.1 with
  | .ok payload =>
    ([.inr (.collected requestId met), .inl (.inl (.replaced ⟨requestId, payload⟩))],
      { s with
        collector := cycle.2
        world := { s.world with
          states := s.world.states.sendReplace (some ⟨requestId, payload⟩) }
        stage := .collected (.ok ()) })
  | .error e =>
    ([.inr (.collected requestId met), .inl (.inr .failed)],
      { s with collector := cycle.2, stage := .collected (.error e) })

/-- The busy flag is cleared before an error ends the thread. -/
def release (s : Service C) (result : Except DaemonError Unit) : Service C :=
  match result with
  | .ok _ => { s with busy := false, stage := .waiting }
  | .error e => { s with busy := false, stage := .ended (.ok (.error e)) }

end Service

open Service

/-- One step of the service. -/
def serve {C X : Type} (rules : ClientRules) (collects : SnapshotCollector C X) (s : Service C) :
    ServiceInput X → Option (List (Served X) × Service C)
  | .mqtt i =>
    if s.mayTake i then
      (step rules s.world i).map (fun taken =>
        (taken.1.map (fun o => .inl (.inl o)), { s with world := taken.2 }))
    else none
  | .spin =>
    if s.mayTake .state ∧ s.world.control = .select ∧ s.world.protocol.acceptsState = true ∧
        s.world.states.hasChanged s.world.seen = false ∧ s.collectorEnd.isSome = true then
      let turned := World.conclude s.world.finishTurn
      some ([.inr (.spun turned.1)], { s with world := turned.2 })
    else none
  | .mqttPanics =>
    if s.mqttEnd = none then
      some ([.inr (.panicked .mqttSupervisor)], { s with mqttPanicked := true })
    else none
  | .wake =>
    if s.stage = .waiting ∧ s.world.requests.hasChanged s.seen = true then
      some ([], { s with stage := .notified })
    else none
  | .close =>
    if s.stage = .waiting ∧ s.world.requests.hasChanged s.seen = false ∧
        s.mqttEnd.isSome = true ∧ s.schedulerEnd.isSome = true then
      some ([.inl (.inr .closed)], { s with stage := .ended (.ok (.ok ())) })
    else none
  | .take => if s.stage = .notified then some s.take else none
  | .engage =>
    match s.stage with
    | .taken requestId => some ([], { s with busy := true, stage := .collecting requestId })
    | _ => none
  | .collect met =>
    match s.stage with
    | .collecting requestId => some (s.collect collects requestId met)
    | _ => none
  | .collectPanics =>
    match s.stage with
    | .collecting _ =>
      some ([.inr (.panicked .collectorWorker), .inl (.inr .failed)],
        { s with stage := .ended (.error .panicked) })
    | _ => none
  | .release =>
    match s.stage with
    | .collected result => some ([], s.release result)
    | _ => none
  | .schedule =>
    if s.free = true ∧ s.scheduler.control = .starting then some s.schedule else none
  | .tick now =>
    if s.free = true ∧ s.scheduler.control = .ticking ∧ s.world.shutdown = false then
      some (s.tick now)
    else none
  | .unschedule =>
    if s.free = true ∧ s.scheduler.control = .ticking ∧ s.world.shutdown = true then
      some ([], { s with scheduler := { s.scheduler with control := .ended } })
    else none
  | .schedulerPanics =>
    if s.free = true ∧ s.schedulerEnd = none then
      some ([.inr (.panicked .collectionScheduler)],
        { s with scheduler := { s.scheduler with control := .panicked } })
    else none
  | .signal received =>
    if s.free = true ∧ s.control = .selecting then some (s.complete (.signal received)) else none
  | .observe =>
    if s.free = true ∧ s.control = .selecting then s.firstEnded.map s.complete else none
  | .joinCollector =>
    match s.control, s.collectorEnd with
    | .finishing completion none, some ended =>
      if s.free = true ∧ completion.drains = true then
        some ([], { s with control := .finishing completion (some (finishCollector ended)) })
      else none
    | _, _ => none
  | .drainTimeout =>
    match s.control, s.collectorEnd with
    | .finishing completion none, none =>
      if s.free = true ∧ completion.drains = true then
        some ([.inr .discarded], { s with control := .finishing completion (some (.ok ())) })
      else none
    | _, _ => none
  | .finish =>
    match s.control with
    | .finishing completion drained =>
      if s.free then
        (s.result completion drained).map (fun result =>
          ([.inr (.finished result)], { s with control := .returned result }))
      else none
    | _ => none

/-- What a step of the service can do, and when. -/
inductive Serves {C X : Type} (rules : ClientRules) (collects : SnapshotCollector C X)
    (s : Service C) : ServiceInput X → List (Served X) → Service C → Prop where
  | mqtt (i : Input) (emitted : List Obs) (w : World) (may : s.mayTake i = true)
      (taken : step rules s.world i = some (emitted, w)) :
    Serves rules collects s (.mqtt i) (emitted.map (fun o => .inl (.inl o))) { s with world := w }
  | spin (running : s.mqttPanicked = false) (control : s.world.control = .select)
      (lowered : s.world.shutdown = false) (gone : s.collectorEnd.isSome = true) :
    Serves rules collects s .spin [.inr (.spun (World.conclude s.world.finishTurn).1)]
      { s with world := (World.conclude s.world.finishTurn).2 }
  | mqttPanics (runs : s.mqttEnd = none) :
    Serves rules collects s .mqttPanics [.inr (.panicked .mqttSupervisor)]
      { s with mqttPanicked := true }
  | wake (stage : s.stage = .waiting) (changed : s.world.requests.hasChanged s.seen = true) :
    Serves rules collects s .wake [] { s with stage := .notified }
  | close (stage : s.stage = .waiting) (unchanged : s.world.requests.hasChanged s.seen = false)
      (mqtt : s.mqttEnd.isSome = true) (scheduler : s.schedulerEnd.isSome = true) :
    Serves rules collects s .close [.inl (.inr .closed)] { s with stage := .ended (.ok (.ok ())) }
  | ignored (stage : s.stage = .notified) (zero : s.world.requests.value = 0) :
    Serves rules collects s .take []
      { s with seen := s.world.requests.version, stage := .waiting }
  | took (stage : s.stage = .notified) (asked : s.world.requests.value ≠ 0) :
    Serves rules collects s .take [.inl (.inr (.took s.world.requests.value))]
      { s with seen := s.world.requests.version, stage := .taken s.world.requests.value }
  | engage (requestId : Nat) (stage : s.stage = .taken requestId) :
    Serves rules collects s .engage [] { s with busy := true, stage := .collecting requestId }
  | collected (requestId : Nat) (met : X) (payload : String)
      (stage : s.stage = .collecting requestId)
      (made : (collects s.collector met).1 = .ok payload) :
    Serves rules collects s (.collect met)
      [.inr (.collected requestId met), .inl (.inl (.replaced ⟨requestId, payload⟩))]
      { s with
        collector := (collects s.collector met).2
        world := { s.world with
          states := s.world.states.sendReplace (some ⟨requestId, payload⟩) }
        stage := .collected (.ok ()) }
  | failed (requestId : Nat) (met : X) (e : DaemonError) (stage : s.stage = .collecting requestId)
      (refused : (collects s.collector met).1 = .error e) :
    Serves rules collects s (.collect met) [.inr (.collected requestId met), .inl (.inr .failed)]
      { s with collector := (collects s.collector met).2, stage := .collected (.error e) }
  | collectPanics (requestId : Nat) (stage : s.stage = .collecting requestId) :
    Serves rules collects s .collectPanics
      [.inr (.panicked .collectorWorker), .inl (.inr .failed)]
      { s with stage := .ended (.error .panicked) }
  | released (stage : s.stage = .collected (.ok ())) :
    Serves rules collects s .release [] { s with busy := false, stage := .waiting }
  | gaveUp (e : DaemonError) (stage : s.stage = .collected (.error e)) :
    Serves rules collects s .release []
      { s with busy := false, stage := .ended (.ok (.error e)) }
  | neverStarted (free : s.free = true) (control : s.scheduler.control = .starting)
      (raised : s.world.shutdown = true) :
    Serves rules collects s .schedule []
      { s with scheduler := { s.scheduler with control := .ended } }
  | schedule (free : s.free = true) (control : s.scheduler.control = .starting)
      (lowered : s.world.shutdown = false) :
    Serves rules collects s .schedule
      [.inl (.inl (.allocated (requestCollection s.world.requests).2))]
      { s with
        scheduler := { s.scheduler with control := .ticking }
        world := { s.world with requests := (requestCollection s.world.requests).1 } }
  | warned (now : Nat) (free : s.free = true) (control : s.scheduler.control = .ticking)
      (lowered : s.world.shutdown = false) (busy : s.busy = true) (warns : s.warns now = true) :
    Serves rules collects s (.tick now) [.inr (.busyWarning now)]
      { s with scheduler := { s.scheduler with lastBusyWarning := some now } }
  | skipped (now : Nat) (busy : s.busy = true) : Serves rules collects s (.tick now) [] s
  | tick (now : Nat) (free : s.free = true) (control : s.scheduler.control = .ticking)
      (lowered : s.world.shutdown = false) (idle : s.busy = false) :
    Serves rules collects s (.tick now)
      [.inl (.inl (.allocated (requestCollection s.world.requests).2))]
      { s with world := { s.world with requests := (requestCollection s.world.requests).1 } }
  | unschedule (free : s.free = true) (control : s.scheduler.control = .ticking)
      (raised : s.world.shutdown = true) :
    Serves rules collects s .unschedule []
      { s with scheduler := { s.scheduler with control := .ended } }
  | schedulerPanics (free : s.free = true) (runs : s.schedulerEnd = none) :
    Serves rules collects s .schedulerPanics [.inr (.panicked .collectionScheduler)]
      { s with scheduler := { s.scheduler with control := .panicked } }
  | signal (received : Except IoError Unit) (free : s.free = true)
      (control : s.control = .selecting) :
    Serves rules collects s (.signal received) (s.complete (.signal received)).1
      (s.complete (X := X) (.signal received)).2
  | observe (completion : Completion) (free : s.free = true) (control : s.control = .selecting)
      (first : s.firstEnded = some completion) :
    Serves rules collects s .observe (s.complete completion).1
      (s.complete (X := X) completion).2
  | joinCollector (completion : Completion) (ended : CollectorEnd) (free : s.free = true)
      (control : s.control = .finishing completion none) (drains : completion.drains = true)
      (gone : s.collectorEnd = some ended) :
    Serves rules collects s .joinCollector []
      { s with control := .finishing completion (some (finishCollector ended)) }
  | drainTimeout (completion : Completion) (free : s.free = true)
      (control : s.control = .finishing completion none) (drains : completion.drains = true)
      (runs : s.collectorEnd = none) :
    Serves rules collects s .drainTimeout [.inr .discarded]
      { s with control := .finishing completion (some (.ok ())) }
  | finish (completion : Completion) (drained : Option ServiceResult) (result : ServiceResult)
      (free : s.free = true) (control : s.control = .finishing completion drained)
      (joined : s.result completion drained = some result) :
    Serves rules collects s .finish [.inr (.finished result)]
      { s with control := .returned result }

section Serving

variable {C X : Type} (rules : ClientRules) (collects : SnapshotCollector C X) (s : Service C)
  (emitted : List (Served X)) (t : Service C)

theorem mayTake_iff (i : Input) : s.mayTake i = true ↔
    s.mqttPanicked = false ∧ i.isSupervisors = true ∧
      (s.world.control = .connAcked → i = .connect) ∧
      (s.world.control = .select → s.world.shutdown = true → i = .shutdown) := by
  simp only [mayTake, Bool.and_eq_true, Bool.not_eq_true', Bool.or_eq_true, decide_eq_true_eq,
    and_assoc]
  refine and_congr_right (fun _ => and_congr_right (fun _ => and_congr ?_ ?_))
  · exact ⟨fun either => either.resolve_left ∘ not_not_intro, fun given => by grind⟩
  · cases s.world.shutdown <;> grind

theorem collect_serves (requestId : Nat) (met : X) (stage : s.stage = .collecting requestId)
    (taken : s.collect collects requestId met = (emitted, t)) :
    Serves rules collects s (.collect met) emitted t := by
  simp only [Service.collect] at taken
  split at taken
  · rename_i payload made
    obtain ⟨rfl, rfl⟩ := Prod.mk.inj taken
    exact .collected requestId met payload stage made
  · rename_i e refused
    obtain ⟨rfl, rfl⟩ := Prod.mk.inj taken
    exact .failed requestId met e stage refused

theorem tick_serves (now : Nat) (free : s.free = true) (control : s.scheduler.control = .ticking)
    (lowered : s.world.shutdown = false) (taken : s.tick now = (emitted, t)) :
    Serves rules collects s (.tick now) emitted t := by
  unfold Service.tick at taken
  split at taken
  · rename_i busy
    split at taken
    · rename_i warns
      obtain ⟨rfl, rfl⟩ := Prod.mk.inj taken
      exact .warned now free control lowered busy warns
    · obtain ⟨rfl, rfl⟩ := Prod.mk.inj taken
      exact .skipped now busy
  · rename_i idle
    obtain ⟨rfl, rfl⟩ := Prod.mk.inj taken
    exact .tick now free control lowered (by simpa using idle)

theorem schedule_serves (free : s.free = true) (control : s.scheduler.control = .starting)
    (taken : s.schedule = (emitted, t)) : Serves rules collects s .schedule emitted t := by
  unfold Service.schedule at taken
  split at taken
  · rename_i raised
    obtain ⟨rfl, rfl⟩ := Prod.mk.inj taken
    exact .neverStarted free control raised
  · rename_i lowered
    obtain ⟨rfl, rfl⟩ := Prod.mk.inj taken
    exact .schedule free control (by simpa using lowered)

theorem take_serves (stage : s.stage = .notified) (taken : s.take = (emitted, t)) :
    Serves rules collects s .take emitted t := by
  unfold Service.take at taken
  split at taken
  · rename_i zero
    obtain ⟨rfl, rfl⟩ := Prod.mk.inj taken
    exact .ignored stage zero
  · rename_i asked
    obtain ⟨rfl, rfl⟩ := Prod.mk.inj taken
    exact .took stage asked

theorem main_serves (i : ServiceInput X) (own : i ∈ [.observe, .joinCollector, .drainTimeout, .finish])
    (taken : serve rules collects s i = some (emitted, t)) :
    Serves rules collects s i emitted t := by
  simp only [List.mem_cons, List.not_mem_nil, or_false] at own
  rcases own with rfl | rfl | rfl | rfl
  · obtain ⟨⟨free, control⟩, made⟩ := Option.ite_none_right_eq_some.mp taken
    obtain ⟨completion, first, same⟩ := Option.map_eq_some_iff.mp made
    obtain ⟨rfl, rfl⟩ := Prod.mk.inj same
    exact .observe completion free control first
  · simp only [serve] at taken
    split at taken
    · rename_i completion ended control gone
      obtain ⟨⟨free, drains⟩, made⟩ := Option.ite_none_right_eq_some.mp taken
      obtain ⟨rfl, rfl⟩ := Prod.mk.inj (Option.some.inj made)
      exact .joinCollector completion ended free control drains gone
    · contradiction
  · simp only [serve] at taken
    split at taken
    · rename_i completion control runs
      obtain ⟨⟨free, drains⟩, made⟩ := Option.ite_none_right_eq_some.mp taken
      obtain ⟨rfl, rfl⟩ := Prod.mk.inj (Option.some.inj made)
      exact .drainTimeout completion free control drains runs
    · contradiction
  · simp only [serve] at taken
    split at taken
    · rename_i completion drained control
      obtain ⟨free, made⟩ := Option.ite_none_right_eq_some.mp taken
      obtain ⟨result, joined, same⟩ := Option.map_eq_some_iff.mp made
      obtain ⟨rfl, rfl⟩ := Prod.mk.inj same
      exact .finish completion drained result free control joined
    · contradiction

theorem serve_serves (i : ServiceInput X) (taken : serve rules collects s i = some (emitted, t)) :
    Serves rules collects s i emitted t := by
  cases i with
  | mqtt i =>
    obtain ⟨may, made⟩ := Option.ite_none_right_eq_some.mp taken
    obtain ⟨⟨own, w⟩, stepped, same⟩ := Option.map_eq_some_iff.mp made
    obtain ⟨rfl, rfl⟩ := Prod.mk.inj same
    exact .mqtt i own w may stepped
  | spin =>
    obtain ⟨⟨may, control, -, -, gone⟩, made⟩ := Option.ite_none_right_eq_some.mp taken
    obtain ⟨rfl, rfl⟩ := Prod.mk.inj (Option.some.inj made)
    obtain ⟨running, -, -, lowered⟩ := (mayTake_iff s .state).mp may
    refine .spin running control ?_ gone
    by_contra raised
    exact absurd (lowered control (by simpa using raised)) (by decide)
  | mqttPanics =>
    obtain ⟨runs, made⟩ := Option.ite_none_right_eq_some.mp taken
    obtain ⟨rfl, rfl⟩ := Prod.mk.inj (Option.some.inj made)
    exact .mqttPanics runs
  | wake =>
    obtain ⟨⟨stage, changed⟩, made⟩ := Option.ite_none_right_eq_some.mp taken
    obtain ⟨rfl, rfl⟩ := Prod.mk.inj (Option.some.inj made)
    exact .wake stage changed
  | close =>
    obtain ⟨⟨stage, unchanged, mqtt, scheduler⟩, made⟩ := Option.ite_none_right_eq_some.mp taken
    obtain ⟨rfl, rfl⟩ := Prod.mk.inj (Option.some.inj made)
    exact .close stage unchanged mqtt scheduler
  | take =>
    obtain ⟨stage, made⟩ := Option.ite_none_right_eq_some.mp taken
    exact take_serves rules collects s emitted t stage (Option.some.inj made)
  | engage =>
    simp only [serve] at taken
    split at taken
    · rename_i requestId stage
      obtain ⟨rfl, rfl⟩ := Prod.mk.inj (Option.some.inj taken)
      exact .engage requestId stage
    · contradiction
  | collect met =>
    simp only [serve] at taken
    split at taken
    · rename_i requestId stage
      exact collect_serves rules collects s emitted t requestId met stage (Option.some.inj taken)
    · contradiction
  | collectPanics =>
    simp only [serve] at taken
    split at taken
    · rename_i requestId stage
      obtain ⟨rfl, rfl⟩ := Prod.mk.inj (Option.some.inj taken)
      exact .collectPanics requestId stage
    · contradiction
  | release =>
    simp only [serve] at taken
    split at taken
    · rename_i result stage
      obtain ⟨rfl, rfl⟩ := Prod.mk.inj (Option.some.inj taken)
      cases result with
      | ok done => exact .released stage
      | error e => exact .gaveUp e stage
    · contradiction
  | schedule =>
    obtain ⟨⟨free, control⟩, made⟩ := Option.ite_none_right_eq_some.mp taken
    exact schedule_serves rules collects s emitted t free control (Option.some.inj made)
  | tick now =>
    obtain ⟨⟨free, control, lowered⟩, made⟩ := Option.ite_none_right_eq_some.mp taken
    exact tick_serves rules collects s emitted t now free control lowered (Option.some.inj made)
  | unschedule =>
    obtain ⟨⟨free, control, raised⟩, made⟩ := Option.ite_none_right_eq_some.mp taken
    obtain ⟨rfl, rfl⟩ := Prod.mk.inj (Option.some.inj made)
    exact .unschedule free control raised
  | schedulerPanics =>
    obtain ⟨⟨free, runs⟩, made⟩ := Option.ite_none_right_eq_some.mp taken
    obtain ⟨rfl, rfl⟩ := Prod.mk.inj (Option.some.inj made)
    exact .schedulerPanics free runs
  | signal received =>
    obtain ⟨⟨free, control⟩, made⟩ := Option.ite_none_right_eq_some.mp taken
    obtain ⟨rfl, rfl⟩ := Prod.mk.inj (Option.some.inj made)
    exact .signal received free control
  | observe | joinCollector | drainTimeout | finish =>
    exact main_serves rules collects s emitted t _ (by simp) taken

end Serving

def service {C X : Type} (rules : ClientRules) (collects : SnapshotCollector C X) (collector : C)
    (settings : MqttSettings) (discoveryPayload : String) :
    Machine (Service C) (ServiceInput X) (Served X) where
  initial :=
    { world := { settings := settings, discoveryPayload := discoveryPayload }
      collector := collector }
  step := serve rules collects

end RpiHealth
