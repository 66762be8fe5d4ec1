import RpiHealth.Daemon.Simulation

/-! Where the published payloads come from: the collector is asked cycle after cycle,
each cycle answers one request, and what is published is such an answer. -/
namespace RpiHealth
open Machines Watch Service

section Cycles

variable {C X : Type} (collects : SnapshotCollector C X)

/-- What the collector makes of the cycles it goes through, request by request. -/
def answers (c : C) : List (Nat × X) → List (Nat × Except DaemonError String)
  | [] => []
  | (requestId, met) :: rest =>
    (requestId, (collects c met).1) :: answers (collects c met).2 rest

def collectorAfter (c : C) (cycles : List (Nat × X)) : C :=
  cycles.foldl (fun c cycle => (collects c cycle.2).2) c

theorem answers_append (c : C) (first second : List (Nat × X)) :
    answers collects c (first ++ second) =
      answers collects c first ++ answers collects (collectorAfter collects c first) second := by
  induction first generalizing c with
  | nil => rfl
  | cons cycle rest ih => simp [answers, ih, collectorAfter]

end Cycles

section Delivering

variable {C X : Type}

def cycle? : Served X → Option (Nat × X)
  | .inr (.collected requestId met) => some (requestId, met)
  | _ => none

/-- The cycles of the collector that have ended, with what each met. -/
def cycles (trace : List (Served X)) : List (Nat × X) := trace.filterMap cycle?

@[simp] theorem cycles_append (first second : List (Served X)) :
    cycles (first ++ second) = cycles first ++ cycles second := by
  simp [cycles]

/-- A cycle's answer is in the state slot, or it ended the thread. -/
structure Delivering (collects : SnapshotCollector C X) (collector : C) (trace : List (Served X))
    (s : Service C) : Prop where
  current : s.collector = collectorAfter collects collector (cycles trace)
  replaced : ∀ m, .inl (.inl (.replaced m)) ∈ trace →
    (m.requestId, .ok m.payload) ∈ answers collects collector (cycles trace)
  failed : ∀ e, s.stage = .collected (.error e) ∨ s.stage = .ended (.ok (.error e)) →
    ∃ requestId, (requestId, .error e) ∈ answers collects collector (cycles trace)

variable (rules : ClientRules) (collects : SnapshotCollector C X) (collector : C)

/-- A step at which no cycle ends. -/
theorem delivering_silent (trace emitted : List (Served X)) (s t : Service C)
    (delivering : Delivering collects collector trace s) (silent : cycles emitted = [])
    (kept : t.collector = s.collector)
    (unreplaced : ∀ m, .inl (.inl (.replaced m)) ∉ emitted)
    (failed : ∀ e, t.stage = .collected (.error e) ∨ t.stage = .ended (.ok (.error e)) →
      s.stage = .collected (.error e) ∨ s.stage = .ended (.ok (.error e))) :
    Delivering collects collector (trace ++ emitted) t := by
  have same : cycles (trace ++ emitted) = cycles trace := by simp [silent]
  refine ⟨?_, ?_, ?_⟩
  · rw [same, kept, delivering.current]
  · intro m member
    rw [same]
    exact delivering.replaced m ((List.mem_append.mp member).resolve_right (unreplaced m))
  · intro e stage
    rw [same]
    exact delivering.failed e (failed e stage)

/-- A cycle ends; a state that is put in the slot is its answer. -/
theorem delivering_cycle (trace emitted : List (Served X)) (s t : Service C) (requestId : Nat)
    (met : X) (delivering : Delivering collects collector trace s)
    (cycle : cycles emitted = [(requestId, met)])
    (next : t.collector = (collects s.collector met).2)
    (replaced : ∀ m, .inl (.inl (.replaced m)) ∈ emitted →
      m.requestId = requestId ∧ (collects s.collector met).1 = .ok m.payload)
    (failed : ∀ e, t.stage = .collected (.error e) ∨ t.stage = .ended (.ok (.error e)) →
      (collects s.collector met).1 = .error e) :
    Delivering collects collector (trace ++ emitted) t := by
  have grown : answers collects collector (cycles (trace ++ emitted)) =
      answers collects collector (cycles trace) ++
        [(requestId, (collects s.collector met).1)] := by
    rw [cycles_append, cycle, answers_append, ← delivering.current]
    rfl
  refine ⟨?_, ?_, ?_⟩
  · rw [cycles_append, cycle, collectorAfter, List.foldl_append]
    rw [next, delivering.current]
    rfl
  · intro m member
    rw [grown]
    rcases List.mem_append.mp member with old | new
    · exact List.mem_append_left _ (delivering.replaced m old)
    · obtain ⟨rfl, made⟩ := replaced m new
      simp [made]
  · intro e stage
    rw [grown]
    exact ⟨requestId, by simp [failed e stage]⟩

theorem serves_delivering (trace emitted : List (Served X)) (s t : Service C) (i : ServiceInput X)
    (grounded : Grounded s) (delivering : Delivering collects collector trace s)
    (taken : Serves rules collects s i emitted t) :
    Delivering collects collector (trace ++ emitted) t := by
  cases taken with
  | mqtt i own w may stepped =>
    have silent := step_silent rules s.world w i own grounded.dormant (mayTake_other s i may) stepped
    refine delivering_silent collects collector trace _ s _ delivering ?_ rfl ?_ (fun _ => id)
    · simp [cycles, cycle?]
    · intro m member
      obtain ⟨o, among, same⟩ := List.mem_map.mp member
      exact silent o among m (Sum.inl.inj (Sum.inl.inj same))
  | collected requestId met payload stage made =>
    refine delivering_cycle collects collector trace _ s _ requestId met delivering rfl rfl ?_ ?_
    · intro m member
      obtain rfl : m = ⟨requestId, payload⟩ := by simpa using member
      exact ⟨rfl, made⟩
    · simp
  | failed requestId met e stage refused =>
    refine delivering_cycle collects collector trace _ s _ requestId met delivering rfl rfl ?_ ?_
    · simp
    · intro e' same
      obtain rfl : e = e' := by simpa using same
      exact refused
  | gaveUp e stage =>
    refine delivering_silent collects collector trace _ s _ delivering rfl rfl (by simp) ?_
    intro e' same
    obtain rfl : e = e' := by simpa using same
    exact .inl stage
  | skipped =>
    exact delivering_silent collects collector trace _ s _ delivering rfl rfl (by simp) (fun _ => id)
  | _ =>
    refine delivering_silent collects collector trace _ s _ delivering rfl rfl ?_ ?_
    · simp [complete]
    · first | exact fun _ => id | simp

theorem delivering_start (settings : MqttSettings) (discoveryPayload : String) :
    Delivering collects collector []
      (service rules collects collector settings discoveryPayload).initial :=
  ⟨rfl, by simp, by simp [service]⟩

/-- Each cycle answers a request of its own, and the requests come in order. -/
structure Numbered (trace : List (Served X)) (s : Service C) : Prop where
  increasing : ((cycles trace).map Prod.fst).Pairwise (· < ·)
  answered : ∀ cycle ∈ cycles trace, cycle.1 ≤ s.world.requests.value ∧
    (s.seen ≠ s.world.requests.version → cycle.1 < s.world.requests.value)
  current : ∀ requestId, s.stage = .taken requestId ∨ s.stage = .collecting requestId →
    requestId ≤ s.world.requests.value ∧
      (s.seen ≠ s.world.requests.version → requestId < s.world.requests.value) ∧
      ∀ cycle ∈ cycles trace, cycle.1 < requestId

/-- A step at which nothing is read from the slot and no cycle ends. -/
theorem numbered_grows (trace emitted : List (Served X)) (s t : Service C)
    (numbered : Numbered trace s) (silent : cycles emitted = []) (seen : t.seen = s.seen)
    (grows : Grows s.world.requests t.world.requests) (below : t.world.requests.value < U64_MAX)
    (stage : ∀ requestId, t.stage = .taken requestId ∨ t.stage = .collecting requestId →
      s.stage = .taken requestId ∨ s.stage = .collecting requestId) :
    Numbered (trace ++ emitted) t := by
  have same : cycles (trace ++ emitted) = cycles trace := by simp [silent]
  have later : ∀ n, n ≤ s.world.requests.value ∧
      (s.seen ≠ s.world.requests.version → n < s.world.requests.value) →
      n ≤ t.world.requests.value ∧
        (t.seen ≠ t.world.requests.version → n < t.world.requests.value) := by
    rintro n ⟨upTo, older⟩
    rcases grows with still | ⟨-, value⟩
    · rw [still, seen]
      exact ⟨upTo, older⟩
    · have := value below
      exact ⟨by omega, fun _ => by omega⟩
  refine ⟨?_, ?_, ?_⟩
  · rw [same]
    exact numbered.increasing
  · rw [same]
    exact fun cycle member => later _ (numbered.answered cycle member)
  · intro requestId working
    obtain ⟨upTo, older, newest⟩ := numbered.current requestId (stage requestId working)
    obtain ⟨upTo', older'⟩ := later requestId ⟨upTo, older⟩
    exact ⟨upTo', older', by rwa [same]⟩

/-- A cycle ends. -/
theorem numbered_cycle (trace emitted : List (Served X)) (s t : Service C) (requestId : Nat)
    (met : X) (numbered : Numbered trace s) (stage : s.stage = .collecting requestId)
    (cycle : cycles emitted = [(requestId, met)]) (seen : t.seen = s.seen)
    (requests : t.world.requests = s.world.requests)
    (idle : ∀ id, t.stage ≠ .taken id ∧ t.stage ≠ .collecting id) :
    Numbered (trace ++ emitted) t := by
  obtain ⟨upTo, older, newest⟩ := numbered.current requestId (.inr stage)
  have grown : cycles (trace ++ emitted) = cycles trace ++ [(requestId, met)] := by simp [cycle]
  refine ⟨?_, ?_, ?_⟩
  · rw [grown, List.map_append, List.pairwise_append]
    refine ⟨numbered.increasing, List.pairwise_singleton _ _, ?_⟩
    intro earlier among last single
    obtain ⟨old, member, rfl⟩ := List.mem_map.mp among
    rw [List.mem_singleton.mp single]
    exact newest old member
  · rw [grown, requests, seen]
    intro cycle member
    rcases List.mem_append.mp member with old | new
    · exact numbered.answered cycle old
    · rw [List.mem_singleton.mp new]
      exact ⟨upTo, older⟩
  · intro id working
    obtain ⟨untaken, still⟩ := idle id
    exact absurd working (by simp [untaken, still])

theorem serves_requests (s t : Service C) (i : ServiceInput X) (emitted : List (Served X))
    (grounded : Grounded s) (taken : Serves rules collects s i emitted t) :
    Grows s.world.requests t.world.requests := by
  cases taken with
  | mqtt i own w may stepped => exact step_requests rules s.world w i own grounded.dormant stepped
  | spin running control =>
    rw [spin_world s grounded control]
    exact .inl rfl
  | schedule | tick => exact grows_request s.world.requests
  | _ => exact .inl rfl

theorem grows_below (before after : Slot Nat) (grows : Grows before after)
    (below : after.value < U64_MAX) : before.value < U64_MAX := by
  rcases grows with rfl | ⟨-, value⟩
  · exact below
  · exact (value below).trans below

theorem serves_numbered (trace emitted : List (Served X)) (s t : Service C) (i : ServiceInput X)
    (grounded : Grounded s) (numbered : s.world.requests.value < U64_MAX → Numbered trace s)
    (taken : Serves rules collects s i emitted t) (below : t.world.requests.value < U64_MAX) :
    Numbered (trace ++ emitted) t := by
  have grows := serves_requests rules collects s t i emitted grounded taken
  have before := numbered (grows_below _ _ grows below)
  cases taken with
  | mqtt i own w may stepped =>
    exact numbered_grows trace _ s _ before (by simp [cycles, cycle?]) rfl grows below
      (fun _ => id)
  | ignored stage zero =>
    rw [List.append_nil]
    exact ⟨before.increasing, fun cycle member => ⟨(before.answered cycle member).1, by simp⟩,
      by simp⟩
  | took stage asked =>
    have unseen := (grounded.notified stage).ne
    have same : cycles (trace ++ [.inl (.inr (.took s.world.requests.value))]) = cycles trace := by
      rw [cycles_append]
      exact List.append_nil _
    refine ⟨by rw [same]; exact before.increasing, ?_, ?_⟩
    · rw [same]
      exact fun cycle member => ⟨(before.answered cycle member).1, by simp⟩
    · intro requestId working
      obtain rfl : s.world.requests.value = requestId := by simpa using working
      rw [same]
      exact ⟨Nat.le_refl _, by simp, fun cycle member => (before.answered cycle member).2 unseen⟩
  | engage requestId stage =>
    refine numbered_grows trace _ s _ before rfl rfl grows below ?_
    intro id working
    obtain rfl : requestId = id := by simpa using working
    exact .inl stage
  | collected requestId met payload stage made =>
    exact numbered_cycle trace _ s _ requestId met before stage rfl rfl rfl (by simp)
  | failed requestId met e stage refused =>
    exact numbered_cycle trace _ s _ requestId met before stage rfl rfl rfl (by simp)
  | skipped => exact numbered_grows trace _ s _ before rfl rfl grows below (fun _ => id)
  | _ =>
    refine numbered_grows trace _ s _ before rfl rfl grows below ?_
    first | exact fun _ => id | simp

theorem numbered_start (settings : MqttSettings) (discoveryPayload : String) :
    Numbered ([] : List (Served X)) (service rules collects collector settings discoveryPayload).initial :=
  ⟨List.Pairwise.nil, by simp [cycles], by simp [service]⟩

variable (settings : MqttSettings) (discoveryPayload : String)

theorem service_delivering (inputs : List (ServiceInput X)) (trace : List (Served X))
    (s : Service C)
    (ran : (service rules collects collector settings discoveryPayload).run inputs =
      some (trace, s)) :
    Grounded s ∧ Delivering collects collector trace s ∧
      (s.world.requests.value < U64_MAX → Numbered trace s) := by
  refine (service rules collects collector settings discoveryPayload).invariant
    (fun trace s => Grounded s ∧ Delivering collects collector trace s ∧
      (s.world.requests.value < U64_MAX → Numbered trace s))
    ⟨grounded_start rules collects settings discoveryPayload collector,
      delivering_start rules collects collector settings discoveryPayload,
      fun _ => numbered_start rules collects collector settings discoveryPayload⟩
    ?_ inputs trace s ran
  rintro trace s i emitted t ⟨grounded, delivering, numbered⟩ taken
  have serves := serve_serves rules collects s emitted t i taken
  exact ⟨serves_grounded rules collects s t i emitted grounded serves,
    serves_delivering rules collects collector trace emitted s t i grounded delivering serves,
    serves_numbered rules collects trace emitted s t i grounded numbered serves⟩

/-- What was collected on the connection is in the trace. -/
theorem collected_replaced (m : StateMessage) (trace : List Joint)
    (collected : Collected m (onConnection trace)) : .inl (.replaced m) ∈ trace := by
  obtain ⟨before, after, same, -⟩ := collected
  have member : .inl (.replaced m) ∈ onConnection trace := by simp [same]
  exact (List.rtakeWhile_suffix _ trace).subset member

theorem mem_shown (trace : List (Served X)) (o : Joint) :
    o ∈ trace.filterMap Served.shown ↔ .inl o ∈ trace := by
  rw [List.mem_filterMap]
  constructor
  · rintro ⟨served, member, same⟩
    cases served with
    | inl p =>
      obtain rfl : p = o := by simpa [Served.shown] using same
      exact member
    | inr p => simp [Served.shown] at same
  · exact fun member => ⟨.inl o, member, rfl⟩

/-- Until the counter saturates, every state that the service asks to publish is the
collector's own answer to the request whose number it carries, byte for byte, from a
cycle that began on this connection; and no two cycles answer the same request. -/
theorem published_payloads_collected (inputs : List (ServiceInput X)) (trace : List (Served X))
    (s : Service C)
    (ran : (service rules collects collector settings discoveryPayload).run inputs =
      some (trace, s))
    (unsaturated : (allocated (own (trace.filterMap Served.shown))).length < U64_MAX) :
    (∀ before r after, trace.filterMap Served.shown = before ++ .inl (.requested r) :: after →
      r.action = .publishState → ∃ m, r.message = some m ∧ Collected m (onConnection before) ∧
        (m.requestId, .ok m.payload) ∈ answers collects collector (cycles trace)) ∧
      ((cycles trace).map Prod.fst).Pairwise (· < ·) := by
  obtain ⟨-, delivering, numbered⟩ :=
    service_delivering rules collects collector settings discoveryPayload inputs trace s ran
  obtain ⟨daemonInputs, ranDaemon⟩ :=
    (service_refines rules collects settings discoveryPayload collector).run inputs trace s ran
  obtain ⟨counted, coherent⟩ := daemon_coherent rules settings discoveryPayload daemonInputs
    (trace.filterMap Served.shown) s.world s.worker ranDaemon unsaturated
  constructor
  · intro before r after split state
    obtain ⟨m, carried, -, collected⟩ :=
      coherent.sourced.guarded before (.inl (.requested r)) after split r (.inl rfl) state
    refine ⟨m, carried, collected, delivering.replaced m ((mem_shown trace _).mp ?_)⟩
    rw [split]
    exact List.mem_append_left _ (collected_replaced m before collected)
  · have count := counted.count
    exact (numbered (by omega)).increasing

end Delivering

/-- A connection is bootstrapped while the first collection runs, and the second one
is published. -/
def deliveringInputs : List (ServiceInput Unit) :=
  [.schedule, .wake, .take, .engage, .mqtt (.connAck .success), .mqtt .connect,
    .mqtt (.transmit 0 1), .mqtt .poll, .mqtt (.receive 1), .mqtt .poll, .mqtt (.transmit 0 2),
    .mqtt .poll, .mqtt (.receive 2), .mqtt .poll, .collect (), .release, .mqtt .state, .wake,
    .take, .engage, .collect (), .mqtt .state, .release]

theorem published_payloads_collected_sample : ∃ trace s,
    (service (.documented fun _ => false) sampleSnapshots () sampleSettings "{}").run
      deliveringInputs = some (trace, s) ∧
    published (own (trace.filterMap Served.shown)) = [2] ∧
    (cycles trace).map Prod.fst = [1, 2] ∧ ((cycles trace).map Prod.fst).Pairwise (· < ·) :=
  ⟨_, _, rfl, rfl, rfl, (published_payloads_collected (.documented fun _ => false)
    sampleSnapshots () sampleSettings "{}" deliveringInputs _ _ rfl (by decide)).2⟩

end RpiHealth
