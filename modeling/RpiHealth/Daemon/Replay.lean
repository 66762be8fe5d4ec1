import RpiHealth.Daemon.Numbers

/-! The joint invariant of supervisor, worker and slots over a whole run, and what
it says about the published states. -/
namespace RpiHealth
open Machines Watch

structure Coherent (rules : ClientRules) (trace : List Joint) (p : Core) (k : Worker) : Prop where
  paced : Paced p k
  sourced : Sourced trace p k
  growing : Growing rules (own trace) p

/-- The request slot holds the number of the newest request. -/
structure Counted (trace : List Obs) (slot : Slot Nat) : Prop where
  count : slot.value = min (allocated trace).length U64_MAX
  newest : (allocated trace).getLastD 0 = slot.value

theorem counted_same (trace emitted : List Obs) (slot : Slot Nat) (counted : Counted trace slot)
    (silent : allocated emitted = []) : Counted (trace ++ emitted) slot := by
  have same : allocated (trace ++ emitted) = allocated trace := by
    simp only [allocated, List.filterMap_append] at silent ⊢
    rw [silent, List.append_nil]
  exact ⟨same ▸ counted.count, same ▸ counted.newest⟩

theorem counted_allocate (trace emitted : List Obs) (slot : Slot Nat)
    (counted : Counted trace slot)
    (allocates : allocated emitted = [(requestCollection slot).2]) :
    Counted (trace ++ emitted) (requestCollection slot).1 := by
  have grown : allocated (trace ++ emitted) =
      allocated trace ++ [(requestCollection slot).2] := by
    simp only [allocated, List.filterMap_append] at allocates ⊢
    rw [allocates]
  have count := counted.count
  constructor
  · rw [grown, List.length_append, List.length_singleton]
    simp only [requestCollection, Slot.sendModify_value]
    omega
  · rw [grown]
    simp [requestCollection]

theorem move_counted (rules : ClientRules) (trace : List Obs) (p q : Core) (emitted : List Obs)
    (counted : Counted trace p.requests) (moved : Move rules p emitted q) :
    Counted (trace ++ emitted) q.requests := by
  cases moved with
  | note o passes =>
    refine counted_same trace [o] _ counted ?_
    cases o <;> simp_all [Obs.isNote, allocated, allocation?]
  | allocate | begin => exact counted_allocate trace _ _ counted rfl
  | look | react | settle | close | lose | ask | send | finish | ignore | publish | refuse =>
    exact counted_same trace _ _ counted rfl

theorem move_coherent (rules : ClientRules) (trace : List Joint) (p q : Core) (k : Worker)
    (emitted : List Obs)
    (coherent : p.requests.value < U64_MAX → Coherent rules trace p k)
    (moved : Move rules p emitted q) (below : q.requests.value < U64_MAX) :
    Coherent rules (trace ++ emitted.map .inl) q k := by
  have before : p.requests.value < U64_MAX := by
    have := move_requests rules p q emitted moved
    omega
  obtain ⟨paced, sourced, growing⟩ := coherent before
  refine ⟨move_paced rules p q k emitted paced moved below,
    move_sourced rules trace p q k emitted paced sourced moved below, ?_⟩
  rw [own_append, own_inl]
  exact move_growing rules (own trace) p q k emitted paced growing moved

theorem moves_coherent (rules : ClientRules) (trace : List Joint) (p q : Core) (k : Worker)
    (emitted : List Obs)
    (coherent : p.requests.value < U64_MAX → Coherent rules trace p k)
    (moved : Moves (Move rules) p emitted q) (below : q.requests.value < U64_MAX) :
    Coherent rules (trace ++ emitted.map .inl) q k := by
  have kept := moved.keep
    (fun since r => r.requests.value < U64_MAX → Coherent rules (trace ++ since.map .inl) r k) ?_
    [] (by simpa using coherent)
  · simpa using kept below
  · intro since r further s inv move under
    rw [List.map_append, ← List.append_assoc]
    exact move_coherent rules _ r s k further inv move under

theorem coherent_replaced (rules : ClientRules) (trace : List Joint) (p : Core) (k : Worker)
    (m : StateMessage) (coherent : Coherent rules trace p k)
    (work : k.work = .collecting m.requestId) :
    Coherent rules (trace ++ [.inl (.replaced m)])
      { p with states := p.states.sendReplace (some m) } { k with work := .waiting } where
  paced := paced_replaced p k m coherent.paced work
  sourced := sourced_replaced trace p k m coherent.sourced work
  growing := by
    have silent := growing_silent rules (own trace) [.replaced m] p
      { p with states := p.states.sendReplace (some m) } coherent.growing rfl rfl
      (fun ended => ⟨ended, rfl⟩) (fun _ => List.Sublist.refl _)
    simpa [own] using silent

theorem coherent_act (rules : ClientRules) (trace : List Joint) (w : World) (k k' : Worker)
    (i : WorkerInput) (emitted : List WorkerObs) (coherent : Coherent rules trace w.core k)
    (taken : Worker.act w k i = some (emitted, k')) :
    Coherent rules (trace ++ emitted.map .inr) w.core k' where
  paced := paced_act w k k' i emitted coherent.paced taken
  sourced := sourced_act trace w k k' i emitted coherent.sourced taken
  growing := by
    rw [own_append, own_inr, List.append_nil]
    exact coherent.growing

theorem coherent_start (rules : ClientRules) (settings : MqttSettings)
    (discoveryPayload : String) :
    Coherent rules [] (supervisor rules settings discoveryPayload).initial.core {} where
  paced := paced_start rules settings discoveryPayload
  sourced := by
    refine ⟨fun positive => absurd positive (Nat.lt_irrefl 0), by simp, ?_, ?_, guarded_nil _⟩ <;>
      simp [supervisor, World.core]
  growing := by
    refine ⟨List.Pairwise.nil, ?_, .inl rfl, fun _ => List.Sublist.slnil⟩
    simp [published]

/-- Every run of supervisor and worker is coherent until the counter saturates. -/
theorem daemon_coherent (rules : ClientRules) (settings : MqttSettings)
    (discoveryPayload : String) (inputs : List (Input ⊕ WorkerInput)) (trace : List Joint)
    (w : World) (k : Worker)
    (ran : (daemon rules settings discoveryPayload).run inputs = some (trace, (w, k)))
    (unsaturated : (allocated (own trace)).length < U64_MAX) :
    Counted (own trace) w.requests ∧ Coherent rules trace w.core k := by
  have joint := beside_invariant (supervisor rules settings discoveryPayload) collectionWorker
    (fun trace w => Dormant w ∧ Counted trace w.requests)
    (fun trace w k => w.requests.value < U64_MAX → Coherent rules trace w.core k)
    ⟨dormant_start rules settings discoveryPayload, ⟨rfl, rfl⟩⟩
    (fun _ => coherent_start rules settings discoveryPayload)
    ?keeps ?moves ?acts inputs trace w k ran
  case keeps =>
    rintro trace w i emitted v ⟨dormant, counted⟩ taken
    refine ⟨step_dormant rules w i (emitted, v) dormant taken, ?_⟩
    by_cases replaces : ∃ m, i = .replaceState m
    · obtain ⟨m, rfl⟩ := replaces
      obtain ⟨rfl, rfl⟩ := Prod.mk.inj (Option.some.inj taken)
      exact counted_same trace _ _ counted rfl
    · exact (step_moves w i emitted v dormant (fun m same => replaces ⟨m, same⟩) taken).keep
        (fun trace p => Counted trace p.requests)
        (fun trace p further q inv => move_counted rules trace p q further inv) trace counted
  case moves =>
    rintro trace w k i emitted v k' ⟨dormant, _⟩ tie taken heard below
    by_cases replaces : ∃ m, i = .replaceState m
    · obtain ⟨m, rfl⟩ := replaces
      obtain ⟨rfl, rfl⟩ := Prod.mk.inj (Option.some.inj taken)
      obtain ⟨work, rfl⟩ := hearAll_replaced k k' m heard
      exact coherent_replaced rules trace w.core k m (tie below) work
    · have moved := step_moves w i emitted v dormant (fun m same => replaces ⟨m, same⟩) taken
      obtain rfl := hearAll_silent k k' emitted
        (moved.silent _ (fun p emitted q => move_keeps_states rules p q emitted)) heard
      exact moves_coherent rules trace w.core v.core k' emitted tie moved below
  case acts =>
    intro trace w k i emitted k' _ tie taken below
    exact coherent_act rules trace w k k' i emitted (tie below) taken
  obtain ⟨⟨_, counted⟩, coherent⟩ := joint
  have count := counted.count
  exact ⟨counted, coherent (by omega)⟩

/-- Until the counter saturates, every state that is published on a connection was
collected after the connection's ConnAck was processed, and the numbers of the
published states only grow, over all connections. -/
theorem published_states_fresh (rules : ClientRules) (settings : MqttSettings)
    (discoveryPayload : String) (inputs : List (Input ⊕ WorkerInput)) (trace : List Joint)
    (w : World) (k : Worker)
    (ran : (daemon rules settings discoveryPayload).run inputs = some (trace, (w, k)))
    (unsaturated : (allocated (own trace)).length < U64_MAX) :
    Guarded FreshWhenPublished trace ∧ (published (own trace)).Pairwise (· < ·) ∧
      (rules.fifo = true → (sentStates (own trace)).Pairwise (· < ·)) := by
  obtain ⟨_, coherent⟩ :=
    daemon_coherent rules settings discoveryPayload inputs trace w k ran unsaturated
  have increasing := coherent.growing.increasing
  refine ⟨coherent.sourced.guarded, increasing, fun fifo => ?_⟩
  have sent := (List.sublist_append_left _ _).trans (coherent.growing.inOrder fifo)
  exact List.Pairwise.sublist sent increasing

/-- A collection straddles the ConnAck; the connection waits for the next one. -/
def straddlingInputs : List (Input ⊕ WorkerInput) :=
  [.inl .request, .inr .take, .inl (.connAck .success), .inl .connect, .inl (.transmit 0 1),
    .inl .poll, .inl (.receive 1), .inl .poll, .inl (.transmit 0 2), .inl .poll,
    .inl (.receive 2), .inl .poll, .inl (.replaceState ⟨1, "{}"⟩), .inl .state, .inr .take,
    .inl (.replaceState ⟨2, "{}"⟩), .inl .state, .inl (.transmit 0 0), .inl .poll]

theorem published_states_fresh_straddling : ∃ trace w k,
    (daemon (.documented fun _ => false) sampleSettings "{}").run straddlingInputs =
      some (trace, (w, k)) ∧
    published (own trace) = [2] ∧ sentStates (own trace) = [2] ∧
    Guarded FreshWhenPublished trace :=
  ⟨_, _, _, rfl, rfl, rfl,
    (published_states_fresh (.documented fun _ => false) sampleSettings "{}" straddlingInputs
      _ _ _ rfl (by decide)).1⟩

end RpiHealth
