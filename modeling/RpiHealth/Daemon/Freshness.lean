import RpiHealth.Daemon.Pace

/-! Freshness and no replay: what is published on a connection was collected
after its ConnAck was processed, and never twice. -/
namespace RpiHealth
open Machines Watch

abbrev Joint := Obs ⊕ WorkerObs

def startsConnection : Joint → Bool
  | .inl o => isConnected o
  | .inr _ => false

/-- What happened since the last ConnAck was processed. -/
def onConnection (trace : List Joint) : List Joint := since startsConnection trace

/-- The worker's last collection is for this request. -/
def Underway (requestId : Nat) (c : List Joint) : Prop :=
  ∃ before after, c = before ++ .inr (.took requestId) :: after ∧
    ∀ n, .inr (.took n) ∉ after

/-- The state is what a collection gave that began in this part of the run. -/
def Collected (m : StateMessage) (c : List Joint) : Prop :=
  ∃ before after, c = before ++ .inl (.replaced m) :: after ∧ Underway m.requestId before

/-- The request carries a state that was collected on the current connection. -/
def CarriesFresh (trace : List Joint) (r : Submission) : Prop :=
  ∃ m, r.message = some m ∧ (∃ required, .inl (.connected required) ∈ trace) ∧
    Collected m (onConnection trace)

def FreshWhenPublished (before : List Joint) (o : Joint) : Prop :=
  ∀ r, (o = .inl (.requested r) ∨ ∃ id, o = .inl (.transmitted r id)) →
    r.action = .publishState → CarriesFresh before r

theorem underway_took (requestId : Nat) (c : List Joint) :
    Underway requestId (c ++ [.inr (.took requestId)]) :=
  ⟨c, [], by simp, by simp⟩

theorem underway_append (requestId : Nat) (c d : List Joint) (underway : Underway requestId c)
    (none : ∀ n, .inr (.took n) ∉ d) : Underway requestId (c ++ d) := by
  obtain ⟨before, after, rfl, alone⟩ := underway
  refine ⟨before, after ++ d, by simp, fun n member => ?_⟩
  rcases List.mem_append.mp member with early | late
  · exact alone n early
  · exact none n late

theorem collected_append (m : StateMessage) (c d : List Joint) (collected : Collected m c) :
    Collected m (c ++ d) := by
  obtain ⟨before, after, rfl, underway⟩ := collected
  exact ⟨before, after ++ d, by simp, underway⟩

theorem carriesFresh_append (trace emitted : List Joint) (r : Submission)
    (unmarked : ∀ o ∈ emitted, startsConnection o = false) (carries : CarriesFresh trace r) :
    CarriesFresh (trace ++ emitted) r := by
  obtain ⟨m, carried, ⟨required, met⟩, collected⟩ := carries
  refine ⟨m, carried, ⟨required, by simp [met]⟩, ?_⟩
  unfold onConnection
  rw [since_append _ _ _ unmarked]
  exact collected_append m _ _ collected

structure Sourced (trace : List Joint) (p : Core) (k : Worker) : Prop where
  met : 0 < p.protocol.requiredRequest → ∃ required, .inl (.connected required) ∈ trace
  underway : ∀ id, k.work = .collecting id → p.protocol.requiredRequest ≤ id →
    Underway id (onConnection trace)
  slot : ∀ m, p.states.value = some m → p.protocol.requiredRequest ≤ m.requestId →
    Collected m (onConnection trace)
  queued : ∀ r ∈ p.queue, r.action = .publishState → CarriesFresh trace r
  guarded : Guarded FreshWhenPublished trace

/-- A move of the supervisor that stays on the connection and in the slot. -/
theorem sourced_emit (trace : List Joint) (emitted : List Obs) (p q : Core) (k : Worker)
    (sourced : Sourced trace p k) (unmarked : ∀ o ∈ emitted, isConnected o = false)
    (states : q.states = p.states)
    (required : q.protocol.requiredRequest = p.protocol.requiredRequest)
    (queue : ∀ r ∈ q.queue, r.action = .publishState → r ∈ p.queue ∨ CarriesFresh trace r)
    (meets : Meets FreshWhenPublished trace (emitted.map .inl)) :
    Sourced (trace ++ emitted.map .inl) q k := by
  have outside : ∀ o ∈ (emitted.map Sum.inl : List Joint), startsConnection o = false := by
    simpa [startsConnection] using unmarked
  have grown : onConnection (trace ++ emitted.map .inl) =
      onConnection trace ++ emitted.map .inl := since_append _ _ _ outside
  constructor
  · intro positive
    obtain ⟨r, met⟩ := sourced.met (required ▸ positive)
    exact ⟨r, by simp [met]⟩
  · intro id work newer
    rw [grown]
    exact underway_append id _ _ (sourced.underway id work (required ▸ newer)) (by simp)
  · intro m holds newer
    rw [grown]
    exact collected_append m _ _ (sourced.slot m (states ▸ holds) (required ▸ newer))
  · intro r member state
    refine carriesFresh_append _ _ r outside ?_
    rcases queue r member state with old | carries
    · exact sourced.queued r old state
    · exact carries
  · exact (guarded_append _ _ _).mpr ⟨sourced.guarded, meets⟩

theorem sourced_silent (trace : List Joint) (p q : Core) (k : Worker) (sourced : Sourced trace p k)
    (states : q.states = p.states)
    (required : q.protocol.requiredRequest = p.protocol.requiredRequest)
    (queue : ∀ r ∈ q.queue, r ∈ p.queue) : Sourced (trace ++ ([] : List Obs).map .inl) q k :=
  sourced_emit trace [] p q k sourced (by simp) states required
    (fun r member _ => .inl (queue r member)) True.intro

/-- What is asked for on a new connection is collected on it: everything older
carries a smaller number. -/
theorem sourced_begin (trace : List Joint) (p : Core) (k : Worker) (paced : Paced p k)
    (sourced : Sourced trace p k) (below : (requestCollection p.requests).1.value < U64_MAX) :
    Sourced (trace ++ ([.allocated (requestCollection p.requests).2, .reported .bootstrapping,
      .connected (requestCollection p.requests).2,
      .requested ⟨.publishDiscovery, none⟩] : List Obs).map .inl) p.begin k := by
  have next : p.begin.protocol.requiredRequest = p.requests.value + 1 := by
    simp only [requestCollection, Slot.sendModify_value, Core.begin, BootstrapMachine.connected]
      at below ⊢
    omega
  constructor
  · exact fun _ => ⟨(requestCollection p.requests).2, by simp⟩
  · intro id work late
    have := (paced.collecting id work).2.1
    omega
  · intro m holds late
    have := paced.slot m holds
    omega
  · intro r member state
    simp only [Core.begin, List.mem_singleton] at member
    simp [member] at state
  · refine (guarded_append _ _ _).mpr ⟨sourced.guarded, ?_⟩
    simp [Meets, FreshWhenPublished]

/-- The machine takes a state that was collected on this connection. -/
theorem sourced_publish (trace : List Joint) (p : Core) (k : Worker) (m : StateMessage)
    (paced : Paced p k) (sourced : Sourced trace p k) (current : p.states.value = some m)
    (wanted : (p.protocol.stateAvailable m.requestId).2 = some .publishState) :
    CarriesFresh trace ⟨.publishState, some m⟩ := by
  obtain ⟨positive, late, -⟩ := wanted_newer p paced.awaits m.requestId wanted
  exact ⟨m, rfl, sourced.met positive, sourced.slot m current late⟩

theorem move_sourced (rules : ClientRules) (trace : List Joint) (p q : Core) (k : Worker)
    (emitted : List Obs) (paced : Paced p k) (sourced : Sourced trace p k)
    (moved : Move rules p emitted q) (below : q.requests.value < U64_MAX) :
    Sourced (trace ++ emitted.map .inl) q k := by
  cases moved with
  | note o passes =>
    refine sourced_emit trace [o] p p k sourced ?_ rfl rfl (fun r member _ => .inl member) ?_
    · cases o <;> simp_all [Obs.isNote, isConnected]
    · cases o <;> simp_all [Obs.isNote, Meets, FreshWhenPublished]
  | allocate =>
    exact sourced_emit trace _ p _ k sourced (by simp [isConnected]) rfl rfl
      (fun r member _ => .inl member) (by simp [Meets, FreshWhenPublished])
  | look | settle | ignore => exact sourced_silent trace p _ k sourced rfl rfl (fun _ => id)
  | lose | finish => exact sourced_silent trace p _ k sourced rfl rfl (by simp [Core.finish])
  | react live event =>
    exact sourced_silent trace p _ k sourced rfl (follows_reaction p.protocol event).required
      (fun _ => id)
  | close =>
    exact sourced_silent trace p _ k sourced rfl (follows_shutdown p.protocol).required
      (fun _ => id)
  | begin => exact sourced_begin trace p k paced sourced below
  | ask action other =>
    refine sourced_emit trace _ p _ k sourced (by simp [isConnected]) rfl rfl ?_ ?_
    · intro r member state
      simp only [Core.ask, List.mem_append, List.mem_singleton] at member
      rcases member with old | rfl
      · exact .inl old
      · exact absurd state other
    · simp [Meets, FreshWhenPublished, other]
  | send position r id found first =>
    refine sourced_emit trace _ p _ k sourced (by simp [isConnected]) rfl rfl
      (fun r member _ => .inl (List.mem_of_mem_eraseIdx member)) ?_
    have queued := sourced.queued r (List.mem_of_getElem? found)
    simpa [Meets, FreshWhenPublished] using queued
  | publish _ m current wanted =>
    have carries := sourced_publish trace p k m paced sourced current wanted
    obtain ⟨-, -, -, offered⟩ := wanted_newer p paced.awaits m.requestId wanted
    refine sourced_emit trace _ p _ k sourced (by simp [isConnected]) rfl
      (by simp [Core.ask, Core.offer, offered]) ?_ ?_
    · intro r member _
      simp only [Core.ask, Core.offer, List.mem_append, List.mem_singleton] at member
      rcases member with old | rfl
      · exact .inl old
      · exact .inr carries
    · simpa [Meets, FreshWhenPublished] using carries
  | refuse _ m current wanted =>
    obtain ⟨-, -, -, offered⟩ := wanted_newer p paced.awaits m.requestId wanted
    exact sourced_silent trace p _ k sourced rfl
      (by simp [Core.finish, Core.offer, offered]) (by simp [Core.finish])

/-- A state arrives: it is what the collection under way gave. -/
theorem sourced_replaced (trace : List Joint) (p : Core) (k : Worker) (m : StateMessage)
    (sourced : Sourced trace p k) (work : k.work = .collecting m.requestId) :
    Sourced (trace ++ [.inl (.replaced m)])
      { p with states := p.states.sendReplace (some m) } { k with work := .waiting } := by
  have outside : ∀ o ∈ ([.inl (.replaced m)] : List Joint), startsConnection o = false := by
    simp [startsConnection, isConnected]
  constructor
  · intro positive
    obtain ⟨r, met⟩ := sourced.met positive
    exact ⟨r, by simp [met]⟩
  · simp
  · intro n holds late
    obtain rfl := Option.some.inj holds
    unfold onConnection
    rw [since_append _ _ _ outside]
    exact ⟨onConnection trace, [], rfl, sourced.underway _ work late⟩
  · exact fun r member state => carriesFresh_append _ _ r outside (sourced.queued r member state)
  · refine (guarded_append _ _ _).mpr ⟨sourced.guarded, ?_⟩
    simp [Meets, FreshWhenPublished]

theorem sourced_act (trace : List Joint) (w : World) (k k' : Worker) (i : WorkerInput)
    (emitted : List WorkerObs) (sourced : Sourced trace w.core k)
    (taken : Worker.act w k i = some (emitted, k')) :
    Sourced (trace ++ emitted.map .inr) w.core k' := by
  have outside : ∀ o ∈ (emitted.map Sum.inr : List Joint), startsConnection o = false := by
    simp [startsConnection]
  have grown : onConnection (trace ++ emitted.map .inr) =
      onConnection trace ++ emitted.map .inr := since_append _ _ _ outside
  constructor
  · intro positive
    obtain ⟨r, met⟩ := sourced.met positive
    exact ⟨r, by simp [met]⟩
  · intro id work late
    rw [grown]
    rcases act_cases w k k' i emitted taken with
      ⟨waiting, _, -, rfl⟩ | ⟨-, -, rfl, rfl⟩ | ⟨-, rfl⟩
    · simp [waiting] at work
    · obtain rfl := Work.collecting.inj work
      exact underway_took _ _
    · simp at work
  · intro m holds late
    rw [grown]
    exact collected_append m _ _ (sourced.slot m holds late)
  · exact fun r member state => carriesFresh_append _ _ r outside (sourced.queued r member state)
  · refine (guarded_append _ _ _).mpr ⟨sourced.guarded, ?_⟩
    rcases act_cases w k k' i emitted taken with ⟨-, -, rfl, -⟩ | ⟨-, -, rfl, -⟩ | ⟨ends, -⟩
    · exact True.intro
    · simp [Meets, FreshWhenPublished]
    · simp only [List.mem_cons, List.not_mem_nil, or_false] at ends
      rcases ends with rfl | rfl <;> simp [Meets, FreshWhenPublished]

end RpiHealth
