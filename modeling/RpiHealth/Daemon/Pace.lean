import RpiHealth.Daemon.Worker

/-! How the request numbers in the two slots, in the worker's hands and in the
machine stand to each other, as long as the counter has not saturated. -/
namespace RpiHealth
open Machines Watch

def Phase.isBootstrapping : Phase → Bool
  | .discoveryQueued | .discoveryAwaitAck _ | .onlineQueued | .onlineAwaitAck _
  | .awaitFreshState => true
  | _ => false

def Phase.isPublishing : Phase → Bool
  | .stateQueued | .online => true
  | _ => false

/-- The state that the supervisor has seen in the slot is at most this new. -/
def Core.SeenUpTo (p : Core) (bound : Nat) : Prop :=
  p.seen = p.states.version → ∀ m, p.states.value = some m → m.requestId ≤ bound

/-- The machine's numbers against the slot's. -/
structure Awaits (p : Core) : Prop where
  bootstrapping : p.protocol.phase.isBootstrapping = true →
    p.protocol.lastStateRequest < p.protocol.requiredRequest ∧
      p.SeenUpTo (p.protocol.requiredRequest - 1)
  publishing : p.protocol.phase.isPublishing = true →
    0 < p.protocol.requiredRequest ∧
      p.protocol.requiredRequest ≤ p.protocol.lastStateRequest ∧
      p.SeenUpTo p.protocol.lastStateRequest

structure Paced (p : Core) (k : Worker) : Prop where
  taken : k.seen ≤ p.requests.version
  read : p.seen ≤ p.states.version
  required : p.protocol.requiredRequest ≤ p.requests.value
  last : p.protocol.lastStateRequest ≤ p.requests.value
  slot : ∀ m, p.states.value = some m → m.requestId ≤ p.requests.value
  /-- The worker works on the newest request unless a newer one is unseen. -/
  collecting : ∀ id, k.work = .collecting id → 0 < id ∧ id ≤ p.requests.value ∧
    (k.seen = p.requests.version → id = p.requests.value)
  /-- A worker that has seen every request has answered the newest. -/
  waiting : k.Rests p.requests →
    p.requests.value = 0 ∨ ∃ m, p.states.value = some m ∧ m.requestId = p.requests.value
  awaits : Awaits p

theorem awaits_idle (p : Core) (bootstrapping : p.protocol.phase.isBootstrapping = false)
    (publishing : p.protocol.phase.isPublishing = false) : Awaits p := by
  constructor <;> simp [bootstrapping, publishing]

/-- The machine moved on without leaving its group of phases for another. -/
structure Follows (m n : BootstrapMachine) : Prop where
  required : n.requiredRequest = m.requiredRequest
  last : n.lastStateRequest = m.lastStateRequest
  bootstrapping : n.phase.isBootstrapping = true → m.phase.isBootstrapping = true
  publishing : n.phase.isPublishing = true → m.phase.isPublishing = true

theorem follows_reaction (m : BootstrapMachine) (event : Event) :
    Follows m (m.reaction event).1 := by
  cases event with
  | outgoing packet =>
    cases packet with
    | publish id =>
      obtain ⟨-, ⟨phase, -, taken⟩ | ⟨phase, -, taken⟩ | ⟨phase, -, taken⟩ | ⟨phase, taken⟩ |
        ⟨phase, -, taken⟩ | taken⟩ := m.outgoingPublish_cases id <;>
        constructor <;>
        simp [BootstrapMachine.reaction, Phase.isBootstrapping, Phase.isPublishing, *]
    | disconnect | other =>
      constructor <;> simp [BootstrapMachine.reaction, BootstrapMachine.disconnected,
        Phase.isBootstrapping, Phase.isPublishing]
  | incoming packet =>
    cases packet with
    | pubAck id =>
      obtain ⟨phase, taken⟩ | ⟨phase, taken⟩ | ⟨phase, taken⟩ | taken :=
        m.publishAcknowledged_cases id <;>
        constructor <;>
        simp [BootstrapMachine.reaction, Phase.isBootstrapping, Phase.isPublishing, *]
    | connAck | other => constructor <;> simp [BootstrapMachine.reaction]

theorem follows_shutdown (m : BootstrapMachine) : Follows m m.shutdown.1 := by
  unfold BootstrapMachine.shutdown
  split <;> constructor <;> simp [Phase.isBootstrapping, Phase.isPublishing, *]

theorem awaits_follows (p : Core) (m : BootstrapMachine) (awaits : Awaits p)
    (follows : Follows p.protocol m) : Awaits { p with protocol := m } where
  bootstrapping phase := by
    have kept := awaits.bootstrapping (follows.bootstrapping phase)
    simpa only [follows.required, follows.last, Core.SeenUpTo] using kept
  publishing phase := by
    have kept := awaits.publishing (follows.publishing phase)
    simpa only [follows.required, follows.last, Core.SeenUpTo] using kept

theorem paced_follows (p : Core) (k : Worker) (m : BootstrapMachine) (paced : Paced p k)
    (follows : Follows p.protocol m) : Paced { p with protocol := m } k where
  taken := paced.taken
  read := paced.read
  required := follows.required ▸ paced.required
  last := follows.last ▸ paced.last
  slot := paced.slot
  collecting := paced.collecting
  waiting := paced.waiting
  awaits := awaits_follows p m paced.awaits follows

/-- A state that the machine takes answers this connection's request and is newer
than the last one. -/
theorem wanted_newer (p : Core) (awaits : Awaits p) (requestId : Nat)
    (wanted : (p.protocol.stateAvailable requestId).2 = some .publishState) :
    0 < p.protocol.requiredRequest ∧ p.protocol.requiredRequest ≤ requestId ∧
      p.protocol.lastStateRequest < requestId ∧
      (p.protocol.stateAvailable requestId).1 = { p.protocol with
        bootstrapStateQueued := decide (p.protocol.phase = .awaitFreshState)
        lastStateRequest := requestId
        becameOnline := false
        phase := .stateQueued } := by
  rcases p.protocol.stateAvailable_cases requestId with ⟨listens, offered⟩ | ⟨_, _, rejected⟩
  · rw [offered]
    rcases listens with ⟨phase, late⟩ | ⟨phase, newer⟩
    · have := (awaits.bootstrapping (by simp [phase, Phase.isBootstrapping])).1
      exact ⟨by omega, late, by omega, rfl⟩
    · have := awaits.publishing (by simp [phase, Phase.isPublishing])
      exact ⟨this.1, by omega, newer, rfl⟩
  · simp [rejected] at wanted

/-- The machine took the state that the slot holds. -/
theorem paced_offer (p : Core) (k : Worker) (m : StateMessage) (paced : Paced p k)
    (current : p.states.value = some m)
    (wanted : (p.protocol.stateAvailable m.requestId).2 = some .publishState) :
    Paced (p.offer m.requestId) k := by
  obtain ⟨positive, late, -, offered⟩ := wanted_newer p paced.awaits m.requestId wanted
  unfold Core.offer
  rw [offered]
  exact {
    taken := paced.taken
    read := le_refl _
    required := paced.required
    last := paced.slot m current
    slot := paced.slot
    collecting := paced.collecting
    waiting := paced.waiting
    awaits := by
      refine ⟨by simp [Phase.isBootstrapping], fun _ => ⟨positive, late, ?_⟩⟩
      intro _ n holds
      simp only [current, Option.some.injEq] at holds
      rw [holds] }

/-- The machine listened and did not want the state that the slot holds. -/
theorem awaits_ignore (p : Core) (awaits : Awaits p)
    (listens : p.protocol.acceptsState = true)
    (unwanted : ∀ m, p.states.value = some m →
      p.protocol.stateAvailable m.requestId = (p.protocol, none)) :
    Awaits { p with seen := p.states.version } := by
  have old : ∀ m, p.states.value = some m →
      (p.protocol.phase = .awaitFreshState → m.requestId < p.protocol.requiredRequest) ∧
        (p.protocol.phase = .online → m.requestId ≤ p.protocol.lastStateRequest) := by
    intro m holds
    rcases p.protocol.stateAvailable_cases m.requestId with ⟨_, offered⟩ | ⟨fresh, newer, _⟩
    · simp [unwanted m holds] at offered
    · exact ⟨fresh, newer⟩
  simp only [BootstrapMachine.acceptsState, Bool.or_eq_true, decide_eq_true_eq] at listens
  rcases listens with phase | phase
  · refine ⟨fun group => ⟨(awaits.bootstrapping group).1, fun _ m holds => ?_⟩,
      by simp [phase, Phase.isPublishing]⟩
    exact Nat.le_sub_one_of_lt ((old m holds).1 phase)
  · refine ⟨by simp [phase, Phase.isBootstrapping], fun group => ?_⟩
    obtain ⟨positive, ordered, _⟩ := awaits.publishing group
    exact ⟨positive, ordered, fun _ m holds => (old m holds).2 phase⟩

/-- A request was allocated, and nothing else moved. -/
theorem paced_allocate (p : Core) (k : Worker) (paced : Paced p k)
    (below : (requestCollection p.requests).1.value < U64_MAX) :
    Paced { p with requests := (requestCollection p.requests).1 } k := by
  have next : (requestCollection p.requests).1.value = p.requests.value + 1 := by
    simp only [requestCollection, Slot.sendModify_value] at below ⊢
    omega
  have version : (requestCollection p.requests).1.version = p.requests.version + 1 := rfl
  have unseen := paced.taken
  exact {
    taken := by simp only [version]; omega
    read := paced.read
    required := by simp only [next]; exact Nat.le_succ_of_le paced.required
    last := by simp only [next]; exact Nat.le_succ_of_le paced.last
    slot := by
      intro m holds
      simp only [next]
      exact Nat.le_succ_of_le (paced.slot m holds)
    collecting := by
      intro id work
      obtain ⟨positive, bound, _⟩ := paced.collecting id work
      simp only [next, version]
      exact ⟨positive, Nat.le_succ_of_le bound, by omega⟩
    waiting := by
      intro rests
      have seen := (Slot.hasChanged_eq_false _ _).mp rests.2
      simp only [version] at seen
      omega
    awaits := ⟨paced.awaits.bootstrapping, paced.awaits.publishing⟩ }

theorem paced_begin (p : Core) (k : Worker) (paced : Paced p k)
    (below : (requestCollection p.requests).1.value < U64_MAX) : Paced p.begin k := by
  have allocated := paced_allocate p k paced below
  have next : (requestCollection p.requests).2 = p.requests.value + 1 := by
    simp only [requestCollection, Slot.sendModify_value] at below ⊢
    omega
  exact {
    taken := allocated.taken
    read := allocated.read
    required := le_refl _
    last := allocated.last
    slot := allocated.slot
    collecting := allocated.collecting
    waiting := allocated.waiting
    awaits := by
      refine ⟨fun _ => ?_, by simp [Core.begin, BootstrapMachine.connected, Phase.isPublishing]⟩
      simp only [Core.begin, BootstrapMachine.connected, next]
      exact ⟨Nat.lt_succ_of_le paced.last, fun _ m holds => paced.slot m holds⟩ }

theorem move_paced (rules : ClientRules) (p q : Core) (k : Worker) (emitted : List Obs)
    (paced : Paced p k) (moved : Move rules p emitted q) (below : q.requests.value < U64_MAX) :
    Paced q k := by
  cases moved with
  | note => exact paced
  | allocate => exact paced_allocate p k paced below
  | look phase =>
    exact { paced with
      read := le_refl _
      awaits := awaits_idle _ (by simp [phase, Phase.isBootstrapping])
        (by simp [phase, Phase.isPublishing]) }
  | begin => exact paced_begin p k paced below
  | react live event => exact paced_follows p k _ paced (follows_reaction p.protocol event)
  | settle => exact paced_follows p k _ paced ⟨rfl, rfl, id, id⟩
  | close => exact paced_follows p k _ paced (follows_shutdown p.protocol)
  | lose =>
    have follows : Follows p.protocol p.protocol.connectionLost := by
      constructor <;>
        simp [BootstrapMachine.connectionLost, Phase.isBootstrapping, Phase.isPublishing]
    have lost := paced_follows p k _ paced follows
    exact { lost with awaits := { lost.awaits with } }
  | ask | send | finish => exact { paced with awaits := { paced.awaits with } }
  | ignore listens unwanted =>
    exact { paced with
      read := le_refl _
      awaits := awaits_ignore p paced.awaits listens unwanted }
  | publish _ m current wanted =>
    have offered := paced_offer p k m paced current wanted
    exact { offered with awaits := { offered.awaits with } }
  | refuse _ m current wanted =>
    have offered := paced_offer p k m paced current wanted
    exact { offered with awaits := { offered.awaits with } }

/-- The worker's state arrives in the slot. -/
theorem paced_replaced (p : Core) (k : Worker) (m : StateMessage) (paced : Paced p k)
    (work : k.work = .collecting m.requestId) :
    Paced { p with states := p.states.sendReplace (some m) } { k with work := .waiting } where
  taken := paced.taken
  read := Nat.le_succ_of_le paced.read
  required := paced.required
  last := paced.last
  slot n holds := by
    obtain rfl := Option.some.inj holds
    exact (paced.collecting _ work).2.1
  collecting id working := by simp at working
  waiting rests :=
    .inr ⟨m, rfl, (paced.collecting _ work).2.2 ((Slot.hasChanged_eq_false _ _).mp rests.2)⟩
  awaits := by
    have unseen : ∀ bound,
        Core.SeenUpTo { p with states := p.states.sendReplace (some m) } bound := by
      intro bound same
      have read := paced.read
      simp only [Slot.sendReplace_version] at same
      omega
    exact ⟨fun phase => ⟨(paced.awaits.bootstrapping phase).1, unseen _⟩, fun phase =>
      ⟨(paced.awaits.publishing phase).1, (paced.awaits.publishing phase).2.1, unseen _⟩⟩

theorem paced_act (w : World) (k k' : Worker) (i : WorkerInput) (emitted : List WorkerObs)
    (paced : Paced w.core k) (taken : Worker.act w k i = some (emitted, k')) :
    Paced w.core k' := by
  rcases act_cases w k k' i emitted taken with
    ⟨waiting, zero, -, rfl⟩ | ⟨-, positive, -, rfl⟩ | ⟨-, rfl⟩
  · exact { paced with
      taken := le_refl _
      collecting := by simp [waiting]
      waiting := fun _ => .inl zero }
  · exact { paced with
      taken := le_refl _
      collecting := by
        intro id work
        obtain rfl := Work.collecting.inj work
        exact ⟨Nat.pos_of_ne_zero positive, le_refl _, fun _ => rfl⟩
      waiting := by simp [Worker.Rests] }
  · exact { paced with
      collecting := by simp
      waiting := by simp [Worker.Rests] }

theorem paced_start (rules : ClientRules) (settings : MqttSettings) (discoveryPayload : String) :
    Paced (supervisor rules settings discoveryPayload).initial.core {} where
  taken := le_refl _
  read := le_refl _
  required := le_refl _
  last := le_refl _
  slot := by simp [supervisor, World.core]
  collecting := by simp
  waiting _ := .inl rfl
  awaits := awaits_idle _ rfl rfl

end RpiHealth
