import RpiHealth.Daemon.Replay

/-! Coalescing loses no update and leaves nobody waiting: once the worker rests and
the supervisor has seen the slot, the newest request is published or answered by a
state that the machine listens to. -/
namespace RpiHealth
open Machines Watch

/-- The supervisor has looked at the newest state. -/
def World.CaughtUp (w : World) : Prop := w.states.hasChanged w.seen = false

/-- The slot holds the answer to the newest request. -/
theorem rests_newest (p : Core) (k : Worker) (paced : Paced p k) (rests : k.Rests p.requests)
    (asked : 0 < p.requests.value) :
    ∃ m, p.states.value = some m ∧ m.requestId = p.requests.value := by
  rcases paced.waiting rests with zero | newest
  · omega
  · exact newest

/-- A connection that waits for a state has a state or a collection to wait for. -/
theorem awaits_something (p : Core) (k : Worker) (paced : Paced p k)
    (rests : k.Rests p.requests) (phase : p.protocol.phase = .awaitFreshState) :
    p.seen ≠ p.states.version := by
  intro caughtUp
  obtain ⟨started, upTo⟩ := paced.awaits.bootstrapping (by simp [phase, Phase.isBootstrapping])
  have required := paced.required
  obtain ⟨m, holds, newest⟩ := rests_newest p k paced rests (by omega)
  have old := upTo caughtUp m holds
  omega

/-- An online connection that has seen the slot took the newest state. -/
theorem online_newest (p : Core) (k : Worker) (paced : Paced p k) (rests : k.Rests p.requests)
    (phase : p.protocol.phase = .online) (caughtUp : p.seen = p.states.version) :
    0 < p.requests.value ∧ p.protocol.lastStateRequest = p.requests.value := by
  obtain ⟨positive, late, upTo⟩ := paced.awaits.publishing (by simp [phase, Phase.isPublishing])
  have required := paced.required
  have last := paced.last
  obtain ⟨m, holds, newest⟩ := rests_newest p k paced rests (by omega)
  have seen := upTo caughtUp m holds
  omega

theorem getLast?_of_getLastD (ids : List Nat) (newest : Nat) (positive : 0 < newest)
    (last : ids.getLastD 0 = newest) : ids.getLast? = some newest := by
  cases ids with
  | nil => simp at last; omega
  | cons id rest => simpa [List.getLast?_eq_getLast_of_ne_nil] using last

/-- Until the counter saturates: (a) an online supervisor that has seen the slot,
beside a worker with nothing left to take, has asked to publish the newest request's
state last; (b) with a resting worker nobody waits for a fresh state in vain. -/
theorem no_update_lost (rules : ClientRules) (settings : MqttSettings)
    (discoveryPayload : String) (inputs : List (Input ⊕ WorkerInput)) (trace : List Joint)
    (w : World) (k : Worker)
    (ran : (daemon rules settings discoveryPayload).run inputs = some (trace, (w, k)))
    (unsaturated : (allocated (own trace)).length < U64_MAX) :
    (k.Rests w.requests → w.protocol.phase = .online → w.CaughtUp →
        ∃ newest, (allocated (own trace)).getLast? = some newest ∧
          (published (own trace)).getLast? = some newest) ∧
      ¬ (k.Rests w.requests ∧ w.protocol.phase = .awaitFreshState ∧ w.CaughtUp) := by
  obtain ⟨counted, coherent⟩ :=
    daemon_coherent rules settings discoveryPayload inputs trace w k ran unsaturated
  constructor
  · intro rests phase caughtUp
    obtain ⟨asked, last⟩ := online_newest w.core k coherent.paced rests phase
      ((Slot.hasChanged_eq_false _ _).mp caughtUp)
    have published := coherent.growing.newest.resolve_right (by simp [World.core, phase])
    exact ⟨w.requests.value, getLast?_of_getLastD _ _ asked counted.newest,
      getLast?_of_getLastD _ _ asked (published.trans last)⟩
  · rintro ⟨rests, phase, caughtUp⟩
    exact awaits_something w.core k coherent.paced rests phase
      ((Slot.hasChanged_eq_false _ _).mp caughtUp)

theorem no_update_lost_straddling : ∃ trace w k,
    (daemon (.documented fun _ => false) sampleSettings "{}").run straddlingInputs =
      some (trace, (w, k)) ∧
    w.protocol.phase = .online ∧
    ∃ newest, (allocated (own trace)).getLast? = some newest ∧
      (published (own trace)).getLast? = some newest :=
  ⟨_, _, _, rfl, rfl,
    (no_update_lost (.documented fun _ => false) sampleSettings "{}" straddlingInputs
      _ _ _ rfl (by decide)).1 ⟨rfl, rfl⟩ rfl rfl⟩

end RpiHealth
