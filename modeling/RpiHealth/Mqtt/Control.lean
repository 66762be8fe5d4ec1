import RpiHealth.Mqtt.Dormant

/-! Where a step leaves the supervisor's loop, under any client rules: the edges of
its control graph, and that the flag is raised by nobody but its owner. -/
namespace RpiHealth
open Machines

inductive Shift (w : World) (i : Input) (emitted : List Obs) (v : World) : Prop where
  | stays (same : v.control = w.control)
  | accepts (was : w.control = .select) (input : i = .connAck .success)
      (goes : v.control = .connAcked)
  | starts (was : w.control = .connAcked) (input : i = .connect) (goes : v.control = .select)
  | loses (was : w.control = .select) (input : ∃ kept, i = .fail kept)
      (goes : v.control = .retrying)
  | retries (was : w.control = .retrying) (input : i = .retry) (goes : v.control = .select)
  | drains (was : w.control = .select) (input : i = .shutdown) (goes : v.control = .draining)
  /-- The loop is left after shutdown. -/
  | ends (was : w.control = .draining ∨
        (w.control = .select ∨ w.control = .retrying) ∧ i = .shutdown)
      (goes : v.control = .returned none) (said : .returned none ∈ emitted)
  | fails (e : MqttError) (runs : ∀ error, w.control ≠ .returned error)
      (goes : v.control = .returned (some e)) (said : .returned (some e) ∈ emitted)

/-- A handler goes through, or its error leaves the loop. -/
theorem conclude_control (out : Outcome) :
    (World.conclude out).2.control = out.world.control ∨
      ∃ e, (World.conclude out).2.control = .returned (some e) ∧
        .returned (some e) ∈ (World.conclude out).1 := by
  unfold World.conclude
  split
  · exact .inl rfl
  · rename_i e _
    exact .inr ⟨e, rfl, by simp⟩

theorem shift_conclude (w u : World) (i : Input) (marks : List Obs) (out : Outcome)
    (frame : Frame u out.world) (here : u.control = w.control)
    (runs : ∀ error, w.control ≠ .returned error) :
    Shift w i (marks ++ (World.conclude out).1) (World.conclude out).2 := by
  rcases conclude_control out with same | ⟨e, goes, said⟩
  · exact .stays (same.trans (frame.control.trans here))
  · exact .fails e runs goes (List.mem_append_right _ said)

theorem shift_stop (w u : World) (i : Input) (marks : List Obs)
    (was : w.control = .draining ∨ (w.control = .select ∨ w.control = .retrying) ∧ i = .shutdown) :
    Shift w i (marks ++ u.stop.1) u.stop.2 :=
  .ends was rfl (by simp [World.stop])

theorem shift_drain (w : World) (i : Input) (b : Buffered) (rest : List Buffered)
    (control : w.control = .draining) :
    Shift w i (.polled b :: ((w.pop rest).drain b.event).1) ((w.pop rest).drain b.event).2 := by
  simp only [World.drain]
  split
  · have ended := shift_stop w ((w.pop rest).handleEvent b.event).world i
      (.polled b :: ((w.pop rest).handleEvent b.event).emitted) (.inl control)
    simpa using ended
  · exact shift_conclude w (w.pop rest) i [.polled b] _ (World.handleEvent_frame _ _) rfl
      (by simp [control])

theorem shift_shutdown (w : World) (control : w.control = .select) :
    Shift w .shutdown w.gracefulShutdown.1 w.gracefulShutdown.2 := by
  simp only [World.gracefulShutdown]
  cases asked : w.protocol.shutdown.2 with
  | none => exact shift_stop w _ _ [_, _] (.inr ⟨.inl control, rfl⟩)
  | some action =>
    let v : World := { w with
      protocol := w.protocol.shutdown.1, status := .shuttingDown, control := .draining }
    rcases conclude_control (v.perform action none) with same | ⟨e, goes, said⟩
    · exact .drains control rfl
        (same.trans (World.performAny_frame v (some action) none).control)
    · exact .fails e (by simp [control]) goes (by simp [v, said])

theorem step_shift (rules : ClientRules) (w v : World) (i : Input) (emitted : List Obs)
    (dormant : Dormant w) (taken : step rules w i = some (emitted, v)) : Shift w i emitted v := by
  cases step_taken rules w i emitted v taken with
  | replaceState | request | signal | transmit | receive | ping => exact .stays rfl
  | accepted control => exact .accepts control rfl rfl
  | refused code refuses control down =>
    have idle := dormant.idle (.inr (.inr ⟨control, down⟩))
    rw [turn_idle w code idle.2 (dormant.settled (.inl control))]
    exact .stays rfl
  | connect control =>
    rw [connect_eq w (idle_queue w dormant (.inl control))]
    exact .starts control rfl rfl
  | polled b rest up events control =>
    have frame := World.handleEvent_frame (w.pop rest) b.event
    exact shift_conclude w (w.pop rest) _ [.polled b] _
      (World.andThen_frame _ _ _ frame World.finishTurn_frame) rfl (by simp [control])
  | drained b rest up events control => exact shift_drain w _ b rest control
  | failed kept among keeps control => exact .loses control ⟨kept, rfl⟩ rfl
  | abandoned kept control => exact shift_stop w w _ [.lost] (.inl control)
  | state control accepts changed =>
    exact shift_conclude w w _ [] _ (World.andThen_frame _ _ _ (World.publishCurrentState_frame w)
      World.finishTurn_frame) rfl (by simp [control])
  | shutdown control => exact shift_shutdown w control
  | dismissed control => exact shift_stop w w _ [_] (.inr ⟨.inr control, rfl⟩)
  | retry control =>
    have idle := dormant.idle (.inr (.inl control))
    rw [retry_idle w idle.2 (dormant.settled (.inr (.inr control)))]
    exact .retries control rfl rfl
  | timeout control => exact shift_stop w w _ [] (.inl control)

/-- A noticed shutdown is not put off. -/
theorem step_shutdown_leaves (rules : ClientRules) (w v : World) (emitted : List Obs)
    (taken : step rules w .shutdown = some (emitted, v)) :
    (w.control = .select ∨ w.control = .retrying) ∧
      (v.control = .draining ∨ ∃ error, v.control = .returned error) := by
  cases step_taken rules w .shutdown emitted v taken with
  | shutdown control =>
    refine ⟨.inl control, ?_⟩
    simp only [World.gracefulShutdown]
    cases asked : w.protocol.shutdown.2 with
    | none => exact .inr ⟨none, rfl⟩
    | some action =>
      rcases conclude_control (World.perform { w with
          protocol := w.protocol.shutdown.1
          status := .shuttingDown
          control := .draining } action none) with same | ⟨e, goes, -⟩
      · exact .inl (same.trans (World.performAny_frame _ (some action) none).control)
      · exact .inr ⟨some e, goes⟩
  | dismissed control => exact ⟨.inr control, .inr ⟨none, rfl⟩⟩

theorem step_timeout_leaves (rules : ClientRules) (w v : World) (emitted : List Obs)
    (taken : step rules w .timeout = some (emitted, v)) :
    w.control = .draining ∧ v.control = .returned none := by
  cases step_taken rules w .timeout emitted v taken with
  | timeout control => exact ⟨control, rfl⟩

theorem step_shutdown_raised (rules : ClientRules) (w : World) (result : List Obs × World)
    (taken : step rules w .shutdown = some result) : w.shutdown = true :=
  (Option.ite_none_right_eq_some.mp taken).1

@[simp] theorem stop_shutdown (w : World) : w.stop.2.shutdown = w.shutdown := rfl

theorem conclude_shutdown (out : Outcome) :
    (World.conclude out).2.shutdown = out.world.shutdown := by
  unfold World.conclude
  split <;> rfl

/-- The flag belongs to the service. -/
theorem step_shutdown_kept (rules : ClientRules) (w v : World) (i : Input) (emitted : List Obs)
    (other : i ≠ .signal) (taken : step rules w i = some (emitted, v)) :
    v.shutdown = w.shutdown := by
  cases step_taken rules w i emitted v taken with
  | signal => exact absurd rfl other
  | replaceState | request | transmit | receive | ping | accepted | failed | abandoned | dismissed
  | timeout => rfl
  | refused code =>
    exact (conclude_shutdown _).trans (World.andThen_frame _ _ _ (World.handleEvent_frame w _)
      World.finishTurn_frame).shutdown
  | connect =>
    refine (conclude_shutdown _).trans ?_
    exact (World.performAny_frame _ (some _) none).shutdown
  | polled b rest =>
    exact (conclude_shutdown _).trans (World.andThen_frame _ _ _
      (World.handleEvent_frame (w.pop rest) _) World.finishTurn_frame).shutdown
  | drained b rest =>
    have kept := (World.handleEvent_frame (w.pop rest) b.event).shutdown
    simp only [World.drain]
    split
    · exact kept
    · exact (conclude_shutdown _).trans kept
  | state =>
    exact (conclude_shutdown _).trans (World.andThen_frame _ _ _
      (World.publishCurrentState_frame w) World.finishTurn_frame).shutdown
  | shutdown =>
    simp only [World.gracefulShutdown]
    split
    · rfl
    · exact (conclude_shutdown _).trans (World.performAny_frame _ (some _) none).shutdown
  | retry => exact (conclude_shutdown _).trans (World.finishTurn_frame _).shutdown

end RpiHealth
