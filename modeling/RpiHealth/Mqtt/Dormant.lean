import RpiHealth.Mqtt.Attribution

/-! What holds under any client rules: without a connection in use the machine is
disconnected and nothing is queued, and between the turns of the loop the machine
has reported that it became online. -/
namespace RpiHealth
open Machines

/-- No connection is being used: there is none, or its ConnAck is being handled. -/
def Idle (w : World) : Prop :=
  w.control = .connAcked ∨ w.control = .retrying ∨ w.control = .select ∧ w.client.up = false

structure Dormant (w : World) : Prop where
  idle : Idle w → w.client.unreported = [] ∧ w.protocol.phase = .disconnected
  settled : w.control = .select ∨ w.control = .connAcked ∨ w.control = .retrying →
    w.protocol.becameOnline = false
  connecting : w.control = .connAcked → w.client.up = true

theorem dormant_returned (w : World) (error : Option MqttError)
    (control : w.control = .returned error) : Dormant w := by
  constructor <;> simp [Idle, control]

/-- A handler that runs while the event loop is connected. -/
theorem dormant_conclude (w : World) (out : Outcome) (frame : Frame w out.world)
    (control : w.control = .select ∧ w.client.up = true ∨ w.control = .draining)
    (settled : out.error = none → w.control = .select →
      out.world.protocol.becameOnline = false) : Dormant (World.conclude out).2 := by
  unfold World.conclude
  split
  · rename_i fine
    have here := frame.control
    have there := frame.up
    rcases control with ⟨control, up⟩ | control
    · exact ⟨by simp [Idle, here, control, there, up], fun _ => settled fine control,
        by simp [here, control]⟩
    · exact ⟨by simp [Idle, here, control], by simp [here, control], by simp [here, control]⟩
  · exact dormant_returned _ _ rfl

theorem finishTurn_settled (first : Outcome) (fine : (first.andThen World.finishTurn).error = none) :
    (first.andThen World.finishTurn).world.protocol.becameOnline = false := by
  cases error : first.error with
  | none =>
    rw [andThen_world _ _ error]
    exact World.finishTurn_becameOnline _
  | some e => simp [Outcome.andThen, error] at fine

/-- A machine that listens to states belongs to a connection in use. -/
theorem dormant_listening (w : World) (dormant : Dormant w) (control : w.control = .select)
    (accepts : w.protocol.acceptsState = true) : w.client.up = true := by
  by_contra down
  have phase := (dormant.idle (.inr (.inr ⟨control, by simpa using down⟩))).2
  simp [BootstrapMachine.acceptsState, phase] at accepts

theorem buffer_unreported (w : World) (b : Buffered) (silent : b.request? = none) :
    (w.buffer b).client.unreported = w.client.unreported := by
  simp [World.buffer, Client.unreported, silent]

theorem idle_queue (w : World) (dormant : Dormant w) (idle : Idle w) : w.client.queue = [] :=
  (List.append_eq_nil_iff.mp (dormant.idle idle).1).2

theorem step_dormant (rules : ClientRules) (w : World) (i : Input) (result : List Obs × World)
    (dormant : Dormant w) (taken : step rules w i = some result) : Dormant result.2 := by
  obtain ⟨emitted, v⟩ := result
  cases step_taken rules w i emitted v taken with
  | replaceState message | request | signal => exact { dormant with }
  | transmit position id r found may =>
    refine ⟨fun idle => ?_, dormant.settled, dormant.connecting⟩
    simp [idle_queue w dormant idle] at found
  | receive id up =>
    refine ⟨?_, dormant.settled, dormant.connecting⟩
    rw [buffer_unreported w (.ack id) rfl]
    exact dormant.idle
  | ping up =>
    refine ⟨?_, dormant.settled, dormant.connecting⟩
    rw [buffer_unreported w .quiet rfl]
    exact dormant.idle
  | accepted control down =>
    have idle := dormant.idle (.inr (.inr ⟨control, down⟩))
    have settled := dormant.settled (.inl control)
    exact ⟨fun _ => idle, fun _ => settled, fun _ => rfl⟩
  | refused code refuses control down =>
    have idle := dormant.idle (.inr (.inr ⟨control, down⟩))
    rw [turn_idle w code idle.2 (dormant.settled (.inl control))]
    exact dormant
  | connect control =>
    have up := dormant.connecting control
    rw [connect_eq w (idle_queue w dormant (.inl control))]
    exact ⟨by simp [Idle, up], fun _ => rfl, by simp⟩
  | polled b rest up events control =>
    have frame := World.handleEvent_frame (w.pop rest) b.event
    exact dormant_conclude (w.pop rest) _ (World.andThen_frame _ _ _ frame World.finishTurn_frame)
      (.inl ⟨control, up⟩) (fun fine _ => finishTurn_settled _ fine)
  | drained b rest up events control =>
    have frame := World.handleEvent_frame (w.pop rest) b.event
    simp only [World.drain]
    split
    · exact dormant_returned _ none rfl
    · apply dormant_conclude (w.pop rest) _ frame (.inr control)
      intro _ select
      simp [World.pop, control] at select
  | failed kept among keeps control =>
    refine ⟨fun _ => ⟨?_, rfl⟩, fun _ => rfl, by simp [World.connectionFailed]⟩
    simp [World.connectionFailed, Client.unreported, List.filterMap_eq_nil_iff, Buffered.request?]
  | abandoned kept control => exact dormant_returned _ none rfl
  | state control accepts changed =>
    have up := dormant_listening w dormant control accepts
    exact dormant_conclude w _ (World.andThen_frame _ _ _ (World.publishCurrentState_frame w)
      World.finishTurn_frame) (.inl ⟨control, up⟩) (fun fine _ => finishTurn_settled _ fine)
  | shutdown control =>
    simp only [World.gracefulShutdown]
    cases asked : w.protocol.shutdown.2 with
    | none => exact dormant_returned _ none rfl
    | some action =>
      exact dormant_conclude { w with
          protocol := w.protocol.shutdown.1
          status := .shuttingDown
          control := .draining } _ (World.performAny_frame _ (some action) none) (.inr rfl)
        (by simp)
  | dismissed control => exact dormant_returned _ none rfl
  | retry control =>
    have idle := dormant.idle (.inr (.inl control))
    have settled := dormant.settled (.inr (.inr control))
    rw [retry_idle w idle.2 settled]
    exact ⟨fun _ => idle, fun _ => settled, by simp⟩
  | timeout control => exact dormant_returned _ none rfl

theorem dormant_start (rules : ClientRules) (settings : MqttSettings) (discoveryPayload : String) :
    Dormant (supervisor rules settings discoveryPayload).initial :=
  ⟨fun _ => ⟨rfl, rfl⟩, fun _ => rfl, by simp [supervisor]⟩

end RpiHealth
