import RpiHealth.Mqtt.WireOrder

/-! Packet attribution when buffered events outlive their connection. The
machine matches Outgoing events by phase alone, so a leftover one can be taken
for this connection's own. -/
namespace RpiHealth
open Machines

/-- The stored identifier is the one assigned to the publish that is awaited on
this connection, and its acknowledgement moves the machine on. -/
def Attributed (c : List Obs) (m : BootstrapMachine) : Prop :=
  match m.phase with
  | .discoveryAwaitAck id =>
    assigned .publishDiscovery c = [id] ∧
      m.publishAcknowledged id = ({ m with phase := .onlineQueued }, some .publishOnline)
  | .onlineAwaitAck id =>
    assigned .publishOnline c = [id] ∧
      m.publishAcknowledged id = ({ m with phase := .awaitFreshState }, none)
  | .shutdownAwaitOfflineAck id =>
    assigned .publishOffline c = [id] ∧
      m.publishAcknowledged id = ({ m with phase := .disconnectQueued }, some .disconnect)
  | _ => True

theorem attributed_of_agrees (c : List Obs) (client : Client) (m : BootstrapMachine)
    (tracked : Tracked c client)
    (agrees : PhaseAgrees c (client.unreported.map (·.action)) m.phase) : Attributed c m := by
  unfold Attributed
  split
  · rename_i id phase
    rw [phase] at agrees
    obtain ⟨-, all, r, sent, made⟩ := agrees
    refine ⟨assigned_eq _ c client.queue r id tracked.fifo (by simp [all]) sent made, ?_⟩
    simp [BootstrapMachine.publishAcknowledged, phase]
  · rename_i id phase
    rw [phase] at agrees
    obtain ⟨-, all, -, r, sent, made⟩ := agrees
    refine ⟨assigned_eq _ c client.queue r id tracked.fifo ?_ sent made, ?_⟩
    · simp [all, bootstrapSequence]
    · simp [BootstrapMachine.publishAcknowledged, phase]
  · rename_i id phase
    rw [phase] at agrees
    obtain ⟨-, ⟨-, earlier, -, ordered, all⟩, r, sent, made⟩ := agrees
    have none := not_mem_of_bootstrapOrder earlier .publishOffline ordered (.inl rfl)
    refine ⟨assigned_eq _ c client.queue r id tracked.fifo ?_ sent made, ?_⟩
    · simp [all, List.count_eq_zero_of_not_mem none]
    · simp [BootstrapMachine.publishAcknowledged, phase]
  · exact True.intro

variable (settings : MqttSettings) (discoveryPayload : String)

/-- While the loop runs, and no leftover event is returned where the phase takes
it for its own, every stored identifier belongs to this connection. -/
theorem attribution_survives (inputs : List Input) (trace : List Obs) (w : World)
    (benign : (supervisor (.documented fun _ => true) settings discoveryPayload).Along
      (fun w i => unmistaken w i = true)
      (supervisor (.documented fun _ => true) settings discoveryPayload).initial inputs)
    (ran : (supervisor (.documented fun _ => true) settings discoveryPayload).run inputs =
      some (trace, w)) (running : ∀ error, w.control ≠ .returned error) :
    Attributed (connection trace) w.protocol := by
  have ordered : Ordered (.documented fun _ => true) trace w :=
    Machine.invariant_along _ _ (Ordered _) (ordered_start _ settings discoveryPayload)
      (fun before s i emitted t ordered allowed taken =>
        step_ordered _ rfl rfl before s i emitted t ordered (.inr allowed) taken)
      inputs trace w benign ran
  cases ordered.place with
  | live _ _ tracked agrees => exact attributed_of_agrees _ w.client w.protocol tracked agrees
  | draining _ _ tracked agrees => exact attributed_of_agrees _ w.client w.protocol tracked agrees
  | idle _ _ _ phase => simp [Attributed, phase]
  | ended error control => exact absurd control (running error)

/-- A PubAck is left over, and the next connection's bootstrap goes on. -/
def leftoverPubAck : List Input :=
  [.connAck .success, .connect, .transmit 0 7, .poll, .receive 7, .fail [.incoming (.pubAck 7)],
    .retry, .connAck .success, .connect, .transmit 0 8, .poll, .poll]

theorem attribution_survives_pubAck : ∃ trace w,
    (supervisor (.documented fun _ => true) sampleSettings "{}").run leftoverPubAck =
      some (trace, w) ∧
    w.protocol.phase = .discoveryAwaitAck 8 ∧ Attributed (connection trace) w.protocol :=
  ⟨_, _, rfl, rfl, attribution_survives sampleSettings "{}" leftoverPubAck _ _ (by decide) rfl
    (by intro error; exact Control.noConfusion)⟩

/-- The write of Discovery fails after its event was buffered. -/
def leftoverOutgoing : List Input :=
  [.connAck .success, .connect, .transmit 0 7, .fail [.outgoing (.publish 7)], .retry,
    .connAck .success, .connect, .transmit 0 8, .poll, .poll, .receive 8, .poll]

/-- The connection now waits for identifier 7, which was never sent on it. -/
theorem leftover_outgoing_misattributed :
    ¬ ∀ (inputs : List Input) (trace : List Obs) (w : World),
      (supervisor (.documented fun _ => true) sampleSettings "{}").run inputs = some (trace, w) →
        (∀ error, w.control ≠ .returned error) → Attributed (connection trace) w.protocol := by
  intro always
  have stored := always leftoverOutgoing _ _ rfl (by intro error; exact Control.noConfusion)
  have wrong : assigned .publishDiscovery _ = [7] := stored.1
  exact absurd wrong (by decide)

end RpiHealth
