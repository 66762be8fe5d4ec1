import RpiHealth.Diagnostics.Probe
import RpiHealth.Diagnostics.Verdict
import RpiHealth.Library.Machine
import RpiHealth.Mqtt.Supervisor

/-! The conversation of a connection check with the broker. It connects once, asks for
nothing but to be disconnected again, and what it reports is read off the last thing that
happened. -/
namespace RpiHealth
open Machines

def MQTT_REQUEST_CAPACITY : Nat := 4
def MQTT_MAX_PACKET_BYTES : Nat := 64 * 1024

/-- The options of a check's client. -/
structure ProbeOptions where
  clientId : String
  host : String
  port : UInt16
  cleanSession : Bool
  keepAlive : Nat
  credentials : String × String
  lastWill : Option LastWill
  maxPacketSize : Nat × Nat
  requestChannelCapacity : Nat
  inflight : Nat
  deriving DecidableEq, Repr

def probeOptions (config : MqttConfig) (credentials : MqttCredentials) (processId : UInt32)
    (sequence : UInt64) : Option ProbeOptions × UInt64 :=
  let unique := uniqueProbeClientId config.clientId processId sequence
  (unique.1.map (fun clientId => {
    clientId := clientId
    host := config.host
    port := config.port.1
    cleanSession := true
    keepAlive := min config.keepAlive 30
    credentials := (credentials.username, credentials.password)
    lastWill := none
    maxPacketSize := (MQTT_MAX_PACKET_BYTES, MQTT_MAX_PACKET_BYTES)
    requestChannelCapacity := MQTT_REQUEST_CAPACITY
    inflight := 1 }), unique.2)

/-- A check asks the broker that a daemon with these options will use, and as the same user. The
broker speaks for it to nobody, keeps nothing of it, and takes it for the daemon only where the
daemon's id leaves no room for another. -/
structure ProbeOptions.Beside (options : ProbeOptions) (daemon : MqttOptions) (processId : UInt32)
    (sequence : UInt64) : Prop where
  host : options.host = daemon.host
  port : options.port = daemon.port
  credentials : options.credentials = daemon.credentials
  lastWill : options.lastWill = none
  cleanSession : options.cleanSession = true
  keepAlive : 5 ≤ options.keepAlive ∧ options.keepAlive ≤ min daemon.keepAlive 30
  clientId : options.clientId = daemon.clientId ↔ daemon.clientId.toList.length = 128 ∧
    (probeSuffix processId sequence).toList <:+ daemon.clientId.toList

theorem probeOptions_beside (config : Config) (valid : config.Valid)
    (credentials : MqttCredentials) (processId : UInt32) (sequence : UInt64) :
    ∃ options, (probeOptions config.mqtt credentials processId sequence).1 = some options ∧
      options.Beside ((MqttSettings.new config.mqtt config.device.id).options credentials)
        processId sequence := by
  have cut := uniqueProbeClientId_eq config.mqtt.clientId processId sequence valid.clientId
  have sizes := probeSuffix_length processId sequence
  have slow := valid.keepAlive
  simp only [probeOptions, cut, Option.map_some, Option.some.injEq, exists_eq_left']
  refine ⟨rfl, rfl, rfl, rfl, rfl, ⟨Nat.le_min.mpr ⟨slow.1, by decide⟩, le_rfl⟩, ?_⟩
  rw [← String.toList_inj, String.toList_ofList]
  exact probe_own_id config.mqtt.clientId.toList _ (by omega) (by omega)

inductive ConnectionError where
  | connectionRefused (code : ConnectReturnCode)
  | networkTimeout | flushTimeout | io | mqttState | notConnAck | requestsDone
  deriving DecidableEq, Repr

def classifyConnectionError : ConnectionError → MqttProbeFailure
  | .connectionRefused _ => .rejected
  | .networkTimeout | .flushTimeout => .timedOut
  | .io => .unreachable
  | .mqttState | .notConnAck | .requestsDone => .protocol

/-- What happens to a check: a result of the client's poll, the client taking a request off
its channel, or the end of the time that the check has. -/
inductive ProbeInput where
  | polled (result : Except ConnectionError Event)
  | taken
  | deadline

/-- A check under way, or what it ended with. -/
structure Probe where
  connected : Bool := false
  /-- Requests that the client has yet to take. -/
  queued : Nat := 0
  ended : Option (Except MqttProbeFailure Unit) := none

namespace Probe

def tryDisconnect (p : Probe) : List Request × Probe :=
  if p.queued < MQTT_REQUEST_CAPACITY then ([.disconnect], { p with queued := p.queued + 1 })
  else ([], { p with ended := some (.error .controlQueue) })

def hear (p : Probe) : Except ConnectionError Event → List Request × Probe
  | .ok (.incoming (.connAck .success)) => { p with connected := true }.tryDisconnect
  | .ok (.outgoing .disconnect) =>
    ([], if p.connected then { p with ended := some (.ok ()) } else p)
  | .ok _ => ([], p)
  | .error error =>
    let outcome := if p.connected then .ok () else .error (classifyConnectionError error)
    ([], { p with ended := some outcome })

def step (p : Probe) (input : ProbeInput) : Option (List Request × Probe) :=
  if p.ended.isSome then none
  else match input with
    | .polled result => some (p.hear result)
    | .taken => if 0 < p.queued then some ([], { p with queued := p.queued - 1 }) else none
    | .deadline => some ([], { p with ended := some (.error .timedOut) })

end Probe

def probeMqtt : Machine Probe ProbeInput Request where
  initial := {}
  step := Probe.step

namespace ProbeInput

def accepts : ProbeInput → Bool
  | .polled (.ok (.incoming (.connAck .success))) => true
  | _ => false

def takes : ProbeInput → Bool
  | .taken => true
  | _ => false

end ProbeInput

def acceptances (inputs : List ProbeInput) : Nat := inputs.countP ProbeInput.accepts
def takings (inputs : List ProbeInput) : Nat := inputs.countP ProbeInput.takes

/-- What a check that met inputs and then a last one has to report. -/
inductive Concludes (met : List ProbeInput) : ProbeInput → Except MqttProbeFailure Unit → Prop
  | closed (accepted : 0 < acceptances met) :
    Concludes met (.polled (.ok (.outgoing .disconnect))) (.ok ())
  | lost (accepted : 0 < acceptances met) (error : ConnectionError) :
    Concludes met (.polled (.error error)) (.ok ())
  | failed (unaccepted : acceptances met = 0) (error : ConnectionError) :
    Concludes met (.polled (.error error)) (.error (classifyConnectionError error))
  | crowded (full : acceptances met = takings met + MQTT_REQUEST_CAPACITY) :
    Concludes met (.polled (.ok (.incoming (.connAck .success)))) (.error .controlQueue)
  | late : Concludes met .deadline (.error .timedOut)

/-- What a check that is still under way knows of what it met. -/
structure Probing (met : List ProbeInput) (p : Probe) : Prop where
  unended : p.ended = none
  connected : p.connected = decide (0 < acceptances met)
  queued : p.queued + takings met = acceptances met
  room : p.queued ≤ MQTT_REQUEST_CAPACITY

theorem acceptances_snoc (met : List ProbeInput) (i : ProbeInput) :
    acceptances (met ++ [i]) = acceptances met + if i.accepts then 1 else 0 := by
  simp [acceptances, List.countP_append, List.countP_singleton]

theorem takings_snoc (met : List ProbeInput) (i : ProbeInput) :
    takings (met ++ [i]) = takings met + if i.takes then 1 else 0 := by
  simp [takings, List.countP_append, List.countP_singleton]

section Conversation

variable {met : List ProbeInput} {p q : Probe} {emitted : List Request}

theorem Probing.unnoticed (under : Probing met p) (i : ProbeInput) (refusing : i.accepts = false)
    (leaving : i.takes = false) : Probing (met ++ [i]) p := by
  refine ⟨under.unended, ?_, ?_, under.room⟩
  · simpa [acceptances_snoc, refusing] using under.connected
  · simpa [acceptances_snoc, takings_snoc, refusing, leaving] using under.queued

/-- What a step leaves behind: the check goes on with what it then knows, or it has ended
with what there is to report. -/
structure Heard (met : List ProbeInput) (i : ProbeInput) (emitted : List Request)
    (q : Probe) : Prop where
  asks : ∀ request ∈ emitted, request = .disconnect
  probing : q.ended = none → Probing (met ++ [i]) q
  concludes : ∀ outcome, q.ended = some outcome ↔ Concludes met i outcome

theorem Heard.unnoticed (under : Probing met p) (i : ProbeInput) (refusing : i.accepts = false)
    (leaving : i.takes = false) (inconclusive : ∀ outcome, ¬ Concludes met i outcome) :
    Heard met i [] p :=
  ⟨fun _ member => absurd member List.not_mem_nil,
    fun _ => under.unnoticed i refusing leaving,
    fun outcome => by simp [under.unended, inconclusive outcome]⟩

theorem Heard.ended (i : ProbeInput) (reported : Except MqttProbeFailure Unit)
    (ended : q.ended = some reported)
    (concludes : ∀ outcome, Concludes met i outcome ↔ outcome = reported) : Heard met i [] q :=
  ⟨fun _ member => absurd member List.not_mem_nil, fun absent => by simp [ended] at absent,
    fun outcome => by simp [ended, concludes outcome, eq_comm]⟩

theorem accepted_heard (under : Probing met p) :
    Heard met (.polled (.ok (.incoming (.connAck .success))))
      ({ p with connected := true }.tryDisconnect).1
      ({ p with connected := true }.tryDisconnect).2 := by
  unfold Probe.tryDisconnect
  have counted := under.queued
  split
  · rename_i space
    refine ⟨fun request member => List.mem_singleton.mp member, fun _ => ⟨under.unended, ?_, ?_, ?_⟩,
      fun outcome => ⟨fun ended => ?_, fun concludes => ?_⟩⟩
    · simp [acceptances_snoc, ProbeInput.accepts]
    · simp only [acceptances_snoc, takings_snoc, ProbeInput.accepts, ProbeInput.takes]
      simp only [if_true, Bool.false_eq_true, if_false]
      omega
    · exact space
    · simp [under.unended] at ended
    · cases concludes with
      | crowded full =>
        change p.queued < MQTT_REQUEST_CAPACITY at space
        omega
  · rename_i full
    have room := under.room
    have crowd : acceptances met = takings met + MQTT_REQUEST_CAPACITY := by
      change ¬ p.queued < MQTT_REQUEST_CAPACITY at full
      omega
    refine ⟨fun _ member => absurd member List.not_mem_nil, fun absent => by contradiction,
      fun outcome => ⟨fun ended => ?_, fun concludes => ?_⟩⟩
    · cases Option.some.inj ended
      exact .crowded crowd
    · cases concludes
      rfl

theorem poll_heard (under : Probing met p) (result : Except ConnectionError Event) :
    Heard met (.polled result) (p.hear result).1 (p.hear result).2 := by
  have connected := under.connected
  cases result with
  | error error =>
    refine Heard.ended _ _ rfl (fun outcome => ⟨fun concludes => ?_, fun same => ?_⟩)
    · cases concludes with
      | lost accepted => simp [connected, accepted]
      | failed unaccepted => simp [connected, unaccepted]
    · subst same
      by_cases accepted : 0 < acceptances met
      · simpa [connected, accepted] using Concludes.lost accepted error
      · simpa [connected, accepted] using Concludes.failed (Nat.eq_zero_of_not_pos accepted) error
  | ok event =>
    cases event with
    | incoming packet =>
      cases packet with
      | connAck code =>
        cases code with
        | success => exact accepted_heard under
        | _ => exact Heard.unnoticed under _ rfl rfl (fun _ concludes => by cases concludes)
      | pubAck id => exact Heard.unnoticed under _ rfl rfl (fun _ concludes => by cases concludes)
      | other => exact Heard.unnoticed under _ rfl rfl (fun _ concludes => by cases concludes)
    | outgoing packet =>
      cases packet with
      | publish id => exact Heard.unnoticed under _ rfl rfl (fun _ concludes => by cases concludes)
      | other => exact Heard.unnoticed under _ rfl rfl (fun _ concludes => by cases concludes)
      | disconnect =>
        by_cases accepted : 0 < acceptances met
        · rw [decide_eq_true accepted] at connected
          simp only [Probe.hear, connected, if_true]
          refine Heard.ended _ _ rfl (fun outcome => ⟨fun concludes => ?_, fun same => ?_⟩)
          · cases concludes
            rfl
          · subst same
            exact .closed accepted
        · rw [decide_eq_false accepted] at connected
          simp only [Probe.hear, connected, Bool.false_eq_true, if_false]
          refine Heard.unnoticed under _ rfl rfl (fun _ concludes => ?_)
          cases concludes with
          | closed met => exact accepted met

theorem step_heard (under : Probing met p) (i : ProbeInput)
    (taken : p.step i = some (emitted, q)) : Heard met i emitted q := by
  simp only [Probe.step, under.unended, Option.isSome_none, Bool.false_eq_true, if_false] at taken
  cases i with
  | polled result =>
    obtain rfl := congrArg Prod.fst (Option.some.inj taken)
    obtain rfl := congrArg Prod.snd (Option.some.inj taken)
    exact poll_heard under result
  | deadline =>
    cases taken
    refine Heard.ended _ _ rfl (fun outcome => ⟨fun concludes => ?_, fun same => ?_⟩)
    · cases concludes
      rfl
    · subst same
      exact .late
  | taken =>
    simp only at taken
    split at taken
    · rename_i waiting
      cases taken
      have counted := under.queued
      have room := under.room
      refine ⟨fun _ member => absurd member List.not_mem_nil, fun _ => ⟨rfl, ?_, ?_, ?_⟩,
        fun outcome => ⟨fun ended => ?_, fun concludes => ?_⟩⟩
      · simpa [acceptances_snoc, ProbeInput.accepts] using under.connected
      · simp only [acceptances_snoc, takings_snoc, ProbeInput.accepts, ProbeInput.takes]
        simp only [if_true, Bool.false_eq_true, if_false]
        omega
      · exact Nat.le_trans (Nat.sub_le _ _) room
      · simp at ended
      · cases concludes
    · contradiction

theorem step_unended (i : ProbeInput) (taken : p.step i = some (emitted, q)) : p.ended = none := by
  unfold Probe.step at taken
  split at taken
  · contradiction
  · rename_i unended
    simpa using unended

end Conversation

/-- As long as a check has not ended, it has asked for nothing but to be disconnected and
knows what it met. -/
theorem probe_asks (inputs : List ProbeInput) (trace : List Request) (p : Probe)
    (ran : probeMqtt.run inputs = some (trace, p)) :
    (∀ request ∈ trace, request = .disconnect) ∧ (p.ended = none → Probing inputs p) := by
  induction inputs using List.reverseRecOn generalizing trace p with
  | nil =>
    cases ran
    exact ⟨fun _ member => absurd member List.not_mem_nil, fun _ => ⟨rfl, rfl, rfl, Nat.zero_le _⟩⟩
  | append_singleton before i ih =>
    obtain ⟨earlier, middle, emitted, first, taken, rfl⟩ :=
      (probeMqtt.runFrom_concat _ before i trace p).mp ran
    obtain ⟨asked, under⟩ := ih earlier middle first
    have heard := step_heard (under (step_unended i taken)) i taken
    refine ⟨fun request member => ?_, heard.probing⟩
    rcases List.mem_append.mp member with old | new
    · exact asked request old
    · exact heard.asks request new

/-- What can be the last of a check that was accepted in time. -/
def ProbeInput.Closes (i : ProbeInput) : Prop :=
  i = .polled (.ok (.outgoing .disconnect)) ∨ ∃ error, i = .polled (.error error)

theorem concludes_ok (met : List ProbeInput) (i : ProbeInput) :
    Concludes met i (.ok ()) ↔ 0 < acceptances met ∧ i.Closes := by
  constructor
  · intro concludes
    cases concludes with
    | closed accepted => exact ⟨accepted, .inl rfl⟩
    | lost accepted error => exact ⟨accepted, .inr ⟨error, rfl⟩⟩
  · rintro ⟨accepted, rfl | ⟨error, rfl⟩⟩
    · exact .closed accepted
    · exact .lost accepted error

theorem checkMqtt_pass (outcome : Except MqttProbeFailure Unit) :
    (checkMqtt outcome).status = .pass ↔ outcome = .ok () := by
  cases outcome with
  | ok done => simp [checkMqtt]
  | error failure => simp [checkMqtt]

/-- What a check ended with is what its last input calls for. -/
theorem probe_concludes (inputs : List ProbeInput) (trace : List Request) (p : Probe)
    (ran : probeMqtt.run inputs = some (trace, p)) (outcome : Except MqttProbeFailure Unit) :
    p.ended = some outcome ↔ ∃ met last, inputs = met ++ [last] ∧ Concludes met last outcome := by
  cases inputs using List.reverseRecOn with
  | nil =>
    cases ran
    simp [probeMqtt]
  | append_singleton before i _ =>
    obtain ⟨earlier, middle, emitted, first, taken, rfl⟩ :=
      (probeMqtt.runFrom_concat _ before i trace p).mp ran
    have under := (probe_asks before earlier middle first).2 (step_unended i taken)
    rw [(step_heard under i taken).concludes outcome]
    constructor
    · exact fun concludes => ⟨before, i, rfl, concludes⟩
    · rintro ⟨met, last, same, concludes⟩
      obtain ⟨rfl, rfl⟩ := List.append_singleton_inj.mp same
      exact concludes

theorem probe_passes (inputs : List ProbeInput) (trace : List Request) (p : Probe)
    (ran : probeMqtt.run inputs = some (trace, p)) : p.ended = some (.ok ()) ↔
      ∃ met last, inputs = met ++ [last] ∧ 0 < acceptances met ∧ last.Closes := by
  rw [probe_concludes inputs trace p ran]
  simp only [concludes_ok]

/-- A check asks the broker for nothing but to be disconnected. What it ends with is what its
last input calls for after those it met, the time being up ends it in any case, and it
passes if and only if the broker had accepted it before the connection was closed or lost. -/
theorem probe_conversation (inputs : List ProbeInput) (trace : List Request) (p : Probe)
    (ran : probeMqtt.run inputs = some (trace, p)) :
    (∀ request ∈ trace, request = .disconnect) ∧
    (∀ outcome, p.ended = some outcome ↔
      ∃ met last, inputs = met ++ [last] ∧ Concludes met last outcome) ∧
    (p.ended = none → ∃ q, p.step .deadline = some ([], q) ∧ q.ended = some (.error .timedOut)) ∧
    ∀ outcome, p.ended = some outcome → ((checkMqtt outcome).status = .pass ↔
      ∃ met last, inputs = met ++ [last] ∧ 0 < acceptances met ∧ last.Closes) := by
  refine ⟨(probe_asks inputs trace p ran).1, probe_concludes inputs trace p ran, fun unended => ?_,
    fun outcome ended => ?_⟩
  · exact ⟨{ p with ended := some (.error .timedOut) }, by simp [Probe.step, unended], rfl⟩
  · rw [checkMqtt_pass, ← probe_passes inputs trace p ran, ended, Option.some.injEq]

theorem probe_conversation_accepted :
    (checkMqtt (.ok ())).status = .pass ↔ ∃ met last,
      [.polled (.ok (.incoming (.connAck .success))), .taken,
        .polled (.ok (.outgoing .disconnect))] = met ++ [last] ∧
        0 < acceptances met ∧ last.Closes :=
  (probe_conversation [.polled (.ok (.incoming (.connAck .success))), .taken,
    .polled (.ok (.outgoing .disconnect))] [.disconnect] ⟨true, 0, some (.ok ())⟩ rfl).2.2.2 _ rfl

/-- Where nothing blocks a check that asks the broker, that had accepted the connection. -/
theorem probed_accepted (config : Config) (host : CheckHost)
    (free : ¬ Blocking config .enabled host) (credentials : MqttCredentials)
    (loaded : MqttCredentials.load config.mqtt host.credentials = .ok credentials)
    (inputs : List ProbeInput) (trace : List Request) (p : Probe)
    (ran : probeMqtt.run inputs = some (trace, p))
    (ended : p.ended = some (host.probe credentials)) :
    ∃ met last, inputs = met ++ [last] ∧ 0 < acceptances met ∧ last.Closes := by
  cases outcome : host.probe credentials with
  | error failure => exact absurd (.broker credentials failure loaded rfl outcome) free
  | ok done =>
    rw [outcome] at ended
    exact (probe_passes inputs trace p ran).mp ended

end RpiHealth
