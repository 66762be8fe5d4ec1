import RpiHealth.Library.Machine
import RpiHealth.Library.Watch
import RpiHealth.Mqtt.Settings

/-! The supervisor's event loop over the MQTT client. Handlers run without an
await in between, so one step is one handler, except where a handler touches the
shared slots twice. What the client library and the other tasks may do is left
open: every choice of theirs is an input. -/
namespace RpiHealth
open Machines Watch

structure StateMessage where
  requestId : Nat
  payload : String
  deriving DecidableEq, Repr

inductive MqttStatus where
  | disconnected | bootstrapping | online | shuttingDown | stopped
  deriving DecidableEq, Repr

inductive MqttError where
  | controlQueueUnavailable
  deriving DecidableEq, Repr

inductive ConnectReturnCode where
  | success | refusedProtocolVersion | badClientId | serviceUnavailable | badUserNamePassword
  | notAuthorized
  deriving DecidableEq, Repr

inductive Incoming where
  | connAck (code : ConnectReturnCode)
  | pubAck (pkid : PacketId)
  | other
  deriving DecidableEq, Repr

inductive Outgoing where
  | publish (pkid : PacketId)
  | disconnect
  | other
  deriving DecidableEq, Repr

inductive Event where
  | incoming (packet : Incoming)
  | outgoing (packet : Outgoing)
  deriving DecidableEq, Repr

/-- A request on the client's channel: the action it was made for and, for a
state, the observation. -/
structure Submission where
  action : ProtocolAction
  message : Option StateMessage
  deriving DecidableEq, Repr

/-- An event that poll has yet to return, and where it comes from. The
supervisor is given the event only. -/
inductive Buffered where
  | sent (request : Submission) (id : PacketId)
  | ack (id : PacketId)
  | quiet
  | stale (event : Event)
  deriving DecidableEq, Repr

def Buffered.event : Buffered → Event
  | .sent request id =>
    if request.action = .disconnect then .outgoing .disconnect else .outgoing (.publish id)
  | .ack id => .incoming (.pubAck id)
  | .quiet => .incoming .other
  | .stale event => event

structure Client where
  up : Bool := false
  queue : List Submission := []
  events : List Buffered := []
  deriving DecidableEq, Repr

/-- What is assumed of the client library. -/
structure ClientRules where
  /-- Requests leave the queue in order. -/
  fifo : Bool
  /-- Identifier 0 is for QoS 0 and for nothing else. -/
  qosIds : Bool
  /-- The events that may outlive the connection they were buffered on. -/
  keeps : Event → Bool

/-- The client as documented, up to what an error leaves behind. -/
def ClientRules.documented (keeps : Event → Bool) : ClientRules := ⟨true, true, keeps⟩

inductive Control where
  | select
  | connAcked
  | retrying
  | draining
  | returned (error : Option MqttError)
  deriving DecidableEq, Repr

inductive Obs where
  | replaced (message : StateMessage)
  | allocated (id : Nat)
  | signalled
  | transmitted (request : Submission) (id : PacketId)
  | received (id : PacketId)
  | connAck (code : ConnectReturnCode)
  | connected (required : Nat)
  | polled (buffered : Buffered)
  | lost
  | requested (request : Submission)
  | reported (status : MqttStatus)
  | shutdown (phase : Phase)
  | returned (error : Option MqttError)
  deriving DecidableEq, Repr

structure World where
  settings : MqttSettings
  discoveryPayload : String
  control : Control := .select
  protocol : BootstrapMachine := {}
  status : MqttStatus := .disconnected
  states : Slot (Option StateMessage) := Slot.channel none
  seen : Nat := 0
  requests : Slot Nat := Slot.channel 0
  shutdown : Bool := false
  client : Client := {}
  deriving DecidableEq, Repr

/-- Allocates the next request in the latest-only slot; the counter saturates. -/
def requestCollection (slot : Slot Nat) : Slot Nat × Nat :=
  let id := min (slot.value + 1) U64_MAX
  (slot.sendModify (fun _ => id), id)

/-- The machine's reaction to an event that poll returned. -/
def BootstrapMachine.reaction (m : BootstrapMachine) :
    Event → BootstrapMachine × Option ProtocolAction
  | .outgoing (.publish packetId) => m.outgoingPublish packetId
  | .incoming (.pubAck packetId) => m.publishAcknowledged packetId
  | .outgoing .disconnect => m.disconnected
  | _ => (m, none)

/-- How a handler ends: what it did, and the error that leaves the loop. -/
structure Outcome where
  emitted : List Obs
  world : World
  error : Option MqttError

/-- The `?` operator between two handlers. -/
def Outcome.andThen (first : Outcome) (next : World → Outcome) : Outcome :=
  match first.error with
  | some _ => first
  | none =>
    let second := next first.world
    ⟨first.emitted ++ second.emitted, second.world, second.error⟩

namespace World

def packet (w : World) (r : Submission) : Request :=
  w.settings.request w.discoveryPayload r.action (r.message.map (·.payload))

/-- The request goes on the bounded channel, or the channel is full. -/
def perform (w : World) (action : ProtocolAction) (message : Option StateMessage) : Outcome :=
  if w.client.queue.length < REQUEST_CHANNEL_CAPACITY then
    ⟨[.requested ⟨action, message⟩],
      { w with client := { w.client with queue := w.client.queue ++ [⟨action, message⟩] } }, none⟩
  else ⟨[], w, some .controlQueueUnavailable⟩

def performAny (w : World) (action : Option ProtocolAction) (message : Option StateMessage) :
    Outcome :=
  match action with
  | some action => w.perform action message
  | none => ⟨[], w, none⟩

/-- The loop is left and the client is dropped with its connection. -/
def halt (w : World) (error : Option MqttError) : World :=
  { w with control := .returned error, client := {} }

def conclude (out : Outcome) : List Obs × World :=
  match out.error with
  | none => (out.emitted, out.world)
  | some e => (out.emitted ++ [.returned (some e)], out.world.halt (some e))

def handleEvent (w : World) (event : Event) : Outcome :=
  let reaction := w.protocol.reaction event
  { w with protocol := reaction.1 }.performAny reaction.2 none

def publishCurrentState (w : World) : Outcome :=
  let w := { w with seen := w.states.version }
  match w.states.value with
  | none => ⟨[], w, none⟩
  | some message =>
    let reaction := w.protocol.stateAvailable message.requestId
    { w with protocol := reaction.1 }.performAny reaction.2 (some message)

/-- What follows the select in one turn of the loop. -/
def finishTurn (w : World) : Outcome :=
  let checked := w.protocol.justBecameOnline
  let w := { w with protocol := checked.1 }
  if checked.2 then
    (⟨[.reported .online], { w with status := .online }, none⟩ : Outcome).andThen
      publishCurrentState
  else if w.protocol.isOnline then ⟨[.reported .online], { w with status := .online }, none⟩
  else ⟨[], w, none⟩

def turn (w : World) (event : Event) : List Obs × World :=
  conclude ((w.handleEvent event).andThen finishTurn)

def stateTurn (w : World) : List Obs × World :=
  conclude (w.publishCurrentState.andThen finishTurn)

/-- The rest of the ConnAck branch, from the request on. -/
def connect (w : World) : List Obs × World :=
  let allocated := requestCollection w.requests
  let started := w.protocol.connected allocated.2
  let w := { w with
    requests := allocated.1
    status := .bootstrapping
    protocol := started.1
    control := .select }
  let done := conclude (w.perform started.2 none)
  (.allocated allocated.2 :: .reported .bootstrapping :: .connected allocated.2 :: done.1, done.2)

def connectionFailed (w : World) (kept : List Event) : List Obs × World :=
  ([.lost, .reported .disconnected],
    { w with
      protocol := w.protocol.connectionLost
      status := .disconnected
      control := .retrying
      client := { events := kept.map .stale } })

def stop (w : World) : List Obs × World :=
  ([.reported .stopped, .returned none], ({ w with status := .stopped }).halt none)

def gracefulShutdown (w : World) : List Obs × World :=
  let reaction := w.protocol.shutdown
  let v := { w with protocol := reaction.1, status := .shuttingDown, control := .draining }
  let done := match reaction.2 with
    | none => v.stop
    | some action => conclude (v.perform action none)
  (.shutdown w.protocol.phase :: .reported .shuttingDown :: done.1, done.2)

/-- One event of the shutdown sequence. -/
def drain (w : World) (event : Event) : List Obs × World :=
  let out := w.handleEvent event
  if out.error = none ∧ (event = .outgoing .disconnect ∨ out.world.protocol.isStopped) then
    (out.emitted ++ out.world.stop.1, out.world.stop.2)
  else conclude out

/-- The world with these events left to return. -/
def pop (w : World) (rest : List Buffered) : World :=
  { w with client := { w.client with events := rest } }

def poll (w : World) : Option (List Obs × World) :=
  if w.client.up then
    match w.client.events with
    | [] => none
    | b :: rest =>
      let v := w.pop rest
      match w.control with
      | .select => some (.polled b :: (v.turn b.event).1, (v.turn b.event).2)
      | .draining => some (.polled b :: (v.drain b.event).1, (v.drain b.event).2)
      | _ => none
  else none

/-- The rules allow the event loop to send the request under this identifier. -/
def mayTransmit (w : World) (rules : ClientRules) (position : Nat) (r : Submission)
    (id : PacketId) : Bool :=
  w.client.up && (!rules.fifo || decide (position = 0)) &&
    (!rules.qosIds || match (w.packet r).qos? with
      | some qos => decide (id = 0 ↔ qos = .atMostOnce)
      | none => true)

/-- The event loop takes a request from the channel, gives it an identifier and
sends it. -/
def transmit (rules : ClientRules) (w : World) (position : Nat) (id : PacketId) :
    Option (List Obs × World) :=
  match w.client.queue[position]? with
  | none => none
  | some r =>
    if w.mayTransmit rules position r id then
      some ([.transmitted r id],
        { w with client := { w.client with
            queue := w.client.queue.eraseIdx position
            events := w.client.events ++ [.sent r id] } })
    else none

def buffer (w : World) (b : Buffered) : World :=
  { w with client := { w.client with events := w.client.events ++ [b] } }

end World

inductive Input where
  /-- The state slot is replaced. -/
  | replaceState (message : StateMessage)
  /-- Another holder of the request slot asks for a collection. -/
  | request
  /-- The shutdown flag is raised. -/
  | signal
  /-- The event loop sends a queued request. -/
  | transmit (position : Nat) (id : PacketId)
  /-- The event loop reads a PubAck from the transport. -/
  | receive (id : PacketId)
  /-- The event loop buffers an event nobody listens to. -/
  | ping
  /-- Poll connects and returns the broker's answer. -/
  | connAck (code : ConnectReturnCode)
  /-- The ConnAck branch goes on after looking at the state slot. -/
  | connect
  /-- Poll returns a buffered event. -/
  | poll
  /-- Poll returns an error; of the buffered events some may be left. -/
  | fail (kept : List Event)
  /-- The state slot has changed. -/
  | state
  /-- The shutdown flag is noticed. -/
  | shutdown
  /-- The retry delay is over. -/
  | retry
  /-- The shutdown deadline is over. -/
  | timeout
  deriving DecidableEq, Repr

/-- More can happen here than in the loop: that notices a raised flag before anything else,
and its client returns what it has buffered before it reads, sends or fails. -/
def step (rules : ClientRules) (w : World) : Input → Option (List Obs × World)
  | .replaceState message =>
    some ([.replaced message], { w with states := w.states.sendReplace (some message) })
  | .request =>
    let allocated := requestCollection w.requests
    some ([.allocated allocated.2], { w with requests := allocated.1 })
  | .signal => some ([.signalled], { w with shutdown := true })
  | .transmit position id => w.transmit rules position id
  | .receive id => if w.client.up then some ([.received id], w.buffer (.ack id)) else none
  | .ping => if w.client.up then some ([], w.buffer .quiet) else none
  | .connAck code =>
    if w.control = .select ∧ w.client.up = false then
      if code = .success then
        some ([.connAck code],
          { w with
            control := .connAcked
            seen := w.states.version
            client := { w.client with up := true } })
      else
        let done := w.turn (.incoming (.connAck code))
        some (.connAck code :: done.1, done.2)
    else none
  | .connect => if w.control = .connAcked then some w.connect else none
  | .poll => w.poll
  | .fail kept =>
    if kept.isSublist (w.client.events.map Buffered.event) &&
        kept.all rules.keeps then
      match w.control with
      | .select => some (w.connectionFailed kept)
      | .draining => some (.lost :: w.stop.1, w.stop.2)
      | _ => none
    else none
  | .state =>
    if w.control = .select ∧ w.protocol.acceptsState = true ∧
        w.states.hasChanged w.seen = true then some w.stateTurn
    else none
  | .shutdown =>
    if w.shutdown then
      match w.control with
      | .select => some w.gracefulShutdown
      | .retrying => some (.shutdown w.protocol.phase :: w.stop.1, w.stop.2)
      | _ => none
    else none
  | .retry =>
    if w.control = .retrying then
      let v := { w with control := .select }
      some (World.conclude v.finishTurn)
    else none
  | .timeout => if w.control = .draining then some w.stop else none

/-- What a step can do, and when. -/
inductive Taken (rules : ClientRules) (w : World) : Input → List Obs → World → Prop where
  | replaceState (message : StateMessage) :
    Taken rules w (.replaceState message) [.replaced message]
      { w with states := w.states.sendReplace (some message) }
  | request :
    Taken rules w .request [.allocated (requestCollection w.requests).2]
      { w with requests := (requestCollection w.requests).1 }
  | signal : Taken rules w .signal [.signalled] { w with shutdown := true }
  | transmit (position : Nat) (id : PacketId) (r : Submission)
      (found : w.client.queue[position]? = some r)
      (may : w.mayTransmit rules position r id = true) :
    Taken rules w (.transmit position id) [.transmitted r id]
      { w with client := { w.client with
          queue := w.client.queue.eraseIdx position
          events := w.client.events ++ [.sent r id] } }
  | receive (id : PacketId) (up : w.client.up = true) :
    Taken rules w (.receive id) [.received id] (w.buffer (.ack id))
  | ping (up : w.client.up = true) : Taken rules w .ping [] (w.buffer .quiet)
  | accepted (control : w.control = .select) (down : w.client.up = false) :
    Taken rules w (.connAck .success) [.connAck .success]
      { w with
        control := .connAcked
        seen := w.states.version
        client := { w.client with up := true } }
  | refused (code : ConnectReturnCode) (refuses : code ≠ .success) (control : w.control = .select)
      (down : w.client.up = false) :
    Taken rules w (.connAck code) (.connAck code :: (w.turn (.incoming (.connAck code))).1)
      (w.turn (.incoming (.connAck code))).2
  | connect (control : w.control = .connAcked) : Taken rules w .connect w.connect.1 w.connect.2
  | polled (b : Buffered) (rest : List Buffered) (up : w.client.up = true)
      (events : w.client.events = b :: rest) (control : w.control = .select) :
    Taken rules w .poll (.polled b :: ((w.pop rest).turn b.event).1) ((w.pop rest).turn b.event).2
  | drained (b : Buffered) (rest : List Buffered) (up : w.client.up = true)
      (events : w.client.events = b :: rest) (control : w.control = .draining) :
    Taken rules w .poll (.polled b :: ((w.pop rest).drain b.event).1)
      ((w.pop rest).drain b.event).2
  | failed (kept : List Event) (among : kept.Sublist (w.client.events.map Buffered.event))
      (keeps : ∀ e ∈ kept, rules.keeps e = true) (control : w.control = .select) :
    Taken rules w (.fail kept) (w.connectionFailed kept).1 (w.connectionFailed kept).2
  | abandoned (kept : List Event) (control : w.control = .draining) :
    Taken rules w (.fail kept) (.lost :: w.stop.1) w.stop.2
  | state (control : w.control = .select) (accepts : w.protocol.acceptsState = true)
      (changed : w.states.hasChanged w.seen = true) :
    Taken rules w .state w.stateTurn.1 w.stateTurn.2
  | shutdown (control : w.control = .select) :
    Taken rules w .shutdown w.gracefulShutdown.1 w.gracefulShutdown.2
  | dismissed (control : w.control = .retrying) :
    Taken rules w .shutdown (.shutdown w.protocol.phase :: w.stop.1) w.stop.2
  | retry (control : w.control = .retrying) :
    Taken rules w .retry (World.conclude ({ w with control := .select } : World).finishTurn).1
      (World.conclude ({ w with control := .select } : World).finishTurn).2
  | timeout (control : w.control = .draining) : Taken rules w .timeout w.stop.1 w.stop.2

theorem poll_taken (rules : ClientRules) (w : World) (emitted : List Obs) (v : World)
    (taken : w.poll = some (emitted, v)) : Taken rules w .poll emitted v := by
  unfold World.poll at taken
  split at taken
  · rename_i up
    split at taken
    · contradiction
    · rename_i b rest events
      split at taken
      · rename_i control
        obtain ⟨rfl, rfl⟩ := Prod.mk.inj (Option.some.inj taken)
        exact .polled b rest up events control
      · rename_i control
        obtain ⟨rfl, rfl⟩ := Prod.mk.inj (Option.some.inj taken)
        exact .drained b rest up events control
      · contradiction
  · contradiction

theorem fail_taken (rules : ClientRules) (w : World) (kept : List Event) (emitted : List Obs)
    (v : World) (taken : step rules w (.fail kept) = some (emitted, v)) :
    Taken rules w (.fail kept) emitted v := by
  simp only [step] at taken
  split at taken
  · rename_i allowed
    obtain ⟨among, keeps⟩ : kept.Sublist (w.client.events.map Buffered.event) ∧
        ∀ e ∈ kept, rules.keeps e = true := by simpa using allowed
    split at taken
    · rename_i control
      obtain ⟨rfl, rfl⟩ := Prod.mk.inj (Option.some.inj taken)
      exact .failed kept among keeps control
    · rename_i control
      obtain ⟨rfl, rfl⟩ := Prod.mk.inj (Option.some.inj taken)
      exact .abandoned kept control
    · contradiction
  · contradiction

theorem step_taken (rules : ClientRules) (w : World) (i : Input) (emitted : List Obs) (v : World)
    (taken : step rules w i = some (emitted, v)) : Taken rules w i emitted v := by
  cases i with
  | replaceState message =>
    obtain ⟨rfl, rfl⟩ := Prod.mk.inj (Option.some.inj taken)
    exact .replaceState message
  | request =>
    obtain ⟨rfl, rfl⟩ := Prod.mk.inj (Option.some.inj taken)
    exact .request
  | signal =>
    obtain ⟨rfl, rfl⟩ := Prod.mk.inj (Option.some.inj taken)
    exact .signal
  | transmit position id =>
    simp only [step, World.transmit] at taken
    split at taken
    · contradiction
    · rename_i r found
      split at taken
      · rename_i may
        obtain ⟨rfl, rfl⟩ := Prod.mk.inj (Option.some.inj taken)
        exact .transmit position id r found may
      · contradiction
  | receive id =>
    obtain ⟨up, made⟩ := Option.ite_none_right_eq_some.mp taken
    obtain ⟨rfl, rfl⟩ := Prod.mk.inj (Option.some.inj made)
    exact .receive id up
  | ping =>
    obtain ⟨up, made⟩ := Option.ite_none_right_eq_some.mp taken
    obtain ⟨rfl, rfl⟩ := Prod.mk.inj (Option.some.inj made)
    exact .ping up
  | connAck code =>
    obtain ⟨waiting, made⟩ := Option.ite_none_right_eq_some.mp taken
    split at made
    · rename_i succeeds
      subst succeeds
      obtain ⟨rfl, rfl⟩ := Prod.mk.inj (Option.some.inj made)
      exact .accepted waiting.1 waiting.2
    · rename_i refuses
      obtain ⟨rfl, rfl⟩ := Prod.mk.inj (Option.some.inj made)
      exact .refused code refuses waiting.1 waiting.2
  | connect =>
    obtain ⟨control, made⟩ := Option.ite_none_right_eq_some.mp taken
    obtain ⟨rfl, rfl⟩ := Prod.mk.inj (Option.some.inj made)
    exact .connect control
  | poll => exact poll_taken rules w emitted v taken
  | fail kept => exact fail_taken rules w kept emitted v taken
  | state =>
    obtain ⟨listens, made⟩ := Option.ite_none_right_eq_some.mp taken
    obtain ⟨rfl, rfl⟩ := Prod.mk.inj (Option.some.inj made)
    exact .state listens.1 listens.2.1 listens.2.2
  | shutdown =>
    obtain ⟨-, made⟩ := Option.ite_none_right_eq_some.mp taken
    split at made
    · rename_i control
      obtain ⟨rfl, rfl⟩ := Prod.mk.inj (Option.some.inj made)
      exact .shutdown control
    · rename_i control
      obtain ⟨rfl, rfl⟩ := Prod.mk.inj (Option.some.inj made)
      exact .dismissed control
    · contradiction
  | retry =>
    obtain ⟨control, made⟩ := Option.ite_none_right_eq_some.mp taken
    obtain ⟨rfl, rfl⟩ := Prod.mk.inj (Option.some.inj made)
    exact .retry control
  | timeout =>
    obtain ⟨control, made⟩ := Option.ite_none_right_eq_some.mp taken
    obtain ⟨rfl, rfl⟩ := Prod.mk.inj (Option.some.inj made)
    exact .timeout control

/-- What the handlers of an event leave alone. -/
structure Frame (w v : World) : Prop where
  settings : v.settings = w.settings
  discoveryPayload : v.discoveryPayload = w.discoveryPayload
  control : v.control = w.control
  states : v.states = w.states
  requests : v.requests = w.requests
  shutdown : v.shutdown = w.shutdown
  up : v.client.up = w.client.up
  events : v.client.events = w.client.events

theorem andThen_world (first : Outcome) (next : World → Outcome) (fine : first.error = none) :
    (first.andThen next).world = (next first.world).world := by
  simp [Outcome.andThen, fine]

theorem frame_trans (u v w : World) (first : Frame u v) (second : Frame v w) : Frame u w where
  settings := second.settings.trans first.settings
  discoveryPayload := second.discoveryPayload.trans first.discoveryPayload
  control := second.control.trans first.control
  states := second.states.trans first.states
  requests := second.requests.trans first.requests
  shutdown := second.shutdown.trans first.shutdown
  up := second.up.trans first.up
  events := second.events.trans first.events

namespace World

/-- A request changes the channel only. -/
theorem performAny_world (w : World) (action : Option ProtocolAction)
    (message : Option StateMessage) :
    (w.performAny action message).world = { w with client := { w.client with
      queue := (w.performAny action message).world.client.queue } } := by
  cases action with
  | none => rfl
  | some action =>
    simp only [performAny, perform]
    split <;> rfl

theorem performAny_frame (w : World) (action : Option ProtocolAction)
    (message : Option StateMessage) : Frame w (w.performAny action message).world := by
  rw [performAny_world]
  constructor <;> rfl

@[simp] theorem performAny_protocol (w : World) (action : Option ProtocolAction)
    (message : Option StateMessage) : (w.performAny action message).world.protocol = w.protocol := by
  rw [performAny_world]

@[simp] theorem performAny_seen (w : World) (action : Option ProtocolAction)
    (message : Option StateMessage) : (w.performAny action message).world.seen = w.seen := by
  rw [performAny_world]

theorem handleEvent_frame (w : World) (event : Event) : Frame w (w.handleEvent event).world :=
  frame_trans _ _ _ (by constructor <;> rfl) (performAny_frame _ _ _)

@[simp] theorem handleEvent_protocol (w : World) (event : Event) :
    (w.handleEvent event).world.protocol = (w.protocol.reaction event).1 := by
  simp [handleEvent]

@[simp] theorem handleEvent_seen (w : World) (event : Event) :
    (w.handleEvent event).world.seen = w.seen := by
  simp [handleEvent]

theorem publishCurrentState_frame (w : World) : Frame w w.publishCurrentState.world := by
  cases value : w.states.value with
  | none =>
    simp only [publishCurrentState, value]
    constructor <;> rfl
  | some message =>
    simp only [publishCurrentState, value]
    exact frame_trans _ _ _ (by constructor <;> rfl) (performAny_frame _ _ _)

@[simp] theorem publishCurrentState_seen (w : World) :
    w.publishCurrentState.world.seen = w.states.version := by
  cases value : w.states.value <;> simp [publishCurrentState, value]

/-- The machine once the current state was offered to it. -/
theorem publishCurrentState_protocol (w : World) :
    w.publishCurrentState.world.protocol = match w.states.value with
      | none => w.protocol
      | some message => (w.protocol.stateAvailable message.requestId).1 := by
  cases value : w.states.value <;> simp [publishCurrentState, value]

theorem andThen_frame (w : World) (first : Outcome) (next : World → Outcome)
    (start : Frame w first.world) (later : ∀ v, Frame v (next v).world) :
    Frame w (first.andThen next).world := by
  unfold Outcome.andThen
  split
  · exact start
  · exact frame_trans _ _ _ start (later _)

theorem finishTurn_frame (w : World) : Frame w w.finishTurn.world := by
  simp only [finishTurn]
  split
  · exact andThen_frame _ _ _ (by constructor <;> rfl) publishCurrentState_frame
  · split <;> constructor <;> rfl

end World

/-- The supervisor among all behaviours of the client, the network, the collector
and the operator that the rules allow. -/
def supervisor (rules : ClientRules) (settings : MqttSettings) (discoveryPayload : String) :
    Machine World Input Obs where
  initial := { settings := settings, discoveryPayload := discoveryPayload }
  step := step rules

end RpiHealth
