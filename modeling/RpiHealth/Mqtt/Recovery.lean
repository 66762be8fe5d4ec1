import RpiHealth.Library.Refinement
import RpiHealth.Mqtt.Control
import RpiHealth.Mqtt.Queue

/-! Nothing short of a shutdown leaves the supervisor stuck. From wherever a run has
brought it there is a schedule, read off the state alone, on which the network and
the broker do their part and the connection is online again. -/
namespace RpiHealth
open Machines

/-- A connection is made where there is none. -/
def World.join (w : World) : List Input :=
  if w.client.up then [] else [.connAck .success, .connect]

/-- The loop is brought to a connection in use. -/
def World.resume (w : World) : List Input :=
  match w.control with
  | .connAcked => [.connect]
  | .retrying => .retry :: w.join
  | _ => w.join

/-- What the client has buffered is returned. Then the connection is given up, with nothing
left of it, and the retry delay waited for. -/
def World.reset (w : World) : List Input :=
  w.resume ++ (List.replicate w.client.events.length .poll ++ [.fail [], .retry])

section

variable (rules : ClientRules) (w : World)

end

/-- A schedule that can be taken, and what is sent on it. -/
def Reaches (rules : ClientRules) (w : World) (inputs : List Input)
    (sent : List (Submission × PacketId)) (v : World) : Prop :=
  ∃ trace, transmitted trace = sent ∧ ∀ settings discoveryPayload,
    (supervisor rules settings discoveryPayload).runFrom w inputs = some (trace, v)

theorem Reaches.append {rules : ClientRules} {u v w : World} {first second : List Input}
    {sent more : List (Submission × PacketId)} (start : Reaches rules u first sent v)
    (later : Reaches rules v second more w) :
    Reaches rules u (first ++ second) (sent ++ more) w := by
  obtain ⟨before, rfl, ranFirst⟩ := start
  obtain ⟨after, rfl, ranSecond⟩ := later
  refine ⟨before ++ after, transmitted_append before after, fun settings discoveryPayload => ?_⟩
  rw [Machine.runFrom_append _ u v first second before (ranFirst settings discoveryPayload),
    ranSecond]
  rfl

variable (rules : ClientRules)

/-- A ConnAck has been accepted. -/
def World.accepted (w : World) : World := { w with
  control := .connAcked, seen := w.states.version, client := { w.client with up := true } }

variable (settings : MqttSettings) (discoveryPayload : String)

end RpiHealth
