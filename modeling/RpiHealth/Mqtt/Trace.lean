import RpiHealth.Mqtt.Supervisor

/-! What a trace says about one connection: what was requested on it, which
packet identifiers the client assigned, and which of them were acknowledged. -/
namespace RpiHealth
open Machines

def isConnected : Obs → Bool
  | .connected _ => true
  | _ => false

/-- What happened since the last ConnAck was processed. -/
def connection (trace : List Obs) : List Obs := since isConnected trace

def request? : Obs → Option Submission
  | .requested r => some r
  | _ => none

def requests (c : List Obs) : List Submission := c.filterMap request?

def actions (c : List Obs) : List ProtocolAction := (requests c).map (·.action)

def transmission? : Obs → Option (Submission × PacketId)
  | .transmitted r id => some (r, id)
  | _ => none

def transmitted (c : List Obs) : List (Submission × PacketId) := c.filterMap transmission?

/-- The identifiers under which the client sent the requests made for an action. -/
def assigned (action : ProtocolAction) (c : List Obs) : List PacketId :=
  ((transmitted c).filter (fun t => decide (t.1.action = action))).map Prod.snd

/-- A PubAck was returned that carries the identifier assigned to the action. -/
def Acknowledged (action : ProtocolAction) (c : List Obs) : Prop :=
  ∃ before r id after b, c = before ++ .transmitted r id :: after ∧ r.action = action ∧
    .polled b ∈ after ∧ b.event = .incoming (.pubAck id)

def bootstrapSequence (states : Nat) : List ProtocolAction :=
  .publishDiscovery :: .publishOnline :: List.replicate states .publishState

def BootstrapOrder (as : List ProtocolAction) : Prop :=
  ∃ states, as <+: bootstrapSequence states

def HasShutdown (c : List Obs) : Prop := ∃ phase, Obs.shutdown phase ∈ c

@[simp] theorem requests_append (c d : List Obs) : requests (c ++ d) = requests c ++ requests d := by
  simp [requests]

@[simp] theorem actions_append (c d : List Obs) : actions (c ++ d) = actions c ++ actions d := by
  simp [actions]

@[simp] theorem transmitted_append (c d : List Obs) :
    transmitted (c ++ d) = transmitted c ++ transmitted d := by
  simp [transmitted]

@[simp] theorem requests_nil : requests [] = [] := rfl

@[simp] theorem requests_cons (o : Obs) (c : List Obs) :
    requests (o :: c) = (request? o).toList ++ requests c := by
  cases h : request? o <;> simp [requests, h]

@[simp] theorem actions_nil : actions [] = [] := rfl

@[simp] theorem actions_cons (o : Obs) (c : List Obs) :
    actions (o :: c) = ((request? o).map (·.action)).toList ++ actions c := by
  cases h : request? o <;> simp [actions, requests, h]

@[simp] theorem transmitted_nil : transmitted [] = [] := rfl

@[simp] theorem transmitted_cons (o : Obs) (c : List Obs) :
    transmitted (o :: c) = (transmission? o).toList ++ transmitted c := by
  cases h : transmission? o <;> simp [transmitted, h]

@[simp] theorem request?_requested (r : Submission) : request? (.requested r) = some r := rfl

@[simp] theorem transmission?_transmitted (r : Submission) (id : PacketId) :
    transmission? (.transmitted r id) = some (r, id) := rfl

theorem acknowledged_append (action : ProtocolAction) (c d : List Obs)
    (acknowledged : Acknowledged action c) : Acknowledged action (c ++ d) := by
  obtain ⟨before, r, id, after, b, rfl, made, polled, acks⟩ := acknowledged
  exact ⟨before, r, id, after ++ d, b, by simp, made, by simp [polled], acks⟩

/-- An acknowledgement that arrives for an assigned identifier. -/
theorem acknowledged_polled (r : Submission) (id : PacketId) (b : Buffered) (c : List Obs)
    (sent : (r, id) ∈ transmitted c) (acks : b.event = .incoming (.pubAck id)) :
    Acknowledged r.action (c ++ [.polled b]) := by
  simp only [transmitted, List.mem_filterMap] at sent
  obtain ⟨o, member, found⟩ := sent
  cases o with
  | transmitted s sid =>
    simp only [transmission?, Option.some.injEq, Prod.mk.injEq] at found
    obtain ⟨rfl, rfl⟩ := found
    obtain ⟨before, after, rfl⟩ := List.append_of_mem member
    exact ⟨before, s, sid, after ++ [.polled b], b, by simp, rfl, by simp, acks⟩
  | _ => simp [transmission?] at found

/-- One request made for an action, one identifier assigned to it. -/
theorem assigned_eq (action : ProtocolAction) (c : List Obs) (queue : List Submission)
    (r : Submission) (id : PacketId)
    (fifo : requests c = (transmitted c).map Prod.fst ++ queue)
    (once : (actions c).count action = 1) (sent : (r, id) ∈ transmitted c)
    (made : r.action = action) : assigned action c = [id] := by
  have counted : (transmitted c).countP (fun t => decide (t.1.action = action)) ≤ 1 := by
    have all : (actions c).count action =
        (transmitted c).countP (fun t => decide (t.1.action = action)) +
          (queue.map (·.action)).count action := by
      simp only [actions, fifo, List.map_append, List.count_append]
      congr 1
      simp only [List.count, List.countP_map]
      congr 1
    omega
  unfold assigned
  have member : (r, id) ∈ (transmitted c).filter (fun t => decide (t.1.action = action)) := by
    simp [sent, made]
  rw [List.countP_eq_length_filter] at counted
  match whole : (transmitted c).filter (fun t => decide (t.1.action = action)) with
  | [] => simp [whole] at member
  | [t] =>
    rw [whole] at member
    rw [whole, ← List.mem_singleton.mp member]
    rfl
  | t :: u :: rest => simp [whole] at counted

theorem not_mem_of_bootstrapOrder (as : List ProtocolAction) (action : ProtocolAction)
    (ordered : BootstrapOrder as)
    (other : action = .publishOffline ∨ action = .disconnect) : action ∉ as := by
  obtain ⟨states, isPrefix⟩ := ordered
  intro member
  have among := isPrefix.subset member
  rcases other with rfl | rfl <;> simp [bootstrapSequence] at among

theorem bootstrapOrder_states (states : Nat) : BootstrapOrder (bootstrapSequence states) :=
  ⟨states, List.prefix_refl _⟩

theorem bootstrapSequence_snoc (states : Nat) :
    bootstrapSequence states ++ [.publishState] = bootstrapSequence (states + 1) := by
  simp [bootstrapSequence, List.replicate_succ']

end RpiHealth
