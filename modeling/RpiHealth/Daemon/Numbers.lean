import RpiHealth.Daemon.Freshness

/-! The numbers of the published states only grow, and the last of them is the
machine's own. -/
namespace RpiHealth
open Machines Watch

def stateId? (r : Submission) : Option Nat :=
  if r.action = .publishState then r.message.map (·.requestId) else none

/-- The numbers under which states were published. -/
def stateIds (rs : List Submission) : List Nat := rs.filterMap stateId?

def allocation? : Obs → Option Nat
  | .allocated id => some id
  | _ => none

/-- The numbers under which collections were asked for. -/
def allocated (trace : List Obs) : List Nat := trace.filterMap allocation?

@[simp] theorem stateIds_append (first second : List Submission) :
    stateIds (first ++ second) = stateIds first ++ stateIds second := by
  simp [stateIds]

@[simp] theorem stateIds_nil : stateIds [] = [] := rfl

theorem stateIds_other (action : ProtocolAction) (message : Option StateMessage)
    (other : action ≠ .publishState) : stateIds [⟨action, message⟩] = [] := by
  simp [stateIds, stateId?, other]

theorem stateIds_state (m : StateMessage) :
    stateIds [⟨.publishState, some m⟩] = [m.requestId] := rfl

/-- The numbers of the states that the supervisor asked to publish. -/
def published (trace : List Obs) : List Nat := stateIds (requests trace)

/-- The numbers of the states that the client sent. -/
def sentStates (trace : List Obs) : List Nat := stateIds ((transmitted trace).map Prod.fst)

structure Growing (rules : ClientRules) (trace : List Obs) (p : Core) : Prop where
  increasing : (published trace).Pairwise (· < ·)
  bounded : ∀ id ∈ published trace, id ≤ p.protocol.lastStateRequest
  /-- A state that found the channel full ended the supervisor. -/
  newest : (published trace).getLastD 0 = p.protocol.lastStateRequest ∨
    p.ended = true ∧ p.protocol.phase = .stateQueued
  inOrder : rules.fifo = true →
    (sentStates trace ++ stateIds p.queue).Sublist (published trace)

/-- A move that publishes no state. -/
theorem growing_silent (rules : ClientRules) (trace emitted : List Obs) (p q : Core)
    (growing : Growing rules trace p) (silent : published emitted = [])
    (last : q.protocol.lastStateRequest = p.protocol.lastStateRequest)
    (ended : p.ended = true → q.ended = true ∧ q.protocol.phase = p.protocol.phase)
    (queue : rules.fifo = true →
      (sentStates emitted ++ stateIds q.queue).Sublist (stateIds p.queue)) :
    Growing rules (trace ++ emitted) q := by
  have same : published (trace ++ emitted) = published trace := by
    simp only [published, requests_append, stateIds_append] at silent ⊢
    rw [silent, List.append_nil]
  constructor
  · rw [same]
    exact growing.increasing
  · rw [same, last]
    exact growing.bounded
  · rw [same, last]
    refine growing.newest.imp_right (fun settled => ?_)
    obtain ⟨still, unchanged⟩ := ended settled.1
    exact ⟨still, unchanged ▸ settled.2⟩
  · intro fifo
    rw [same]
    refine List.Sublist.trans ?_ (growing.inOrder fifo)
    have grown : sentStates (trace ++ emitted) = sentStates trace ++ sentStates emitted := by
      simp [sentStates]
    rw [grown, List.append_assoc]
    exact (queue fifo).append_left _

theorem growing_publish (rules : ClientRules) (trace : List Obs) (p : Core) (k : Worker)
    (m : StateMessage) (paced : Paced p k) (growing : Growing rules trace p)
    (wanted : (p.protocol.stateAvailable m.requestId).2 = some .publishState) :
    Growing rules (trace ++ [.requested ⟨.publishState, some m⟩])
      ((p.offer m.requestId).ask ⟨.publishState, some m⟩) := by
  obtain ⟨-, -, newer, offered⟩ := wanted_newer p paced.awaits m.requestId wanted
  have grown : published (trace ++ [.requested ⟨.publishState, some m⟩]) =
      published trace ++ [m.requestId] := by
    simp [published, stateIds_state]
  have older : ∀ id ∈ published trace, id < m.requestId :=
    fun id member => Nat.lt_of_le_of_lt (growing.bounded id member) newer
  have last : ((p.offer m.requestId).ask ⟨.publishState, some m⟩).protocol.lastStateRequest =
      m.requestId := by
    simp [Core.ask, Core.offer, offered]
  constructor
  · rw [grown, List.pairwise_append]
    exact ⟨growing.increasing, List.pairwise_singleton _ _, by simpa using older⟩
  · rw [grown, last]
    intro id member
    rcases List.mem_append.mp member with old | new
    · exact Nat.le_of_lt (older id old)
    · exact Nat.le_of_eq (List.mem_singleton.mp new)
  · rw [grown, last]
    exact .inl (by simp)
  · intro fifo
    have sent : sentStates (trace ++ [.requested ⟨.publishState, some m⟩]) = sentStates trace := by
      simp [sentStates, transmission?]
    rw [grown, sent]
    simp only [Core.ask, Core.offer, stateIds_append, stateIds_state, ← List.append_assoc]
    exact (growing.inOrder fifo).append_right _

theorem move_growing (rules : ClientRules) (trace : List Obs) (p q : Core) (k : Worker)
    (emitted : List Obs) (paced : Paced p k) (growing : Growing rules trace p)
    (moved : Move rules p emitted q) : Growing rules (trace ++ emitted) q := by
  cases moved with
  | note o passes =>
    refine growing_silent rules trace [o] p p growing ?_ rfl (fun ended => ⟨ended, rfl⟩) ?_
    · cases o <;> simp_all [Obs.isNote, published, request?]
    · cases o <;> simp_all [Obs.isNote, sentStates, transmission?]
  | allocate | look | settle | ignore =>
    exact growing_silent rules trace _ p _ growing rfl rfl (fun ended => ⟨ended, rfl⟩)
      (fun _ => List.Sublist.refl _)
  | begin live empty =>
    exact growing_silent rules trace _ p _ growing rfl rfl (by simp [live])
      (fun _ => List.nil_sublist _)
  | react live event =>
    exact growing_silent rules trace [] p _ growing rfl (follows_reaction p.protocol event).last
      (by simp [live]) (fun _ => List.Sublist.refl _)
  | close live =>
    exact growing_silent rules trace [] p _ growing rfl (follows_shutdown p.protocol).last
      (by simp [live]) (fun _ => List.Sublist.refl _)
  | lose live =>
    exact growing_silent rules trace [] p _ growing rfl rfl (by simp [live])
      (fun _ => List.nil_sublist _)
  | finish =>
    exact growing_silent rules trace [] p _ growing rfl rfl (fun _ => ⟨rfl, rfl⟩)
      (fun _ => List.nil_sublist _)
  | ask action other =>
    refine growing_silent rules trace _ p _ growing (stateIds_other action none other) rfl
      (fun ended => ⟨ended, rfl⟩) (fun _ => ?_)
    simp only [Core.ask, stateIds_append, stateIds_other action none other, List.append_nil]
    exact List.Sublist.refl _
  | send position r id found first =>
    refine growing_silent rules trace _ p _ growing rfl rfl (fun ended => ⟨ended, rfl⟩)
      (fun fifo => ?_)
    obtain rfl := first fifo
    cases queue : p.queue with
    | nil => simp [queue] at found
    | cons s rest =>
      simp only [queue, List.getElem?_cons_zero, Option.some.injEq] at found
      subst found
      have whole : sentStates [.transmitted s id] ++ stateIds rest = stateIds (s :: rest) :=
        (stateIds_append [s] rest).symm
      simp only [List.eraseIdx_zero, List.tail_cons, whole]
      exact List.Sublist.refl _
  | publish live m current wanted =>
    exact growing_publish rules trace p k m paced growing wanted
  | refuse live m current wanted =>
    obtain ⟨-, -, newer, offered⟩ := wanted_newer p paced.awaits m.requestId wanted
    rw [List.append_nil]
    exact {
      increasing := growing.increasing
      bounded := fun id member => by
        simpa [Core.finish, Core.offer, offered] using
          Nat.le_of_lt (Nat.lt_of_le_of_lt (growing.bounded id member) newer)
      newest := .inr ⟨rfl, by simp [Core.finish, Core.offer, offered]⟩
      inOrder := fun fifo => by
        have sent := (List.sublist_append_left (sentStates trace) (stateIds p.queue)).trans
          (growing.inOrder fifo)
        simpa [Core.finish] using sent }

end RpiHealth
