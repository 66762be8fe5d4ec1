import RpiHealth.Mqtt.Moves

/-! The collection worker beside the supervisor. The scheduler and the supervisor
write the request slot; the worker takes the newest request, collects, and puts
the state under that request's number in the state slot. -/
namespace RpiHealth
open Machines Watch

inductive Work where
  | waiting
  | collecting (requestId : Nat)
  | stopped
  deriving DecidableEq, Repr

structure Worker where
  seen : Nat := 0
  work : Work := .waiting
  deriving DecidableEq, Repr

inductive WorkerInput where
  /-- The request slot has changed. -/
  | take
  /-- The collection ends in an error. -/
  | fail
  /-- Every sender of the request slot is gone. -/
  | close
  deriving DecidableEq, Repr

inductive WorkerObs where
  | took (requestId : Nat)
  | failed
  | closed
  deriving DecidableEq, Repr

namespace Worker

/-- Number 0 is the slot's initial value and asks for nothing. -/
def take (k : Worker) (slot : Slot Nat) : Option (List WorkerObs × Worker) :=
  if k.work = .waiting ∧ slot.hasChanged k.seen = true then
    if slot.value = 0 then some ([], { k with seen := slot.version })
    else some ([.took slot.value], ⟨slot.version, .collecting slot.value⟩)
  else none

def hear (k : Worker) : Obs → Option Worker
  | .replaced message =>
    if k.work = .collecting message.requestId then some { k with work := .waiting } else none
  | _ => some k

def act (w : World) (k : Worker) : WorkerInput → Option (List WorkerObs × Worker)
  | .take => k.take w.requests
  | .fail =>
    match k.work with
    | .collecting _ => some ([.failed], { k with work := .stopped })
    | _ => none
  | .close =>
    if k.work = .waiting ∧ w.requests.hasChanged k.seen = false then
      some ([.closed], { k with work := .stopped }) else none

/-- Nothing is left to take. -/
def Rests (k : Worker) (slot : Slot Nat) : Prop :=
  k.work = .waiting ∧ slot.hasChanged k.seen = false

end Worker

/-- The worker as the supervisor's partner: only it replaces the state slot. -/
def collectionWorker : Partner World Obs Worker WorkerInput WorkerObs where
  initial := {}
  hear := Worker.hear
  act w k i := k.act w i

/-- The supervisor, the worker and every other holder of the request slot. -/
def daemon (rules : ClientRules) (settings : MqttSettings) (discoveryPayload : String) :
    Machine (World × Worker) (Input ⊕ WorkerInput) (Obs ⊕ WorkerObs) :=
  (supervisor rules settings discoveryPayload).beside collectionWorker

theorem hearAll_silent (k k' : Worker) (emitted : List Obs)
    (silent : ∀ o ∈ emitted, ∀ m, o ≠ .replaced m)
    (heard : collectionWorker.hearAll k emitted = some k') : k' = k := by
  induction emitted with
  | nil => exact (Option.some.inj heard).symm
  | cons o rest ih =>
    have passes : collectionWorker.hear k o = some k := by
      cases o with
      | replaced m => exact absurd rfl (silent _ (by simp) m)
      | _ => rfl
    simp only [Partner.hearAll, passes, Option.bind_some] at heard
    exact ih (fun a member => silent a (by simp [member])) heard

theorem hearAll_replaced (k k' : Worker) (m : StateMessage)
    (heard : collectionWorker.hearAll k [.replaced m] = some k') :
    k.work = .collecting m.requestId ∧ k' = { k with work := .waiting } := by
  simp only [Partner.hearAll, collectionWorker, Worker.hear] at heard
  split at heard
  · rename_i collecting
    exact ⟨collecting, (Option.some.inj heard).symm⟩
  · contradiction

/-- What the worker can do on its own. -/
theorem act_cases (w : World) (k k' : Worker) (i : WorkerInput) (emitted : List WorkerObs)
    (taken : Worker.act w k i = some (emitted, k')) :
    k.work = .waiting ∧ w.requests.value = 0 ∧ emitted = [] ∧
        k' = { k with seen := w.requests.version } ∨
      k.work = .waiting ∧ w.requests.value ≠ 0 ∧ emitted = [.took w.requests.value] ∧
        k' = ⟨w.requests.version, .collecting w.requests.value⟩ ∨
      emitted ∈ [[.failed], [.closed]] ∧ k' = { k with work := .stopped } := by
  cases i with
  | take =>
    simp only [Worker.act, Worker.take] at taken
    split at taken
    · rename_i changed
      split at taken
      · rename_i zero
        obtain ⟨rfl, rfl⟩ := Prod.mk.inj (Option.some.inj taken)
        exact .inl ⟨changed.1, zero, rfl, rfl⟩
      · rename_i positive
        obtain ⟨rfl, rfl⟩ := Prod.mk.inj (Option.some.inj taken)
        exact .inr (.inl ⟨changed.1, positive, rfl, rfl⟩)
    · contradiction
  | fail =>
    cases work : k.work with
    | collecting id =>
      simp only [Worker.act, work, Option.some.injEq, Prod.mk.injEq] at taken
      obtain ⟨rfl, rfl⟩ := taken
      exact .inr (.inr ⟨by simp, rfl⟩)
    | waiting | stopped => simp [Worker.act, work] at taken
  | close =>
    simp only [Worker.act] at taken
    split at taken
    · obtain ⟨rfl, rfl⟩ := Prod.mk.inj (Option.some.inj taken)
      exact .inr (.inr ⟨by simp, rfl⟩)
    · contradiction

end RpiHealth
