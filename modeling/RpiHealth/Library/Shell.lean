import RpiHealth.Library.Script
import RpiHealth.Library.U64

/-! Scripts over any state that stop at the first failure: what a run that got through has
met on its way, step by step. -/
namespace Shell
open Files

abbrev Steps (S A : Type) := EStateM Stop S A

variable {S A B : Type}

/-- What only looks at the state, and may have something against it. -/
def judge (verdict : S → Except String A) : Steps S A :=
  fun s => match verdict s with
    | .ok a => .ok a s
    | .error message => .error (.died message) s

def act (command : String) (effect : S → Option S) : Steps S Unit :=
  fun s => match effect s with
    | some t => .ok () t
    | none => .error (.failed command) s

@[simp] theorem ensure_ok {E : Type} (passes : Prop) [Decidable passes] (error : E) (done : Unit) :
    ensure passes error = .ok done ↔ passes := by
  by_cases holds : passes
  · simp [ensure, holds]
  · simp [ensure, holds]

@[simp] theorem ran_pure (a b : A) (s t : S) :
    (pure a : Steps S A) s = .ok b t ↔ b = a ∧ t = s := by
  change EStateM.Result.ok a s = .ok b t ↔ _
  simp only [EStateM.Result.ok.injEq]
  exact and_congr eq_comm eq_comm

@[simp] theorem ran_judge (verdict : S → Except String A) (a : A) (s t : S) :
    judge verdict s = .ok a t ↔ verdict s = .ok a ∧ t = s := by
  unfold judge
  cases verdict s with
  | error message => simp
  | ok b =>
    simp only [EStateM.Result.ok.injEq, Except.ok.injEq]
    exact and_congr_right (fun _ => eq_comm)

@[simp] theorem ran_act (command : String) (effect : S → Option S) (done : Unit) (s t : S) :
    act command effect s = .ok done t ↔ effect s = some t := by
  unfold act
  cases effect s with
  | none => simp
  | some u => simp

/-- The two halves of a script that got through. -/
@[simp] theorem ran_bind (x : Steps S A) (f : A → Steps S B) (b : B) (s t : S) :
    (x >>= f) s = .ok b t ↔ ∃ a u, x s = .ok a u ∧ f a u = .ok b t := by
  change EStateM.bind x f s = .ok b t ↔ _
  unfold EStateM.bind
  cases x s with
  | error why u => simp
  | ok a u => simp

end Shell
