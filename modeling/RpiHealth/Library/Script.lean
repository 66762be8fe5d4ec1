import RpiHealth.Library.Commands

/-! Scripts over a file tree that stop at the first failure. What was done before stays done. -/
namespace Files

inductive Stop where
  | died (message : String)
  /-- A command that was not asked about failed. -/
  | failed (command : String)
  deriving DecidableEq, Repr

abbrev Script := EStateM Stop FileTree

namespace Script

variable {α β : Type}

def inquire (question : FileTree → α) : Script α := fun t => .ok (question t) t

def demand (message : String) (holds : FileTree → Bool) : Script Unit :=
  fun t => if holds t then .ok () t else .error (.died message) t

/-- What a command prints, if it succeeds. -/
def capture (message : String) (question : FileTree → Option α) : Script α :=
  fun t => match question t with
    | some a => .ok a t
    | none => .error (.died message) t

def execute (command : String) (effect : FileTree → Option FileTree) : Script Unit :=
  fun t => match effect t with
    | some u => .ok () u
    | none => .error (.failed command) t

/-- A command whose failure is passed over. -/
def attempt (effect : FileTree → Option FileTree) : Script Unit :=
  fun t => .ok () ((effect t).getD t)

def inOrder (steps : List (Script Unit)) : Script Unit := steps.forM id

/-- However it ends, the tree is as it was. -/
def ReadOnly (s : Script α) : Prop := ∀ t, (∃ a, s t = .ok a t) ∨ ∃ why, s t = .error why t

def Passes (s : Script Unit) (t : FileTree) : Prop := s t = .ok () t

theorem bind_ok (x : Script α) (f : α → Script β) (t u : FileTree) (a : α) (ran : x t = .ok a u) :
    (x >>= f) t = f a u := by
  change EStateM.bind x f t = f a u
  rw [EStateM.bind, ran]

theorem bind_error (x : Script α) (f : α → Script β) (t u : FileTree) (why : Stop)
    (stopped : x t = .error why u) : (x >>= f) t = .error why u := by
  change EStateM.bind x f t = _
  rw [EStateM.bind, stopped]

theorem execute_ok (command : String) (effect : FileTree → Option FileTree) (t u : FileTree)
    (done : effect t = some u) : execute command effect t = .ok () u := by
  rw [execute, done]

/-! What only looks. -/

theorem readOnly_pure (a : α) : ReadOnly (pure a) := fun _ => .inl ⟨a, rfl⟩

theorem readOnly_inquire (question : FileTree → α) : ReadOnly (inquire question) :=
  fun t => .inl ⟨question t, rfl⟩

theorem readOnly_capture (message : String) (question : FileTree → Option α) :
    ReadOnly (capture message question) := by
  intro t
  unfold capture
  split
  · rename_i a _
    exact .inl ⟨a, rfl⟩
  · exact .inr ⟨.died message, rfl⟩

theorem readOnly_demand (message : String) (holds : FileTree → Bool) :
    ReadOnly (demand message holds) := by
  intro t
  unfold demand
  split
  · exact .inl ⟨(), rfl⟩
  · exact .inr ⟨.died message, rfl⟩

theorem readOnly_bind (x : Script α) (f : α → Script β) (first : ReadOnly x)
    (next : ∀ a, ReadOnly (f a)) : ReadOnly (x >>= f) := by
  intro t
  rcases first t with ⟨a, ran⟩ | ⟨why, stopped⟩
  · rw [bind_ok x f t t a ran]
    exact next a t
  · exact .inr ⟨why, bind_error x f t t why stopped⟩

theorem readOnly_inOrder (steps : List (Script Unit)) (each : ∀ s ∈ steps, ReadOnly s) :
    ReadOnly (inOrder steps) := by
  induction steps with
  | nil => exact readOnly_pure ()
  | cons s steps ih =>
    refine readOnly_bind s _ (each s List.mem_cons_self) (fun _ => ?_)
    exact ih (fun other member => each other (List.mem_cons_of_mem _ member))

theorem passes_or_stops (s : Script Unit) (readOnly : ReadOnly s) (t : FileTree) :
    Passes s t ∨ ∃ why, s t = .error why t := by
  rcases readOnly t with ⟨⟨⟩, ran⟩ | stopped
  · exact .inl ran
  · exact .inr stopped

theorem passes_demand (message : String) (holds : FileTree → Bool) (t : FileTree) :
    Passes (demand message holds) t ↔ holds t = true := by
  unfold Passes demand
  split <;> simp_all

theorem passes_inquire (question : FileTree → α) (f : α → Script Unit) (t : FileTree) :
    Passes (inquire question >>= f) t ↔ Passes (f (question t)) t := Iff.rfl

theorem passes_capture (message : String) (question : FileTree → Option α) (f : α → Script Unit)
    (t : FileTree) :
    Passes (capture message question >>= f) t ↔ ∃ a, question t = some a ∧ Passes (f a) t := by
  cases answer : question t with
  | none =>
    have stopped : capture message question t = .error (.died message) t := by
      rw [capture, answer]
    rw [Passes, bind_error _ f t t _ stopped]
    exact iff_of_false nofun nofun
  | some a =>
    have ran : capture message question t = .ok a t := by rw [capture, answer]
    rw [Passes, bind_ok _ f t t a ran]
    simp [Passes]

theorem passes_seq (x y : Script Unit) (readOnly : ReadOnly x) (t : FileTree) :
    Passes (x >>= fun _ => y) t ↔ Passes x t ∧ Passes y t := by
  rcases passes_or_stops x readOnly t with ran | ⟨why, stopped⟩
  · rw [Passes, bind_ok x _ t t () ran]
    exact (and_iff_right ran).symm
  · rw [Passes, bind_error x _ t t why stopped, Passes, stopped]
    simp

theorem passes_inOrder (steps : List (Script Unit)) (each : ∀ s ∈ steps, ReadOnly s)
    (t : FileTree) : Passes (inOrder steps) t ↔ ∀ s ∈ steps, Passes s t := by
  induction steps with
  | nil => exact ⟨nofun, fun _ => rfl⟩
  | cons s steps ih =>
    have rest := ih (fun other member => each other (List.mem_cons_of_mem _ member))
    rw [List.forall_mem_cons, ← rest]
    exact passes_seq s (inOrder steps) (each s List.mem_cons_self) t

end Script

end Files
