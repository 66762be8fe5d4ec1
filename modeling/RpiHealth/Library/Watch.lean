import Mathlib.Order.Basic

/-! A latest-value cell: a sender replaces the value and a receiver remembers
the version it last looked at, so a burst of values leaves only the newest. -/
namespace Watch

structure Slot (A : Type u) where
  value : A
  version : Nat
  deriving DecidableEq, Repr

namespace Slot

variable {A : Type u}

def channel (a : A) : Slot A := ⟨a, 0⟩

def sendReplace (s : Slot A) (a : A) : Slot A := ⟨a, s.version + 1⟩

def sendModify (s : Slot A) (f : A → A) : Slot A := ⟨f s.value, s.version + 1⟩

/-- A receiver that last looked at the given version has something to see. -/
def hasChanged (s : Slot A) (seen : Nat) : Bool := decide (seen ≠ s.version)

@[simp] theorem channel_value (a : A) : (channel a).value = a := rfl
@[simp] theorem channel_version (a : A) : (channel a).version = 0 := rfl
@[simp] theorem sendReplace_value (s : Slot A) (a : A) : (s.sendReplace a).value = a := rfl
@[simp] theorem sendReplace_version (s : Slot A) (a : A) :
    (s.sendReplace a).version = s.version + 1 := rfl
@[simp] theorem sendModify_value (s : Slot A) (f : A → A) : (s.sendModify f).value = f s.value := rfl
@[simp] theorem sendModify_version (s : Slot A) (f : A → A) :
    (s.sendModify f).version = s.version + 1 := rfl

theorem hasChanged_eq_false (s : Slot A) (seen : Nat) :
    s.hasChanged seen = false ↔ seen = s.version := by
  simp [hasChanged]

end Slot

end Watch
