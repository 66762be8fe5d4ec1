import Mathlib.Logic.Function.Basic

/-! A word combined with a shift of itself. The lowest, or highest, bits of the word are
left as they are, and each of them frees another, so that no word is lost. -/
namespace XorShift

variable {w : Nat}

def left (k : Nat) (x : BitVec w) : BitVec w := x ^^^ (x <<< k)

def right (k : Nat) (x : BitVec w) : BitVec w := x ^^^ (x >>> k)

theorem left_bit (k : Nat) (x : BitVec w) (i : Nat) (inside : i < w) :
    (left k x).getLsbD i = (x.getLsbD i ^^ (!decide (i < k) && x.getLsbD (i - k))) := by
  rw [left, BitVec.getLsbD_xor, BitVec.getLsbD_shiftLeft, decide_eq_true inside, Bool.true_and]

theorem right_bit (k : Nat) (x : BitVec w) (i : Nat) :
    (right k x).getLsbD i = (x.getLsbD i ^^ x.getLsbD (k + i)) := by
  simp [right]

/-- From the lowest bit up: a bit is freed by the one that many places below. -/
theorem left_injective (k : Nat) (positive : 0 < k) :
    Function.Injective (left k : BitVec w → BitVec w) := by
  intro x y same
  have bits (i : Nat) (inside : i < w) : x.getLsbD i = y.getLsbD i := by
    induction i using Nat.strongRecOn with
    | ind i ih =>
      have here := congrArg (fun word => word.getLsbD i) same
      simp only [left_bit k _ i inside] at here
      by_cases low : i < k
      · simpa [low] using here
      · have below := ih (i - k) (by omega) (by omega)
        rw [below] at here
        exact Bool.xor_left_inj.mp here
  exact BitVec.eq_of_getLsbD_eq bits

/-- From the highest bit down. -/
theorem right_injective (k : Nat) (positive : 0 < k) :
    Function.Injective (right k : BitVec w → BitVec w) := by
  intro x y same
  have bits (d i : Nat) (depth : w ≤ i + d) : x.getLsbD i = y.getLsbD i := by
    induction d using Nat.strongRecOn generalizing i with
    | ind d ih =>
      by_cases inside : i < w
      · have here := congrArg (fun word => word.getLsbD i) same
        simp only [right_bit] at here
        have above := ih (d - k) (by omega) (k + i) (by omega)
        rw [above] at here
        exact Bool.xor_left_inj.mp here
      · rw [BitVec.getLsbD_of_ge x i (by omega), BitVec.getLsbD_of_ge y i (by omega)]
  exact BitVec.eq_of_getLsbD_eq (fun i _ => bits w i (by omega))

theorem left_zero (k : Nat) : left k (0 : BitVec w) = 0 := by simp [left]

theorem right_zero (k : Nat) : right k (0 : BitVec w) = 0 := by simp [right]

theorem left_nonzero (k : Nat) (positive : 0 < k) (x : BitVec w) (nonzero : x ≠ 0) :
    left k x ≠ 0 := fun vanished =>
  nonzero (left_injective k positive (vanished.trans (left_zero k).symm))

theorem right_nonzero (k : Nat) (positive : 0 < k) (x : BitVec w) (nonzero : x ≠ 0) :
    right k x ≠ 0 := fun vanished =>
  nonzero (right_injective k positive (vanished.trans (right_zero k).symm))

end XorShift
