import Mathlib.Data.List.Sort
import Mathlib.Data.String.Basic

/-! A list sorted and stripped of its repetitions: a canonical form of the set of its
members. -/
namespace Sorting

variable {A : Type u} [LinearOrder A]

/-- Of equal neighbours one is kept. -/
def dedup : List A → List A
  | [] => []
  | [a] => [a]
  | a :: b :: rest => if a = b then dedup (b :: rest) else a :: dedup (b :: rest)

def sortDedup (values : List A) : List A := dedup (values.mergeSort (fun a b => decide (a ≤ b)))

theorem mem_dedup (a : A) (values : List A) : a ∈ dedup values ↔ a ∈ values := by
  fun_induction dedup values with
  | case1 => rfl
  | case2 b => rfl
  | case3 b rest ih =>
    rw [ih]
    simp
  | case4 b c rest other ih => rw [List.mem_cons, ih, ← List.mem_cons]

theorem dedup_increasing (values : List A) (sorted : values.Pairwise (· ≤ ·)) :
    (dedup values).Pairwise (· < ·) := by
  fun_induction dedup values with
  | case1 => exact .nil
  | case2 b => exact List.pairwise_singleton _ _
  | case3 b rest ih => exact ih (List.pairwise_cons.mp sorted).2
  | case4 b c rest other ih =>
    obtain ⟨least, later⟩ := List.pairwise_cons.mp sorted
    refine List.pairwise_cons.mpr ⟨fun d member => ?_, ih later⟩
    have before : b < c := lt_of_le_of_ne (least c List.mem_cons_self) other
    rcases List.mem_cons.mp ((mem_dedup d (c :: rest)).mp member) with rfl | member
    · exact before
    · exact lt_of_lt_of_le before ((List.pairwise_cons.mp later).1 d member)

@[simp] theorem mem_sortDedup (a : A) (values : List A) : a ∈ sortDedup values ↔ a ∈ values := by
  rw [sortDedup, mem_dedup, List.mem_mergeSort]

theorem sortDedup_increasing (values : List A) : (sortDedup values).Pairwise (· < ·) := by
  apply dedup_increasing
  have sorted : (values.mergeSort (fun a b => decide (a ≤ b))).Pairwise
      (fun a b => decide (a ≤ b) = true) := by
    apply List.pairwise_mergeSort
    · intro a b c first second
      exact decide_eq_true (le_trans (of_decide_eq_true first) (of_decide_eq_true second))
    · intro a b
      simpa using le_total a b
  exact sorted.imp (fun h => of_decide_eq_true h)

/-- The only increasing list with these members. -/
theorem sortDedup_unique (values other : List A) (increasing : other.Pairwise (· < ·))
    (members : ∀ a, a ∈ other ↔ a ∈ values) : other = sortDedup values := by
  have same : other.Perm (sortDedup values) := by
    refine (List.perm_ext_iff_of_nodup ?_ ?_).mpr (fun a => by rw [members, mem_sortDedup])
    · exact increasing.imp (fun h => ne_of_lt h)
    · exact (sortDedup_increasing values).imp (fun h => ne_of_lt h)
  exact same.eq_of_pairwise
    (fun a b _ _ first second => absurd (lt_trans first second) (lt_irrefl a))
    increasing (sortDedup_increasing values)

theorem sortDedup_eq_singleton (values : List A) (a : A) :
    sortDedup values = [a] ↔ values ≠ [] ∧ ∀ b ∈ values, b = a := by
  constructor
  · intro same
    have members : ∀ b, b ∈ values ↔ b = a := fun b => by
      rw [← mem_sortDedup, same, List.mem_singleton]
    exact ⟨List.ne_nil_of_mem ((members a).mpr rfl), fun b member => (members b).mp member⟩
  · rintro ⟨nonempty, all⟩
    refine (sortDedup_unique values [a] (List.pairwise_singleton _ _) (fun b => ?_)).symm
    rw [List.mem_singleton]
    constructor
    · rintro rfl
      obtain ⟨c, member⟩ := List.exists_mem_of_ne_nil values nonempty
      rwa [all c member] at member
    · exact all b

end Sorting
