import RpiHealth.Library.F64

/-! Rounding to the nearest multiple of a unit, and away from zero in the middle. -/
namespace F64

structure NearestMultiple (unit x r : ℚ) : Prop where
  multiple : ∃ k : ℤ, r = k * unit
  nearest : ∀ k : ℤ, |r - x| ≤ |k * unit - x|
  close : |r - x| ≤ unit / 2
  /-- In the middle the larger magnitude is taken. -/
  ties : |r - x| = unit / 2 → |x| < |r|

/-- The nearest integer, and the larger one in the middle. -/
def nearest (y : ℚ≥0) : ℕ := (2 * y.num + y.den) / (2 * y.den)

theorem nearest_le (y : ℚ≥0) : (nearest y : ℚ) ≤ y + 1 / 2 := by
  have positive : (0 : ℚ) < y.den := by exact_mod_cast y.den_pos
  have whole : nearest y * (2 * y.den) ≤ 2 * y.num + y.den := Nat.div_mul_le_self _ _
  have cleared : (nearest y : ℚ) * (2 * y.den) ≤ 2 * y.num + y.den := by exact_mod_cast whole
  have quotient : (y : ℚ) * y.den = y.num := by exact_mod_cast NNRat.mul_den_eq_num y
  nlinarith

theorem lt_nearest (y : ℚ≥0) : (y : ℚ) + 1 / 2 < nearest y + 1 := by
  have positive : (0 : ℚ) < y.den := by exact_mod_cast y.den_pos
  have whole : 2 * y.num + y.den < (nearest y + 1) * (2 * y.den) :=
    Nat.lt_mul_of_div_lt (Nat.lt_succ_self _) (by have := y.den_pos; omega)
  have cleared : 2 * (y.num : ℚ) + y.den < (nearest y + 1) * (2 * y.den) := by
    exact_mod_cast whole
  have quotient : (y : ℚ) * y.den = y.num := by exact_mod_cast NNRat.mul_den_eq_num y
  nlinarith

theorem nearest_natCast (n : Nat) : nearest n = n := by
  have low := nearest_le n
  have high := lt_nearest n
  push_cast at low high
  have upper : nearest n < n + 1 := by
    have : (nearest n : ℚ) < n + 1 := by linarith
    exact_mod_cast this
  have lower : n < nearest n + 1 := by
    have : (n : ℚ) < nearest n + 1 := by linarith
    exact_mod_cast this
  omega

theorem nearest_le_max (x : ℚ≥0) (within : x ≤ MAX) : (nearest x : ℚ≥0) ≤ MAX :=
  rounded_le_max x within

theorem round_finite (negative : Bool) (x : ℚ≥0) (within : x ≤ MAX) :
    (F64.finite negative x within).round =
      .finite negative (nearest x) (nearest_le_max x within) :=
  ofMagnitude_of_le negative (nearest x) (nearest_le_max x within)

theorem finite_isFinite (negative : Bool) (x : ℚ≥0) (within : x ≤ MAX) :
    (F64.finite negative x within).isFinite = true := rfl

/-- What lies within half a unit of a multiple is at least that far from all others. -/
theorem nearest_of_close (unit x r : ℚ) (positive : 0 < unit) (k : ℤ) (multiple : r = k * unit)
    (close : |r - x| ≤ unit / 2) (other : ℤ) : |r - x| ≤ |other * unit - x| := by
  by_cases same : other = k
  · rw [same, multiple]
  · have apart : (1 : ℚ) ≤ |(other : ℚ) - k| := by
      have : 1 ≤ |other - k| := Int.one_le_abs (sub_ne_zero.mpr same)
      exact_mod_cast this
    have distance : unit ≤ |other * unit - r| := by
      rw [multiple, ← sub_mul, abs_mul, abs_of_pos positive]
      nlinarith
    have triangle : |other * unit - r| ≤ |other * unit - x| + |r - x| := by
      rw [abs_sub_comm r x]
      exact abs_sub_le _ _ _
    linarith

/-- A number that is not negative, divided into whole units. -/
theorem nearestMultiple_of_nearest (unit : ℚ) (positive : 0 < unit) (x : ℚ) (y : ℚ≥0)
    (units : x = y * unit) : NearestMultiple unit x (nearest y * unit) := by
  have low := nearest_le y
  have high := lt_nearest y
  have difference : (nearest y : ℚ) * unit - x = (nearest y - y) * unit := by rw [units]; ring
  have close : |(nearest y : ℚ) * unit - x| ≤ unit / 2 := by
    rw [difference, abs_mul, abs_of_pos positive]
    have : |(nearest y : ℚ) - y| ≤ 1 / 2 := abs_le.mpr ⟨by linarith, by linarith⟩
    nlinarith
  refine ⟨⟨nearest y, by push_cast; rfl⟩, ?_, close, ?_⟩
  · exact nearest_of_close unit x _ positive (nearest y) (by push_cast; rfl) close
  · intro half
    -- the integer below is further than half a unit away, so this is the one above
    rw [difference, abs_mul, abs_of_pos positive] at half
    have distance : |(nearest y : ℚ) - y| = 1 / 2 := by
      have : |(nearest y : ℚ) - y| * unit = 1 / 2 * unit := by linarith
      exact mul_right_cancel₀ positive.ne' this
    have above : (nearest y : ℚ) - y = 1 / 2 := by
      rcases abs_choice ((nearest y : ℚ) - y) with same | opposite
      · rw [← same, distance]
      · rw [opposite] at distance
        linarith
    have y_nonneg : (0 : ℚ) ≤ y := NNRat.cast_nonneg y
    rw [units, abs_mul, abs_mul, abs_of_pos positive, abs_of_nonneg y_nonneg,
      abs_of_nonneg (by linarith : (0 : ℚ) ≤ nearest y)]
    nlinarith

theorem NearestMultiple.neg {unit x r : ℚ} (rounds : NearestMultiple unit x r) :
    NearestMultiple unit (-x) (-r) := by
  have same (s : ℚ) : |-s - -x| = |s - x| := by
    rw [neg_sub_neg, abs_sub_comm]
  obtain ⟨k, multiple⟩ := rounds.multiple
  refine ⟨⟨-k, by rw [multiple]; push_cast; ring⟩, ?_, ?_, ?_⟩
  · intro other
    have here := rounds.nearest (-other)
    rw [same]
    calc |r - x| ≤ |((-other : ℤ) : ℚ) * unit - x| := here
      _ = |-(other * unit) - x| := by push_cast; rw [neg_mul]
      _ = |other * unit - -x| := by rw [← abs_neg]; congr 1; ring
  · rw [same]
    exact rounds.close
  · rw [same, abs_neg, abs_neg]
    exact rounds.ties

end F64
