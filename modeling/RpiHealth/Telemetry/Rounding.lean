import RpiHealth.Library.Rounding
import RpiHealth.Telemetry.Payload

/-! What the payload's rounding does to a measurement. -/
namespace RpiHealth

/-- The rounded measurement of a number: a nearest multiple, and no negative zero. -/
structure RoundedTo (decimalPlaces : Nat) (value rounded : F64) : Prop where
  numbers : ∃ x r, value.value? = some x ∧ rounded.value? = some r ∧
    F64.NearestMultiple (1 / 10 ^ decimalPlaces) x r
  zero : rounded.value? = some 0 → rounded.isSignNegative = false

/-- So many units of the last place. -/
def inUnits (negative : Bool) (units decimalPlaces : Nat) : F64 :=
  if units = 0 then F64.ofNat 0
  else F64.ofMagnitude negative ((units : ℚ≥0) / ((10 ^ decimalPlaces : Nat) : ℚ≥0))

/-- The measurement's place among the units. -/
def scaled (x : ℚ≥0) (decimalPlaces : Nat) : ℚ≥0 := x * ((10 ^ decimalPlaces : Nat) : ℚ≥0)

theorem quotient_le_max (y : ℚ≥0) (decimalPlaces : Nat) (within : y ≤ F64.MAX) :
    y / ((10 ^ decimalPlaces : Nat) : ℚ≥0) ≤ F64.MAX := by
  have at_least : (1 : ℚ≥0) ≤ ((10 ^ decimalPlaces : Nat) : ℚ≥0) :=
    Nat.one_le_cast.mpr (Nat.pow_pos (by decide))
  exact (div_le_self zero_le at_least).trans within

/-- The rounded measurement in closed form. -/
theorem roundedMetric_finite (negative : Bool) (x : ℚ≥0) (within : x ≤ F64.MAX)
    (decimalPlaces : Nat) (few : decimalPlaces ≤ 2) (small : scaled x decimalPlaces ≤ F64.MAX) :
    roundedMetric (.finite negative x within) decimalPlaces =
      some (inUnits negative (F64.nearest (scaled x decimalPlaces)) decimalPlaces) := by
  have places : ¬ 2 ^ 31 ≤ decimalPlaces := by omega
  have positive : 0 < 10 ^ decimalPlaces := Nat.pow_pos (by decide)
  have nonzero : ((10 ^ decimalPlaces : Nat) : ℚ≥0) ≠ 0 := Nat.cast_ne_zero.mpr positive.ne'
  have rounded : (F64.nearest (scaled x decimalPlaces) : ℚ≥0) ≤ F64.MAX :=
    F64.nearest_le_max _ small
  have quotient := quotient_le_max _ decimalPlaces rounded
  have factor : F64.ofNat (10 ^ decimalPlaces) =
      .finite false _ (factor_le_max decimalPlaces few) := F64.ofMagnitude_of_le _ _ _
  have factor_finite : (F64.ofNat (10 ^ decimalPlaces)).isFinite = true := by
    rw [factor, F64.finite_isFinite]
  have product : F64.finite negative x within * F64.ofNat (10 ^ decimalPlaces) =
      .finite negative (scaled x decimalPlaces) small := by
    rw [factor, F64.finite_mul, Bool.xor_false]
    exact F64.ofMagnitude_of_le _ _ small
  have result : (F64.finite negative x within * F64.ofNat (10 ^ decimalPlaces)).round /
      F64.ofNat (10 ^ decimalPlaces) = .finite negative _ quotient := by
    rw [product, F64.round_finite, factor, F64.finite_div _ _ _ _ _ _ nonzero, Bool.xor_false]
    exact F64.ofMagnitude_of_le _ _ quotient
  simp only [roundedMetric, result, factor_finite, F64.finite_isFinite, Bool.true_eq_false,
    if_false, if_neg places, inUnits, F64.ofMagnitude_of_le _ _ quotient, Option.some.injEq]
  by_cases none_left : F64.nearest (scaled x decimalPlaces) = 0
  · simp [none_left, F64.isZero]
  · simp [none_left, F64.isZero]

theorem inUnits_finite (negative : Bool) (units decimalPlaces : Nat)
    (within : (units : ℚ≥0) ≤ F64.MAX) : ∃ sign magnitude small,
      inUnits negative units decimalPlaces = .finite sign magnitude small ∧
      scaled magnitude decimalPlaces = units ∧ (sign = negative ∨ units = 0) ∧
      (units = 0 → sign = false) := by
  have nonzero : ((10 ^ decimalPlaces : Nat) : ℚ≥0) ≠ 0 :=
    Nat.cast_ne_zero.mpr (Nat.pow_pos (by decide)).ne'
  unfold inUnits
  by_cases none_left : units = 0
  · refine ⟨false, 0, zero_le, ?_, ?_, .inr none_left, fun _ => rfl⟩
    · rw [if_pos none_left, F64.ofNat, Nat.cast_zero]
      exact F64.ofMagnitude_of_le _ _ zero_le
    · rw [scaled, zero_mul, none_left, Nat.cast_zero]
  · refine ⟨negative, _, quotient_le_max _ decimalPlaces within, ?_, ?_, .inl rfl,
      fun zero => absurd zero none_left⟩
    · rw [if_neg none_left]
      exact F64.ofMagnitude_of_le _ _ _
    · exact div_mul_cancel₀ _ nonzero

/-- Units are kept by another rounding. -/
theorem roundedMetric_inUnits (negative : Bool) (units decimalPlaces : Nat)
    (few : decimalPlaces ≤ 2) (within : (units : ℚ≥0) ≤ F64.MAX) :
    roundedMetric (inUnits negative units decimalPlaces) decimalPlaces =
      some (inUnits negative units decimalPlaces) := by
  obtain ⟨sign, magnitude, small, same, place, signs, -⟩ :=
    inUnits_finite negative units decimalPlaces within
  have fits : scaled magnitude decimalPlaces ≤ F64.MAX := place ▸ within
  rw [same, roundedMetric_finite sign magnitude small decimalPlaces few fits, place,
    F64.nearest_natCast, ← same]
  rcases signs with rfl | none_left
  · rfl
  · simp only [inUnits, if_pos none_left]

theorem inUnits_value (negative : Bool) (units decimalPlaces : Nat)
    (within : (units : ℚ≥0) ≤ F64.MAX) : (inUnits negative units decimalPlaces).value? =
      some (if negative then -(units * (1 / 10 ^ decimalPlaces) : ℚ)
        else units * (1 / 10 ^ decimalPlaces)) := by
  unfold inUnits
  by_cases none_left : units = 0
  · rw [if_pos none_left, none_left, F64.ofNat_value 0 (by decide)]
    simp
  · rw [if_neg none_left, F64.ofMagnitude_of_le _ _ (quotient_le_max _ decimalPlaces within),
      F64.value?, mul_one_div]
    push_cast
    rfl

/-- Negative zero is not among them. -/
theorem inUnits_zero (negative : Bool) (units decimalPlaces : Nat)
    (within : (units : ℚ≥0) ≤ F64.MAX)
    (zero : (inUnits negative units decimalPlaces).value? = some 0) :
    (inUnits negative units decimalPlaces).isSignNegative = false := by
  have none_left : units = 0 := by
    have value := (inUnits_value negative units decimalPlaces within).symm.trans zero
    by_contra some_left
    have positive : (0 : ℚ) < units * (1 / 10 ^ decimalPlaces) := by
      have : 0 < units := Nat.pos_of_ne_zero some_left
      positivity
    cases negative with
    | true => exact absurd (Option.some.inj value) (neg_ne_zero.mpr positive.ne')
    | false => exact absurd (Option.some.inj value) positive.ne'
  obtain ⟨sign, magnitude, small, same, -, -, signs⟩ :=
    inUnits_finite negative units decimalPlaces within
  rw [same, F64.isSignNegative]
  exact signs none_left

/-- Rounding gives the nearest multiple of the precision, and rounding again changes nothing. -/
theorem roundedMetric_law (value : F64) (decimalPlaces : Nat) (few : decimalPlaces ≤ 2)
    (roundable : Roundable value decimalPlaces) :
    ∃ rounded, roundedMetric value decimalPlaces = some rounded ∧
      RoundedTo decimalPlaces value rounded ∧ rounded.isFinite = true ∧
      roundedMetric rounded decimalPlaces = some rounded := by
  obtain ⟨negative, x, within, rfl, small⟩ := roundable
  have units : (F64.nearest (scaled x decimalPlaces) : ℚ≥0) ≤ F64.MAX :=
    F64.nearest_le_max _ small
  have unit : (0 : ℚ) < 1 / 10 ^ decimalPlaces := by positivity
  have place : (x : ℚ) = scaled x decimalPlaces * (1 / 10 ^ decimalPlaces) := by
    have power : (10 : ℚ) ^ decimalPlaces ≠ 0 := by positivity
    rw [scaled, mul_one_div]
    push_cast
    exact (mul_div_cancel_right₀ _ power).symm
  have magnitude := F64.nearestMultiple_of_nearest _ unit x _ place
  refine ⟨_, roundedMetric_finite negative x within decimalPlaces few small, ⟨?_, ?_⟩, ?_,
    roundedMetric_inUnits negative _ decimalPlaces few units⟩
  · cases negative with
    | true => exact ⟨-(x : ℚ), _, rfl, inUnits_value true _ decimalPlaces units, magnitude.neg⟩
    | false => exact ⟨x, _, rfl, inUnits_value false _ decimalPlaces units, magnitude⟩
  · exact inUnits_zero negative _ decimalPlaces units
  · obtain ⟨sign, _, fits, same, -⟩ := inUnits_finite negative _ decimalPlaces units
    rw [same, F64.finite_isFinite]

end RpiHealth
