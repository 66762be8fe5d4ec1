import RpiHealth.Library.Parsing
import Mathlib.Algebra.Order.Field.Basic
import Mathlib.Algebra.Order.Ring.Rat
import Mathlib.Data.NNRat.Lemmas
import Mathlib.Data.Rat.Cast.Order
import Mathlib.Tactic.NormNum
import Mathlib.Tactic.Linarith
import Mathlib.Tactic.GCongr
import Mathlib.Tactic.Positivity

/-! Double precision numbers, idealised: what is finite is an exact rational with a
sign of its own, and what is too large is infinite. -/

/-- The largest finite magnitude. -/
def F64.MAX : ℚ≥0 := (2 ^ 53 - 1 : ℕ) * 2 ^ 971

inductive F64 where
  | nan
  | infinite (negative : Bool)
  | finite (negative : Bool) (magnitude : ℚ≥0) (within : magnitude ≤ F64.MAX)
  deriving DecidableEq

namespace F64

/-- A magnitude out of range overflows. -/
def ofMagnitude (negative : Bool) (magnitude : ℚ≥0) : F64 :=
  if within : magnitude ≤ MAX then .finite negative magnitude within else .infinite negative

def ofNat (n : Nat) : F64 := ofMagnitude false n

def ofInt (n : Int) : F64 := ofMagnitude (n < 0) n.natAbs

def isFinite : F64 → Bool
  | .finite .. => true
  | _ => false

def isSignNegative : F64 → Bool
  | .nan => false
  | .infinite negative | .finite negative _ _ => negative

/-- The number that a finite one stands for. -/
def value? : F64 → Option ℚ
  | .finite negative magnitude _ => some (if negative then -(magnitude : ℚ) else magnitude)
  | _ => none

def mul : F64 → F64 → F64
  | .finite a x _, .finite b y _ => ofMagnitude (a ^^ b) (x * y)
  | .nan, _ | _, .nan => .nan
  | .infinite a, .infinite b => .infinite (a ^^ b)
  | .infinite a, .finite b y _ => if y = 0 then .nan else .infinite (a ^^ b)
  | .finite a x _, .infinite b => if x = 0 then .nan else .infinite (a ^^ b)

def div : F64 → F64 → F64
  | .finite a x _, .finite b y _ =>
    if y = 0 then if x = 0 then .nan else .infinite (a ^^ b)
    else ofMagnitude (a ^^ b) (x / y)
  | .nan, _ | _, .nan | .infinite _, .infinite _ => .nan
  | .infinite a, .finite b _ _ => .infinite (a ^^ b)
  | .finite a _ _, .infinite b => ofMagnitude (a ^^ b) 0

instance : Mul F64 := ⟨mul⟩
instance : Div F64 := ⟨div⟩

def isZero : F64 → Bool
  | .finite _ x _ => x == 0
  | _ => false

/-- To the nearest integer, and away from zero in the middle. -/
def round : F64 → F64
  | .finite negative x _ => ofMagnitude negative (((2 * x.num + x.den) / (2 * x.den) : ℕ) : ℚ≥0)
  | other => other

/-- The whole part of a number that is not negative. -/
def whole : F64 → Nat
  | .finite false x _ => x.num / x.den
  | _ => 0

/-! Decimal texts. -/

def lower (c : Char) : Char :=
  if 65 ≤ c.toNat ∧ c.toNat ≤ 90 then Char.ofNat (c.toNat + 32) else c

/-- Digits with at most one point, and one digit at least. -/
def mantissa (cs : List Char) : Option ℚ≥0 :=
  match Text.splitList '.' cs with
  | none => (Text.digits 10 cs).map (fun n => (n : ℚ≥0))
  | some (whole, fraction) =>
    (Text.digits 10 (whole ++ fraction)).map (fun n => (n : ℚ≥0) / 10 ^ fraction.length)

/-- A power of ten. -/
def exponent : List Char → Option ℚ≥0
  | '-' :: cs => (Text.digits 10 cs).map (fun n => 1 / 10 ^ n)
  | '+' :: cs => (Text.digits 10 cs).map (fun n => 10 ^ n)
  | cs => (Text.digits 10 cs).map (fun n => 10 ^ n)

def decimal (cs : List Char) : Option ℚ≥0 :=
  match cs.span (fun c => !(c == 'e' || c == 'E')) with
  | (front, []) => mantissa front
  | (front, _ :: back) => (mantissa front).bind (fun m => (exponent back).map (fun e => m * e))

def unsigned (negative : Bool) (cs : List Char) : Option F64 :=
  let word := String.ofList (cs.map lower)
  if word = "inf" ∨ word = "infinity" then some (.infinite negative)
  else if word = "nan" then some .nan
  else (decimal cs).map (ofMagnitude negative)

def parse (s : String) : Option F64 :=
  match s.toList with
  | '-' :: cs => unsigned true cs
  | '+' :: cs => unsigned false cs
  | cs => unsigned false cs

/-! What the operations do in range. -/

theorem ofMagnitude_of_le (negative : Bool) (x : ℚ≥0) (within : x ≤ MAX) :
    ofMagnitude negative x = .finite negative x within :=
  dif_pos within

theorem power_le_max (k : Nat) (small : k ≤ 1000) : (2 : ℚ≥0) ^ k ≤ MAX := by
  have factor : (2 : ℚ≥0) ^ 29 ≤ (2 ^ 53 - 1 : ℕ) := by norm_num
  calc (2 : ℚ≥0) ^ k ≤ 2 ^ 1000 := pow_le_pow_right₀ (by norm_num) small
    _ = 2 ^ 29 * 2 ^ 971 := by rw [← pow_add]
    _ ≤ MAX := by
      rw [MAX]
      gcongr

theorem finite_mul (a b : Bool) (x y : ℚ≥0) (small : x ≤ MAX) (other : y ≤ MAX) :
    F64.finite a x small * F64.finite b y other = ofMagnitude (a ^^ b) (x * y) := rfl

theorem finite_div (a b : Bool) (x y : ℚ≥0) (small : x ≤ MAX) (other : y ≤ MAX) (nonzero : y ≠ 0) :
    F64.finite a x small / F64.finite b y other = ofMagnitude (a ^^ b) (x / y) :=
  if_neg nonzero

theorem natCast_le_max (n : Nat) (small : n ≤ 2 ^ 100) : (n : ℚ≥0) ≤ MAX := by
  have cast : ((n : Nat) : ℚ≥0) ≤ ((2 ^ 100 : Nat) : ℚ≥0) := Nat.cast_le.mpr small
  apply le_trans cast
  rw [Nat.cast_pow]
  exact power_le_max 100 (by decide)

theorem ofNat_value (n : Nat) (small : n ≤ 2 ^ 100) : (ofNat n).value? = some (n : ℚ) := by
  rw [ofNat, ofMagnitude_of_le _ _ (natCast_le_max n small)]
  simp [value?]

theorem quotient_value (part whole : Nat) (positive : 0 < whole) (part_small : part ≤ 2 ^ 100)
    (whole_small : whole ≤ 2 ^ 100) :
    (ofNat part / ofNat whole).value? = some ((part : ℚ) / whole) := by
  have nonzero : (whole : ℚ≥0) ≠ 0 := by exact_mod_cast positive.ne'
  have at_least : (1 : ℚ≥0) ≤ whole := by exact_mod_cast positive
  have numerator := natCast_le_max part part_small
  have quotient : (part : ℚ≥0) / whole ≤ MAX := (div_le_self zero_le at_least).trans numerator
  rw [ofNat, ofNat, ofMagnitude_of_le _ _ numerator,
    ofMagnitude_of_le _ _ (natCast_le_max whole whole_small), finite_div _ _ _ _ _ _ nonzero,
    ofMagnitude_of_le _ _ quotient]
  simp only [value?]
  push_cast
  rfl

/-- A hundred times a part over its whole: nothing overflows on the way. -/
theorem percent_value (part whole : Nat) (positive : 0 < whole) (part_small : part < 2 ^ 64)
    (whole_small : whole < 2 ^ 64) :
    (ofNat 100 * ofNat part / ofNat whole).value? = some (100 * (part : ℚ) / whole) := by
  have product : ((100 : Nat) : ℚ≥0) * part ≤ MAX := by
    have := natCast_le_max (100 * part) (by omega)
    exact_mod_cast this
  have nonzero : (whole : ℚ≥0) ≠ 0 := by exact_mod_cast positive.ne'
  have quotient : ((100 : Nat) : ℚ≥0) * part / whole ≤ MAX := by
    apply le_trans _ product
    apply div_le_self zero_le
    exact_mod_cast positive
  rw [ofNat, ofNat, ofNat, ofMagnitude_of_le _ _ (natCast_le_max 100 (by decide)),
    ofMagnitude_of_le _ _ (natCast_le_max part (by omega)),
    ofMagnitude_of_le _ _ (natCast_le_max whole (by omega)), finite_mul,
    ofMagnitude_of_le _ _ product, finite_div _ _ _ _ _ _ nonzero,
    ofMagnitude_of_le _ _ quotient]
  simp only [value?]
  push_cast
  rfl

theorem max_natCast : MAX = (((2 ^ 53 - 1) * 2 ^ 971 : ℕ) : ℚ≥0) := by
  rw [MAX, Nat.cast_mul, Nat.cast_pow 2 971, Nat.cast_ofNat]

/-- The largest magnitude is an integer, so that nothing is rounded over it. -/
theorem rounded_le_max (x : ℚ≥0) (within : x ≤ MAX) :
    (((2 * x.num + x.den) / (2 * x.den) : ℕ) : ℚ≥0) ≤ MAX := by
  rw [max_natCast] at within ⊢
  generalize (2 ^ 53 - 1) * 2 ^ 971 = largest at within ⊢
  have positive : 0 < x.den := x.den_pos
  have cleared : x.num ≤ largest * x.den := by
    have quotient := within
    rw [← NNRat.num_div_den x, div_le_iff₀ (by exact_mod_cast positive)] at quotient
    exact_mod_cast quotient
  have below : (2 * x.num + x.den) / (2 * x.den) < largest + 1 := by
    rw [Nat.div_lt_iff_lt_mul (by omega)]
    nlinarith
  exact_mod_cast Nat.le_of_lt_succ below

theorem finite_of_value (v : F64) (q : ℚ) (stands : v.value? = some q) :
    ∃ negative x, ∃ within : x ≤ MAX, v = .finite negative x within ∧ |q| = x := by
  cases v with
  | nan => cases stands
  | infinite negative => cases stands
  | finite negative x within =>
    refine ⟨negative, x, within, rfl, ?_⟩
    rw [← Option.some.inj stands]
    cases negative with
    | true => simp
    | false => simp

/-- A finite number of at most this magnitude. -/
def Within (bound : ℚ≥0) (v : F64) : Prop :=
  ∃ negative x, ∃ within : x ≤ MAX, v = .finite negative x within ∧ x ≤ bound

theorem within_of_value (v : F64) (q : ℚ) (bound : ℚ≥0) (stands : v.value? = some q)
    (small : |q| ≤ bound) : Within bound v := by
  obtain ⟨negative, x, within, rfl, same⟩ := finite_of_value v q stands
  rw [same] at small
  exact ⟨negative, x, within, rfl, by exact_mod_cast small⟩

theorem ofNat_within (n : Nat) (small : n ≤ 2 ^ 100) : Within n (ofNat n) :=
  ⟨false, n, natCast_le_max n small, ofMagnitude_of_le _ _ _, le_rfl⟩

theorem ofInt_within (n : Int) (small : n.natAbs ≤ 2 ^ 100) : Within n.natAbs (ofInt n) :=
  ⟨n < 0, n.natAbs, natCast_le_max _ small, ofMagnitude_of_le _ _ _, le_rfl⟩

/-- A division by one or more stays in range. -/
theorem div_within (bound : ℚ≥0) (v : F64) (d : Nat) (numerator : Within bound v) (positive : 0 < d)
    (small : d ≤ 2 ^ 100) : Within bound (v / ofNat d) := by
  obtain ⟨negative, x, within, rfl, bounded⟩ := numerator
  have divisor := natCast_le_max d small
  have nonzero : (d : ℚ≥0) ≠ 0 := by exact_mod_cast positive.ne'
  have at_least : (1 : ℚ≥0) ≤ d := by exact_mod_cast positive
  have quotient : x / d ≤ x := div_le_self zero_le at_least
  rw [ofNat, ofMagnitude_of_le _ _ divisor, finite_div _ _ _ _ _ _ nonzero,
    ofMagnitude_of_le _ _ (quotient.trans within)]
  exact ⟨_, _, _, rfl, quotient.trans bounded⟩

end F64
