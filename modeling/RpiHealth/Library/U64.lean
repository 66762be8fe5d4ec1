import RpiHealth.Library.Parsing

/-! Unsigned 64-bit numbers with checked arithmetic: a result that does not fit is
no result. -/

@[ext] structure U64 where
  toNat : Nat
  small : toNat < 2 ^ 64
  deriving DecidableEq

/-- An optional value, or the error to report in its place. -/
def okOr {E : Type u} {A : Type v} (value : Option A) (error : E) : Except E A :=
  match value with
  | some a => .ok a
  | none => .error error

theorem bind_eq_ok {E : Type u} {A B : Type v} (first : Except E A) (next : A → Except E B)
    (b : B) : (first >>= next) = .ok b ↔ ∃ a, first = .ok a ∧ next a = .ok b := by
  cases first with
  | error e => simp [bind, Except.bind]
  | ok a => simp [bind, Except.bind]

theorem bind_eq_error {E : Type u} {A B : Type v} (first : Except E A) (next : A → Except E B)
    (e : E) (failed : (first >>= next) = .error e) :
    first = .error e ∨ ∃ a, first = .ok a ∧ next a = .error e := by
  cases first with
  | error inner =>
    left
    exact congrArg Except.error (Except.error.inj failed)
  | ok a =>
    right
    exact ⟨a, rfl, failed⟩

theorem okOr_eq_ok {E : Type u} {A : Type v} (value : Option A) (error : E) (a : A) :
    okOr value error = .ok a ↔ value = some a := by
  cases value with
  | none => simp [okOr]
  | some b => simp [okOr]

theorem okOr_eq_error {E : Type u} {A : Type v} (value : Option A) (error e : E)
    (failed : okOr value error = .error e) : value = none ∧ error = e := by
  cases value with
  | none => exact ⟨rfl, Except.error.inj failed⟩
  | some a => contradiction

theorem okOr_bind {E : Type u} {A B : Type v} (value : Option A) (error : E)
    (next : A → Except E B) (b : B) :
    (okOr value error >>= next) = .ok b ↔ ∃ a, value = some a ∧ next a = .ok b := by
  cases value with
  | none => simp [okOr, bind, Except.bind]
  | some a => simp [okOr, bind, Except.bind]

theorem okOr_toOption {D : Type u} {E : Type v} {A : Type w} (value : Except D A) (error : E)
    (a : A) : okOr value.toOption error = .ok a ↔ value = .ok a := by
  cases value with
  | error d => simp [okOr, Except.toOption]
  | ok b => simp [okOr, Except.toOption]

theorem mem_toOption {E : Type u} {A : Type v} (value : Except E A) (a : A) :
    a ∈ value.toOption ↔ value = .ok a := by
  cases value with
  | error e => simp [Except.toOption]
  | ok b => simp [Except.toOption]

/-- A condition that has to hold, or the error to report in its place. -/
def ensure {E : Type u} (passes : Prop) [Decidable passes] (error : E) : Except E Unit :=
  if passes then .ok () else .error error

theorem ensure_bind {E : Type u} {B : Type} (passes : Prop) [Decidable passes] (error : E)
    (next : Unit → Except E B) (b : B) :
    (ensure passes error >>= next) = .ok b ↔ passes ∧ next () = .ok b := by
  by_cases holds : passes
  · simp [ensure, holds, bind, Except.bind]
  · simp [ensure, holds, bind, Except.bind]

theorem ensure_eq_error {E : Type u} (passes : Prop) [Decidable passes] (error e : E)
    (failed : ensure passes error = .error e) : ¬ passes ∧ error = e := by
  unfold ensure at failed
  split at failed
  · contradiction
  · rename_i broken
    exact ⟨broken, Except.error.inj failed⟩

theorem okOr_bind_error {E : Type u} {A B : Type v} (value : Option A) (error e : E)
    (next : A → Except E B) (failed : (okOr value error >>= next) = .error e) :
    value = none ∧ error = e ∨ ∃ a, value = some a ∧ next a = .error e := by
  rcases bind_eq_error _ _ e failed with here | ⟨a, first, later⟩
  · left
    exact okOr_eq_error value error e here
  · right
    cases value with
    | none => contradiction
    | some b => exact ⟨a, congrArg some (Except.ok.inj first), later⟩

namespace U64

def ofNat? (n : Nat) : Option U64 := if small : n < 2 ^ 64 then some ⟨n, small⟩ else none

instance (n : Nat) : OfNat U64 n := ⟨⟨n % 2 ^ 64, Nat.mod_lt n (by decide)⟩⟩

def checkedAdd (a b : U64) : Option U64 := ofNat? (a.toNat + b.toNat)

def checkedMul (a b : U64) : Option U64 := ofNat? (a.toNat * b.toNat)

def checkedSub (a b : U64) : Option U64 :=
  if b.toNat ≤ a.toNat then some ⟨a.toNat - b.toNat, by have := a.small; omega⟩ else none

def saturatingSub (a b : U64) : U64 := ⟨a.toNat - b.toNat, by have := a.small; omega⟩

instance : Min U64 := ⟨fun a b => if a.toNat ≤ b.toNat then a else b⟩

/-- A decimal number, with an optional plus sign. -/
def parse (s : String) : Option U64 := (Text.parseUnsigned 10 64 s).bind ofNat?

/-- The sum from left to right; every part of it has to fit. -/
def checkedSumFrom (total : U64) : List U64 → Option U64
  | [] => some total
  | value :: rest => (total.checkedAdd value).bind (fun next => checkedSumFrom next rest)

def checkedSum (values : List U64) : Option U64 := checkedSumFrom 0 values

@[simp] theorem ofNat?_eq_some (n : Nat) (a : U64) : ofNat? n = some a ↔ n = a.toNat := by
  unfold ofNat?
  split
  · simp [U64.ext_iff]
  · rename_i large
    have := a.small
    simp only [reduceCtorEq, false_iff]
    omega

@[simp] theorem checkedAdd_eq_some (a b c : U64) :
    a.checkedAdd b = some c ↔ a.toNat + b.toNat = c.toNat :=
  ofNat?_eq_some _ c

@[simp] theorem checkedMul_eq_some (a b c : U64) :
    a.checkedMul b = some c ↔ a.toNat * b.toNat = c.toNat :=
  ofNat?_eq_some _ c

@[simp] theorem checkedSub_eq_some (a b c : U64) :
    a.checkedSub b = some c ↔ b.toNat ≤ a.toNat ∧ c.toNat = a.toNat - b.toNat := by
  unfold checkedSub
  split
  · rename_i enough
    simp [U64.ext_iff, enough, eq_comm]
  · rename_i less
    simp [less]

@[simp] theorem saturatingSub_toNat (a b : U64) :
    (a.saturatingSub b).toNat = a.toNat - b.toNat := rfl

@[simp] theorem min_toNat (a b : U64) : (min a b).toNat = min a.toNat b.toNat := by
  change (if a.toNat ≤ b.toNat then a else b).toNat = _
  split <;> omega

theorem checkedSumFrom_eq_some (total : U64) (values : List U64) (s : U64) :
    checkedSumFrom total values = some s ↔ total.toNat + (values.map toNat).sum = s.toNat := by
  induction values generalizing total with
  | nil => simp [checkedSumFrom, U64.ext_iff]
  | cons value rest ih =>
    simp only [checkedSumFrom, Option.bind_eq_some_iff, checkedAdd_eq_some, ih, List.map_cons,
      List.sum_cons]
    have small := s.small
    constructor
    · rintro ⟨next, first, later⟩
      omega
    · intro whole
      exact ⟨⟨total.toNat + value.toNat, by omega⟩, rfl, by simp only; omega⟩

/-- Overflow on the way is overflow of the whole. -/
theorem checkedSum_eq_some (values : List U64) (s : U64) :
    checkedSum values = some s ↔ (values.map toNat).sum = s.toNat := by
  have start : (0 : U64).toNat = 0 := rfl
  rw [checkedSum, checkedSumFrom_eq_some, start, Nat.zero_add]

end U64
