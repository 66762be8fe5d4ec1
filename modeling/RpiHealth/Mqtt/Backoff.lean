import RpiHealth.Config.Config
import RpiHealth.Library.F64
import RpiHealth.Library.XorShift

/-! The delays between connection attempts, for as long as the service runs. Quotients
and products are exact; a delay is in seconds. -/
namespace RpiHealth

def RETRY_SECONDS : List Nat := [1, 2, 4, 8, 16, 30, 60]

structure RetryBackoff where
  attempt : USize := 0

namespace RetryBackoff

def saturatingSucc (attempt : USize) : USize :=
  if attempt.toNat + 1 < USize.size then attempt + 1 else attempt

/-- The unit itself where it is a number, kept within 0 and 1. -/
def clampUnit (jitterUnit : F64) : ℚ :=
  match jitterUnit.value? with
  | some unit => max 0 (min unit 1)
  | none => 1 / 2

/-- The next delay, unless the table is left, and the advanced sequence. -/
def nextDelay (backoff : RetryBackoff) (jitterUnit : F64) : Option ℚ × RetryBackoff :=
  let index := min backoff.attempt.toNat (RETRY_SECONDS.length - 1)
  (RETRY_SECONDS[index]?.map (fun (seconds : Nat) =>
      (seconds : ℚ) * (4 / 5 + 2 / 5 * clampUnit jitterUnit)),
    ⟨saturatingSucc backoff.attempt⟩)

def reset (_ : RetryBackoff) : RetryBackoff := ⟨0⟩

end RetryBackoff

structure Jitter where
  word : UInt64

namespace Jitter

/-- The seed, from the nanoseconds since the epoch. A clock before it counts as zero. -/
def new (sinceEpoch : Option Nat) (processId : UInt32) : Jitter :=
  let nanos := sinceEpoch.getD 0
  let seed := (if nanos ≤ U64_MAX then UInt64.ofNat nanos else UInt64.ofNat U64_MAX) ^^^
    processId.toUInt64
  ⟨max seed 1⟩

def advance (word : UInt64) : UInt64 :=
  let word := word ^^^ (word <<< 13)
  let word := word ^^^ (word >>> 7)
  word ^^^ (word <<< 17)

def nextUnit (jitter : Jitter) : F64 × Jitter :=
  let word := advance jitter.word
  (F64.ofNat word.toNat / F64.ofNat U64_MAX, ⟨word⟩)

end Jitter

/-- What the run loop tells the backoff. -/
inductive ConnectionEvent where
  | failed
  | acknowledged
  deriving DecidableEq, Repr

structure Retry where
  backoff : RetryBackoff
  jitter : Jitter

namespace Retry

def start (sinceEpoch : Option Nat) (processId : UInt32) : Retry := ⟨{}, .new sinceEpoch processId⟩

/-- After a failure: the unit drawn, the delay chosen with it, and what is left of both
generators. -/
def failure (retry : Retry) : F64 × Option ℚ × Retry :=
  let (unit, jitter) := retry.jitter.nextUnit
  let (delay, backoff) := retry.backoff.nextDelay unit
  (unit, delay, ⟨backoff, jitter⟩)

def step (retry : Retry) : ConnectionEvent → Retry
  | .failed => retry.failure.2.2
  | .acknowledged => { retry with backoff := retry.backoff.reset }

def run (retry : Retry) (events : List ConnectionEvent) : Retry := events.foldl step retry

end Retry

def ConnectionEvent.count (failures : Nat) : ConnectionEvent → Nat
  | .failed => failures + 1
  | .acknowledged => 0

/-- The failures since the last acknowledgement. -/
def failuresSince (events : List ConnectionEvent) : Nat := events.foldl ConnectionEvent.count 0

theorem advance_toBitVec (word : UInt64) : (Jitter.advance word).toBitVec =
    XorShift.left 17 (XorShift.right 7 (XorShift.left 13 word.toBitVec)) := by
  simp [Jitter.advance, XorShift.left, XorShift.right]

theorem advance_nonzero (word : UInt64) (nonzero : word ≠ 0) : Jitter.advance word ≠ 0 := by
  have bits : word.toBitVec ≠ 0 := fun zero => nonzero (UInt64.toBitVec_inj.mp zero)
  intro vanished
  have first := XorShift.left_nonzero 13 (by decide) word.toBitVec bits
  have second := XorShift.right_nonzero 7 (by decide) _ first
  have third := XorShift.left_nonzero 17 (by decide) _ second
  rw [← advance_toBitVec, vanished] at third
  exact third rfl

theorem max_one_nonzero (seed : UInt64) : max seed 1 ≠ 0 := by
  change (if seed ≤ 1 then (1 : UInt64) else seed) ≠ 0
  split
  · decide
  · rename_i large
    rintro rfl
    exact large (by decide)

theorem new_nonzero (sinceEpoch : Option Nat) (processId : UInt32) :
    (Jitter.new sinceEpoch processId).word ≠ 0 :=
  max_one_nonzero _

theorem nextUnit_value (jitter : Jitter) : jitter.nextUnit.1.value? =
    some (((Jitter.advance jitter.word).toNat : ℚ) / U64_MAX) :=
  F64.quotient_value _ _ (by decide)
    ((Nat.le_of_lt (UInt64.toNat_lt _)).trans (by decide)) (by decide)

/-- A unit is a part of the largest word, and no part is empty. -/
theorem nextUnit_unit (jitter : Jitter) (nonzero : jitter.word ≠ 0) :
    ∃ unit, jitter.nextUnit.1.value? = some unit ∧ 0 < unit ∧ unit ≤ 1 := by
  refine ⟨_, nextUnit_value jitter, ?_, ?_⟩
  · have advanced : 0 < (Jitter.advance jitter.word).toNat := by
      refine Nat.pos_of_ne_zero (fun zero => advance_nonzero _ nonzero ?_)
      exact UInt64.toNat_inj.mp zero
    have whole : 0 < U64_MAX := by decide
    positivity
  · have small : (Jitter.advance jitter.word).toNat ≤ U64_MAX :=
      Nat.le_of_lt_succ (UInt64.toNat_lt _)
    apply div_le_one_of_le₀
    · exact_mod_cast small
    · exact Nat.cast_nonneg _

theorem saturatingSucc_toNat (attempt : USize) :
    (RetryBackoff.saturatingSucc attempt).toNat = min (attempt.toNat + 1) (USize.size - 1) := by
  have bound := attempt.toNat_lt_size
  have wide := USize.le_size
  have one : (1 : USize).toNat = 1 := USize.toNat_ofNat_of_lt (Nat.lt_of_lt_of_le (by decide) wide)
  unfold RetryBackoff.saturatingSucc
  split
  · rename_i room
    rw [USize.toNat_add, one, ← USize.size_eq_two_pow, Nat.mod_eq_of_lt room]
    omega
  · omega

/-- The state after any run: the counter follows the failures until it saturates, and the
generator is alive. -/
structure Retry.Sound (retry : Retry) (failures : Nat) : Prop where
  attempt : retry.backoff.attempt.toNat = min failures (USize.size - 1)
  alive : retry.jitter.word ≠ 0

theorem sound_start (sinceEpoch : Option Nat) (processId : UInt32) :
    (Retry.start sinceEpoch processId).Sound 0 where
  attempt := by
    have zero : (0 : USize).toNat = 0 := rfl
    rw [Nat.zero_min]
    exact zero
  alive := new_nonzero sinceEpoch processId

theorem sound_step (retry : Retry) (failures : Nat) (event : ConnectionEvent)
    (sound : retry.Sound failures) :
    (retry.step event).Sound (event.count failures) := by
  cases event with
  | failed =>
    constructor
    · have attempt := sound.attempt
      have wide := USize.le_size
      change (RetryBackoff.saturatingSucc retry.backoff.attempt).toNat = _
      rw [saturatingSucc_toNat, attempt, ConnectionEvent.count]
      omega
    · exact advance_nonzero _ sound.alive
  | acknowledged =>
    constructor
    · rw [ConnectionEvent.count, Nat.zero_min]
      rfl
    · exact sound.alive

theorem sound_run (events : List ConnectionEvent) (retry : Retry) (failures : Nat)
    (sound : retry.Sound failures) :
    (retry.run events).Sound (events.foldl ConnectionEvent.count failures) := by
  induction events generalizing retry failures with
  | nil => exact sound
  | cons event later ih => exact ih _ _ (sound_step retry failures event sound)

theorem clampUnit_between (jitterUnit : F64) :
    0 ≤ RetryBackoff.clampUnit jitterUnit ∧ RetryBackoff.clampUnit jitterUnit ≤ 1 := by
  unfold RetryBackoff.clampUnit
  split
  · rename_i unit _
    exact ⟨le_max_left 0 _, max_le zero_le_one (min_le_right unit 1)⟩
  · norm_num

theorem retry_entries : ∀ index < 7, ∃ base, RETRY_SECONDS[index]? = some base ∧
    1 ≤ base ∧ base ≤ 60 := by
  have inside : ∀ base ∈ RETRY_SECONDS, 1 ≤ base ∧ base ≤ 60 := by decide
  intro index small
  have entry : RETRY_SECONDS[index]? = some RETRY_SECONDS[index] :=
    List.getElem?_eq_getElem small
  exact ⟨_, entry, inside _ (List.getElem_mem small)⟩

/-- A delay lies within a fifth of its entry. -/
theorem nextDelay_between (backoff : RetryBackoff) (jitterUnit : F64) :
    ∃ (delay : ℚ) (base : Nat), (backoff.nextDelay jitterUnit).1 = some delay ∧
      RETRY_SECONDS[min backoff.attempt.toNat 6]? = some base ∧
      4 / 5 * base ≤ delay ∧ delay ≤ 6 / 5 * base ∧ 4 / 5 ≤ delay ∧ delay ≤ 72 := by
  obtain ⟨base, entry, least, most⟩ := retry_entries (min backoff.attempt.toNat 6) (by omega)
  obtain ⟨low, high⟩ := clampUnit_between jitterUnit
  have first : (1 : ℚ) ≤ base := by exact_mod_cast least
  have last : (base : ℚ) ≤ 60 := by exact_mod_cast most
  have taken : (backoff.nextDelay jitterUnit).1 =
      some ((base : ℚ) * (4 / 5 + 2 / 5 * RetryBackoff.clampUnit jitterUnit)) := by
    have width : RETRY_SECONDS.length - 1 = 6 := rfl
    rw [RetryBackoff.nextDelay, width, entry, Option.map_some]
  have lower : 4 / 5 * (base : ℚ) ≤
      base * (4 / 5 + 2 / 5 * RetryBackoff.clampUnit jitterUnit) := by nlinarith
  have upper : base * (4 / 5 + 2 / 5 * RetryBackoff.clampUnit jitterUnit) ≤ 6 / 5 * (base : ℚ) := by
    nlinarith
  exact ⟨_, base, taken, entry, lower, upper, by linarith, by linarith⟩

/-- However many failures and acknowledgements there were, the generator goes on and the
next delay is within a fifth of the entry for the failures since the last success. -/
theorem retry_delays_bounded (sinceEpoch : Option Nat) (processId : UInt32)
    (events : List ConnectionEvent) :
    ((Retry.start sinceEpoch processId).run events).jitter.word ≠ 0 ∧
    ∃ (unit delay : ℚ) (base : Nat),
      ((Retry.start sinceEpoch processId).run events).failure.1.value? = some unit ∧
      0 < unit ∧ unit ≤ 1 ∧
      ((Retry.start sinceEpoch processId).run events).failure.2.1 = some delay ∧
      RETRY_SECONDS[min (failuresSince events) 6]? = some base ∧
      4 / 5 * base ≤ delay ∧ delay ≤ 6 / 5 * base ∧ 4 / 5 ≤ delay ∧ delay ≤ 72 := by
  have sound := sound_run events _ 0 (sound_start sinceEpoch processId)
  generalize (Retry.start sinceEpoch processId).run events = retry at sound
  obtain ⟨unit, drawn, positive, at_most⟩ := nextUnit_unit retry.jitter sound.alive
  obtain ⟨delay, base, chosen, entry, bounds⟩ :=
    nextDelay_between retry.backoff retry.jitter.nextUnit.1
  have place : min retry.backoff.attempt.toNat 6 = min (failuresSince events) 6 := by
    have wide := USize.le_size
    rw [sound.attempt, failuresSince]
    omega
  rw [place] at entry
  exact ⟨sound.alive, unit, delay, base, drawn, positive, at_most, chosen, entry, bounds⟩

end RpiHealth
