import RpiHealth.Library.F64
import RpiHealth.Library.U64

/-! CPU counters, load averages and frequency. -/
namespace RpiHealth

/-- A source of a metric that could not be parsed, and why. -/
structure ParseError where
  sourceName : String
  detail : String
  deriving DecidableEq, Repr

def ParseError.display (e : ParseError) : String :=
  "could not parse " ++ e.sourceName ++ ": " ++ e.detail

def PROC_STAT : String := "/proc/stat"
def PROC_LOADAVG : String := "/proc/loadavg"
def CPU_FREQUENCY : String := "CPU frequency"

/-- The aggregate counters in jiffies. -/
structure CpuTimes where
  user : U64
  nice : U64
  system : U64
  idle : U64
  ioWait : U64
  irq : U64
  softIrq : U64
  steal : U64
  deriving DecidableEq

def CpuTimes.counters (t : CpuTimes) : List U64 :=
  [t.user, t.nice, t.system, t.idle, t.ioWait, t.irq, t.softIrq, t.steal]

structure LoadAverage where
  oneMinute : F64
  fiveMinutes : F64
  fifteenMinutes : F64
  deriving DecidableEq

/-- The next field of the line as the counter of that name. -/
def counter (name : String) : List String → Except ParseError (U64 × List String)
  | [] => .error ⟨PROC_STAT, "the " ++ name ++ " counter is missing"⟩
  | raw :: fields =>
    (okOr (U64.parse raw) ⟨PROC_STAT, "the " ++ name ++ " counter is not a u64"⟩).map
      (fun value => (value, fields))

def parseProcStat (input : String) : Except ParseError CpuTimes := do
  let line ← okOr ((Text.lines input).find? (fun line => (Text.words line).head? == some "cpu"))
    ⟨PROC_STAT, "the aggregate cpu line is missing"⟩
  let fields := (Text.words line).tail
  let (user, fields) ← counter "user" fields
  let (nice, fields) ← counter "nice" fields
  let (system, fields) ← counter "system" fields
  let (idle, fields) ← counter "idle" fields
  let (ioWait, fields) ← counter "iowait" fields
  let (irq, fields) ← counter "irq" fields
  let (softIrq, fields) ← counter "softirq" fields
  let (steal, _) ← counter "steal" fields
  return ⟨user, nice, system, idle, ioWait, irq, softIrq, steal⟩

def checkedDelta (name : String) (old new : U64) : Except ParseError U64 :=
  okOr (new.checkedSub old) ⟨PROC_STAT, "the " ++ name ++ " counter moved backwards"⟩

/-- `none` when none of the counters advanced. -/
def usagePercent (previous current : CpuTimes) : Except ParseError (Option F64) := do
  let user ← checkedDelta "user" previous.user current.user
  let nice ← checkedDelta "nice" previous.nice current.nice
  let system ← checkedDelta "system" previous.system current.system
  let idle ← checkedDelta "idle" previous.idle current.idle
  let ioWait ← checkedDelta "iowait" previous.ioWait current.ioWait
  let irq ← checkedDelta "irq" previous.irq current.irq
  let softIrq ← checkedDelta "softirq" previous.softIrq current.softIrq
  let steal ← checkedDelta "steal" previous.steal current.steal
  let idleDelta ← okOr (idle.checkedAdd ioWait)
    ⟨PROC_STAT, "the aggregate idle delta overflowed u64"⟩
  let totalDelta ← okOr
    (U64.checkedSum [user, nice, system, idle, ioWait, irq, softIrq, steal])
    ⟨PROC_STAT, "the aggregate CPU delta overflowed u64"⟩
  if totalDelta = 0 then return none
  let busyDelta ← okOr (totalDelta.checkedSub idleDelta)
    ⟨PROC_STAT, "the idle delta exceeded the total CPU delta"⟩
  return some (F64.ofNat 100 * F64.ofNat busyDelta.toNat / F64.ofNat totalDelta.toNat)

def parseNonNegativeFloat (raw : Option String) (name : String) : Except ParseError F64 := do
  let raw ← okOr raw ⟨PROC_LOADAVG, name ++ " is missing"⟩
  let value ← okOr (F64.parse raw) ⟨PROC_LOADAVG, name ++ " is not a number"⟩
  if !value.isFinite || value.isSignNegative then
    throw ⟨PROC_LOADAVG, name ++ " must be finite and non-negative"⟩
  return value

def parseLoadavg (input : String) : Except ParseError LoadAverage := do
  let fields := Text.words input
  let oneMinute ← parseNonNegativeFloat fields[0]? "one-minute load"
  let fiveMinutes ← parseNonNegativeFloat fields[1]? "five-minute load"
  let fifteenMinutes ← parseNonNegativeFloat fields[2]? "fifteen-minute load"
  return ⟨oneMinute, fiveMinutes, fifteenMinutes⟩

/-- Kilohertz as megahertz. -/
def parseFrequencyKhz (input : String) : Except ParseError F64 :=
  match Text.words input with
  | [] => .error ⟨CPU_FREQUENCY, "the value is missing"⟩
  | [raw] => do
    let kilohertz ← okOr (U64.parse raw) ⟨CPU_FREQUENCY, "the value is not an unsigned integer"⟩
    return F64.ofNat kilohertz.toNat / F64.ofNat 1000
  | _ => .error ⟨CPU_FREQUENCY, "the value contains unexpected fields"⟩

/-! Usage between two samples. -/

/-- No counter moved backwards. -/
structure CpuTimes.Advances (a b : CpuTimes) : Prop where
  user : a.user.toNat ≤ b.user.toNat
  nice : a.nice.toNat ≤ b.nice.toNat
  system : a.system.toNat ≤ b.system.toNat
  idle : a.idle.toNat ≤ b.idle.toNat
  ioWait : a.ioWait.toNat ≤ b.ioWait.toNat
  irq : a.irq.toNat ≤ b.irq.toNat
  softIrq : a.softIrq.toNat ≤ b.softIrq.toNat
  steal : a.steal.toNat ≤ b.steal.toNat

/-- Jiffies between two samples. -/
def CpuTimes.totalDelta (a b : CpuTimes) : Nat :=
  (List.zipWith (fun old new => new.toNat - old.toNat) a.counters b.counters).sum

def CpuTimes.idleDelta (a b : CpuTimes) : Nat :=
  (b.idle.toNat - a.idle.toNat) + (b.ioWait.toNat - a.ioWait.toNat)

def CpuTimes.busyDelta (a b : CpuTimes) : Nat := a.totalDelta b - a.idleDelta b

theorem idleDelta_le (a b : CpuTimes) : a.idleDelta b ≤ a.totalDelta b := by
  simp only [CpuTimes.idleDelta, CpuTimes.totalDelta, CpuTimes.counters, List.zipWith_cons_cons,
    List.zipWith_nil_left, List.sum_cons, List.sum_nil]
  omega

theorem checkedDelta_bind {A : Type} (name : String) (old new : U64)
    (next : U64 → Except ParseError A) (r : A) :
    (checkedDelta name old new >>= next) = .ok r ↔
      old.toNat ≤ new.toNat ∧ next (new.saturatingSub old) = .ok r := by
  rw [checkedDelta, okOr_bind]
  constructor
  · rintro ⟨d, taken, later⟩
    rw [U64.checkedSub_eq_some] at taken
    have same : d = new.saturatingSub old := U64.ext taken.2
    exact ⟨taken.1, same ▸ later⟩
  · rintro ⟨advances, later⟩
    exact ⟨_, (U64.checkedSub_eq_some _ _ _).mpr ⟨advances, rfl⟩, later⟩

/-- What is computed once the eight deltas are there. -/
theorem usagePercent_eq_ok (a b : CpuTimes) (r : Option F64) :
    usagePercent a b = .ok r ↔ a.Advances b ∧ a.totalDelta b < 2 ^ 64 ∧
      r = if a.totalDelta b = 0 then none
        else some (F64.ofNat 100 * F64.ofNat (a.busyDelta b) / F64.ofNat (a.totalDelta b)) := by
  have sum : ([b.user.saturatingSub a.user, b.nice.saturatingSub a.nice,
      b.system.saturatingSub a.system, b.idle.saturatingSub a.idle,
      b.ioWait.saturatingSub a.ioWait, b.irq.saturatingSub a.irq,
      b.softIrq.saturatingSub a.softIrq, b.steal.saturatingSub a.steal].map U64.toNat).sum =
      a.totalDelta b := rfl
  simp only [usagePercent, checkedDelta_bind, okOr_bind, U64.checkedSum_eq_some,
    U64.checkedAdd_eq_some, sum]
  have zero (total : U64) : total = 0 ↔ total.toNat = 0 := U64.ext_iff
  have within := idleDelta_le a b
  constructor
  · rintro ⟨user, nice, system, idle, ioWait, irq, softIrq, steal, idleDelta, idle_is, total,
      total_is, result⟩
    refine ⟨⟨user, nice, system, idle, ioWait, irq, softIrq, steal⟩, total_is ▸ total.small, ?_⟩
    rw [total_is]
    by_cases still : total = 0
    · rw [if_pos still] at result
      rw [if_pos ((zero total).mp still)]
      exact (Except.ok.inj result).symm
    · rw [if_neg still, okOr_bind] at result
      obtain ⟨busy, taken, result⟩ := result
      rw [if_neg (mt (zero total).mpr still)]
      have busy_is : busy.toNat = a.busyDelta b := by
        rw [U64.checkedSub_eq_some] at taken
        rw [CpuTimes.busyDelta, taken.2, total_is, ← idle_is]
        rfl
      rw [← busy_is]
      exact (Except.ok.inj result).symm
  · rintro ⟨advances, small, rfl⟩
    refine ⟨advances.user, advances.nice, advances.system, advances.idle, advances.ioWait,
      advances.irq, advances.softIrq, advances.steal, ⟨a.idleDelta b, by omega⟩, rfl,
      ⟨a.totalDelta b, small⟩, rfl, ?_⟩
    by_cases still : a.totalDelta b = 0
    · rw [if_pos ((zero _).mpr still), if_pos still]
      rfl
    · rw [if_neg (mt (zero _).mp still), if_neg still, okOr_bind]
      exact ⟨⟨a.busyDelta b, by rw [CpuTimes.busyDelta]; omega⟩,
        (U64.checkedSub_eq_some _ _ _).mpr ⟨within, rfl⟩, rfl⟩

theorem advances_trans (a b c : CpuTimes) (first : a.Advances b) (second : b.Advances c) :
    a.totalDelta c = a.totalDelta b + b.totalDelta c ∧
      a.idleDelta c = a.idleDelta b + b.idleDelta c := by
  obtain ⟨user, nice, system, idle, ioWait, irq, softIrq, steal⟩ := first
  obtain ⟨user', nice', system', idle', ioWait', irq', softIrq', steal'⟩ := second
  simp only [CpuTimes.idleDelta, CpuTimes.totalDelta, CpuTimes.counters, List.zipWith_cons_cons,
    List.zipWith_nil_left, List.sum_cons, List.sum_nil]
  constructor <;> omega

theorem totalDelta_eq_zero (a b : CpuTimes) (advances : a.Advances b) :
    a.totalDelta b = 0 ↔ a = b := by
  constructor
  · intro still
    obtain ⟨user, nice, system, idle, ioWait, irq, softIrq, steal⟩ := advances
    simp only [CpuTimes.totalDelta, CpuTimes.counters, List.zipWith_cons_cons,
      List.zipWith_nil_left, List.sum_cons, List.sum_nil] at still
    cases a
    cases b
    simp only [CpuTimes.mk.injEq, U64.ext_iff] at *
    omega
  · rintro rfl
    simp [CpuTimes.totalDelta, CpuTimes.counters]

theorem advances_refl (a : CpuTimes) : a.Advances a :=
  ⟨le_rfl, le_rfl, le_rfl, le_rfl, le_rfl, le_rfl, le_rfl, le_rfl⟩

theorem usagePercent_eq_some (a b : CpuTimes) (v : F64)
    (computed : usagePercent a b = .ok (some v)) :
    a.Advances b ∧ 0 < a.totalDelta b ∧ a.totalDelta b < 2 ^ 64 ∧
      v.value? = some (100 * (a.busyDelta b : ℚ) / a.totalDelta b) := by
  obtain ⟨advances, small, result⟩ := (usagePercent_eq_ok a b _).mp computed
  split at result
  · contradiction
  · rename_i moved
    have busy : a.busyDelta b < 2 ^ 64 := by
      rw [CpuTimes.busyDelta]
      omega
    have positive : 0 < a.totalDelta b := by omega
    refine ⟨advances, positive, small, ?_⟩
    rw [Option.some.inj result]
    exact F64.percent_value _ _ positive busy small

/-- A ratio of sums lies between the ratios. -/
theorem ratio_between (p q r s : ℚ) (first : 0 < r) (second : 0 < s) :
    min (p / r) (q / s) ≤ (p + q) / (r + s) ∧ (p + q) / (r + s) ≤ max (p / r) (q / s) := by
  have whole : 0 < r + s := by linarith
  have parts : p / r * r = p ∧ q / s * s = q :=
    ⟨div_mul_cancel₀ p first.ne', div_mul_cancel₀ q second.ne'⟩
  constructor
  · rw [le_div_iff₀ whole]
    have left := mul_le_mul_of_nonneg_right (min_le_left (p / r) (q / s)) first.le
    have right := mul_le_mul_of_nonneg_right (min_le_right (p / r) (q / s)) second.le
    linarith [parts.1, parts.2]
  · rw [div_le_iff₀ whole]
    have left := mul_le_mul_of_nonneg_right (le_max_left (p / r) (q / s)) first.le
    have right := mul_le_mul_of_nonneg_right (le_max_right (p / r) (q / s)) second.le
    linarith [parts.1, parts.2]

theorem checkedDelta_fails {A : Type} (name : String) (old new : U64)
    (next : U64 → Except ParseError A) (e : ParseError)
    (other : e.detail ≠ "the " ++ name ++ " counter moved backwards")
    (failed : (checkedDelta name old new >>= next) = .error e) :
    next (new.saturatingSub old) = .error e := by
  rcases okOr_bind_error _ _ _ _ failed with ⟨-, rfl⟩ | ⟨d, taken, failed⟩
  · contradiction
  · have same : d = new.saturatingSub old := U64.ext ((U64.checkedSub_eq_some _ _ _).mp taken).2
    exact same ▸ failed

/-- The last check of the computation cannot fail. -/
theorem idle_never_exceeds (a b : CpuTimes) :
    usagePercent a b ≠ .error ⟨PROC_STAT, "the idle delta exceeded the total CPU delta"⟩ := by
  intro failed
  iterate 8 replace failed := checkedDelta_fails _ _ _ _ _ (by decide) failed
  rcases okOr_bind_error _ _ _ _ failed with ⟨-, text⟩ | ⟨idle, idle_is, failed⟩
  · exact absurd text (by decide)
  rcases okOr_bind_error _ _ _ _ failed with ⟨-, text⟩ | ⟨total, total_is, failed⟩
  · exact absurd text (by decide)
  have total_nat : a.totalDelta b = total.toNat := (U64.checkedSum_eq_some _ _).mp total_is
  have idle_nat : a.idleDelta b = idle.toNat := (U64.checkedAdd_eq_some _ _ _).mp idle_is
  have within := idleDelta_le a b
  split at failed
  · contradiction
  · rcases okOr_bind_error _ _ _ _ failed with ⟨exceeded, -⟩ | ⟨busy, -, failed⟩
    · rw [U64.checkedSub, if_pos (by omega)] at exceeded
      contradiction
    · contradiction

theorem usagePercent_some_iff (a b : CpuTimes) : (∃ v, usagePercent a b = .ok (some v)) ↔
    a.Advances b ∧ 1 ≤ a.totalDelta b ∧ a.totalDelta b ≤ 2 ^ 64 - 1 := by
  constructor
  · rintro ⟨v, computed⟩
    obtain ⟨advances, positive, small, -⟩ := usagePercent_eq_some a b v computed
    exact ⟨advances, positive, by omega⟩
  · rintro ⟨advances, positive, small⟩
    have moved : a.totalDelta b ≠ 0 := by omega
    exact ⟨_, (usagePercent_eq_ok a b _).mpr ⟨advances, by omega, (if_neg moved).symm⟩⟩

theorem usagePercent_none_iff (a b : CpuTimes) : usagePercent a b = .ok none ↔ a = b := by
  rw [usagePercent_eq_ok]
  constructor
  · rintro ⟨advances, -, result⟩
    apply (totalDelta_eq_zero a b advances).mp
    by_contra moved
    rw [if_neg moved] at result
    contradiction
  · rintro rfl
    have zero := (totalDelta_eq_zero a a (advances_refl a)).mpr rfl
    exact ⟨advances_refl a, by omega, by rw [if_pos zero]⟩

theorem usagePercent_range (a b : CpuTimes) (v : F64) (computed : usagePercent a b = .ok (some v)) :
    ∃ q : ℚ, v.value? = some q ∧ q = 100 * (a.busyDelta b : ℚ) / a.totalDelta b ∧ 0 ≤ q ∧
      q ≤ 100 := by
  obtain ⟨-, positive, -, value⟩ := usagePercent_eq_some a b v computed
  have whole : (0 : ℚ) < a.totalDelta b := by exact_mod_cast positive
  have part : (a.busyDelta b : ℚ) ≤ a.totalDelta b := by
    exact_mod_cast Nat.sub_le _ _
  refine ⟨_, value, rfl, by positivity, ?_⟩
  rw [div_le_iff₀ whole]
  linarith

/-- Usage over two intervals in a row is a mean of theirs. -/
theorem usagePercent_between (a b c : CpuTimes) (u v w : F64)
    (first : usagePercent a b = .ok (some u)) (second : usagePercent b c = .ok (some v))
    (both : usagePercent a c = .ok (some w)) : ∃ x y z : ℚ, u.value? = some x ∧
      v.value? = some y ∧ w.value? = some z ∧ min x y ≤ z ∧ z ≤ max x y := by
  obtain ⟨advances, positive, -, x⟩ := usagePercent_eq_some a b u first
  obtain ⟨advances', positive', -, y⟩ := usagePercent_eq_some b c v second
  obtain ⟨-, -, -, z⟩ := usagePercent_eq_some a c w both
  refine ⟨_, _, _, x, y, z, ?_⟩
  obtain ⟨total, idle⟩ := advances_trans a b c advances advances'
  have busy : a.busyDelta c = a.busyDelta b + b.busyDelta c := by
    have within := idleDelta_le a b
    have within' := idleDelta_le b c
    simp only [CpuTimes.busyDelta]
    omega
  rw [busy, total]
  push_cast
  rw [mul_add]
  apply ratio_between
  · exact_mod_cast positive
  · exact_mod_cast positive'

/-- Usage is there exactly when the counters advanced and their deltas add up, and it
is the share of the time that was not idle; over two intervals it is a mean. -/
theorem usage_percent_exact (a b : CpuTimes) :
    ((∃ v, usagePercent a b = .ok (some v)) ↔
      a.Advances b ∧ 1 ≤ a.totalDelta b ∧ a.totalDelta b ≤ 2 ^ 64 - 1) ∧
    (usagePercent a b = .ok none ↔ a = b) ∧
    ((∃ e, usagePercent a b = .error e) ↔
      a ≠ b ∧ ¬ (a.Advances b ∧ 1 ≤ a.totalDelta b ∧ a.totalDelta b ≤ 2 ^ 64 - 1)) ∧
    (∀ v, usagePercent a b = .ok (some v) → ∃ q : ℚ, v.value? = some q ∧
      q = 100 * (a.busyDelta b : ℚ) / a.totalDelta b ∧ 0 ≤ q ∧ q ≤ 100) ∧
    usagePercent a b ≠ .error ⟨PROC_STAT, "the idle delta exceeded the total CPU delta"⟩ ∧
    (∀ c u v w, usagePercent a b = .ok (some u) → usagePercent b c = .ok (some v) →
      usagePercent a c = .ok (some w) → ∃ x y z : ℚ, u.value? = some x ∧ v.value? = some y ∧
        w.value? = some z ∧ min x y ≤ z ∧ z ≤ max x y) := by
  refine ⟨usagePercent_some_iff a b, usagePercent_none_iff a b, ?_, usagePercent_range a b,
    idle_never_exceeds a b, usagePercent_between a b⟩
  rw [← usagePercent_some_iff, ne_eq, ← usagePercent_none_iff]
  cases usagePercent a b with
  | error e => simp
  | ok r => cases r <;> simp

end RpiHealth
