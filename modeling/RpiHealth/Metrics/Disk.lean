import RpiHealth.Metrics.Cpu
import RpiHealth.Telemetry.State

/-! Filesystem utilisation from the block counters of `statvfs`. -/
namespace RpiHealth

def STATVFS : String := "statvfs"

structure StatvfsValues where
  fragmentSize : U64
  blocks : U64
  blocksFree : U64
  blocksAvailable : U64
  deriving DecidableEq

def bytes (blocks fragmentSize : U64) (name : String) : Except ParseError U64 :=
  okOr (blocks.checkedMul fragmentSize) ⟨STATVFS, name ++ " overflows bytes as u64"⟩

/-- The percentage follows `df`: used space over used plus available space. -/
def calculateDiskMetrics (mount : String) (values : StatvfsValues) :
    Except ParseError DiskMetrics := do
  let totalBytes ← bytes values.blocks values.fragmentSize "total size"
  let freeBytes ← bytes values.blocksFree values.fragmentSize "free space"
  let availableBytes ← bytes values.blocksAvailable values.fragmentSize "available space"
  let usedBytes ← okOr (totalBytes.checkedSub freeBytes)
    ⟨STATVFS, "free space is greater than the filesystem size"⟩
  let denominator ← okOr (usedBytes.checkedAdd availableBytes)
    ⟨STATVFS, "used plus available space overflows u64"⟩
  let usedPercent :=
    if denominator = 0 then F64.ofNat 0
    else F64.ofNat 100 * F64.ofNat usedBytes.toNat / F64.ofNat denominator.toNat
  return {
    mount := mount
    totalBytes := some totalBytes
    availableBytes := some availableBytes
    usedBytes := some usedBytes
    usedPercent := some usedPercent }

namespace StatvfsValues

def total (v : StatvfsValues) : Nat := v.blocks.toNat * v.fragmentSize.toNat
def free (v : StatvfsValues) : Nat := v.blocksFree.toNat * v.fragmentSize.toNat
def available (v : StatvfsValues) : Nat := v.blocksAvailable.toNat * v.fragmentSize.toNat
def used (v : StatvfsValues) : Nat := v.total - v.free

/-- What the calculation accepts, in bytes. -/
structure Accepted (v : StatvfsValues) : Prop where
  total : v.total < 2 ^ 64
  available : v.available < 2 ^ 64
  free : v.free ≤ v.total
  denominator : v.used + v.available < 2 ^ 64

end StatvfsValues

/-- Used space in percent, or zero where there is no space at all. -/
def percentOf (part whole : Nat) : ℚ := if whole = 0 then 0 else 100 * (part : ℚ) / whole

theorem percentOf_range (part whole : Nat) (within : part ≤ whole) :
    0 ≤ percentOf part whole ∧ percentOf part whole ≤ 100 := by
  unfold percentOf
  split
  · norm_num
  · rename_i nonzero
    have whole_pos : (0 : ℚ) < whole := by exact_mod_cast Nat.pos_of_ne_zero nonzero
    have part_le : (part : ℚ) ≤ whole := by exact_mod_cast within
    refine ⟨by positivity, ?_⟩
    rw [div_le_iff₀ whole_pos]
    linarith

theorem F64.percentOf_value (part whole : Nat) (small : part < 2 ^ 64) (bound : whole < 2 ^ 64) :
    (if whole = 0 then F64.ofNat 0
      else F64.ofNat 100 * F64.ofNat part / F64.ofNat whole).value? =
      some (percentOf part whole) := by
  unfold percentOf
  split
  · exact F64.ofNat_value 0 (by decide)
  · exact F64.percent_value part whole (by omega) small bound

/-- The reading of accepted counters, field by field. -/
structure DiskReading (mount : String) (v : StatvfsValues) (m : DiskMetrics) : Prop where
  mount : m.mount = mount
  total : m.totalBytes.map U64.toNat = some v.total
  available : m.availableBytes.map U64.toNat = some v.available
  used : m.usedBytes.map U64.toNat = some v.used
  percent : m.usedPercent.bind F64.value? = some (percentOf v.used (v.used + v.available))

theorem calculateDiskMetrics_spec (mount : String) (v : StatvfsValues) :
    (∀ m, calculateDiskMetrics mount v = .ok m → v.Accepted ∧ DiskReading mount v m) ∧
      (v.Accepted → ∃ m, calculateDiskMetrics mount v = .ok m) := by
  have zero (n : U64) : n = 0 ↔ n.toNat = 0 := U64.ext_iff
  simp only [calculateDiskMetrics, bytes, okOr_bind, U64.checkedMul_eq_some,
    U64.checkedAdd_eq_some, U64.checkedSub_eq_some]
  constructor
  · rintro m ⟨total, total_is, free, free_is, available, available_is, used, ⟨within, used_is⟩,
      denominator, denominator_is, result⟩
    have result := Except.ok.inj result
    have total_eq : v.total = total.toNat := total_is
    have free_eq : v.free = free.toNat := free_is
    have available_eq : v.available = available.toNat := available_is
    have used_eq : used.toNat = v.used := by rw [used_is, StatvfsValues.used, total_eq, free_eq]
    have whole : denominator.toNat = v.used + v.available := by
      rw [← denominator_is, used_eq, available_eq]
    have small := used.small
    have bound := denominator.small
    constructor
    · exact ⟨total_eq ▸ total.small, available_eq ▸ available.small,
        by rw [free_eq, total_eq]; exact within, whole ▸ bound⟩
    · subst result
      refine ⟨rfl, ?_, ?_, ?_, ?_⟩
      · rw [Option.map_some, total_eq]
      · rw [Option.map_some, available_eq]
      · rw [Option.map_some, used_eq]
      · simp only [Option.bind_some, zero]
        rw [F64.percentOf_value _ _ small bound, used_eq, whole]
  · rintro ⟨total_small, available_small, within, denominator_small⟩
    exact ⟨_, ⟨v.total, total_small⟩, rfl, ⟨v.free, by omega⟩, rfl, ⟨v.available, available_small⟩,
      rfl, ⟨v.used, by rw [StatvfsValues.used]; omega⟩, ⟨within, rfl⟩,
      ⟨v.used + v.available, denominator_small⟩, rfl, rfl⟩

/-- Errors are exactly an overflow and more free than total bytes. Used and available
space exceed the total exactly where more is available than free, which is not checked. -/
theorem disk_metrics_checked (mount : String) (v : StatvfsValues) :
    ((∃ e, calculateDiskMetrics mount v = .error e) ↔
      2 ^ 64 - 1 < v.total ∨ 2 ^ 64 - 1 < v.free ∨ 2 ^ 64 - 1 < v.available ∨
        v.total < v.free ∨ 2 ^ 64 - 1 < v.used + v.available) ∧
    (∀ m, calculateDiskMetrics mount v = .ok m →
      DiskReading mount v m ∧ v.free ≤ v.total ∧ v.used + v.free = v.total ∧
        0 ≤ percentOf v.used (v.used + v.available) ∧
        percentOf v.used (v.used + v.available) ≤ 100 ∧
        (v.used + v.available ≤ v.total ↔ v.available ≤ v.free)) := by
  obtain ⟨sound, complete⟩ := calculateDiskMetrics_spec mount v
  have accepted_iff : v.Accepted ↔
      ¬ (2 ^ 64 - 1 < v.total ∨ 2 ^ 64 - 1 < v.free ∨ 2 ^ 64 - 1 < v.available ∨
        v.total < v.free ∨ 2 ^ 64 - 1 < v.used + v.available) := by
    constructor
    · rintro ⟨total, available, free, denominator⟩
      omega
    · intro none
      exact ⟨by omega, by omega, by omega, by omega⟩
  constructor
  · rw [← not_iff_not, ← accepted_iff]
    constructor
    · intro passes
      cases result : calculateDiskMetrics mount v with
      | error e => exact absurd ⟨e, result⟩ passes
      | ok m => exact (sound m result).1
    · rintro accepted ⟨e, failed⟩
      obtain ⟨m, computed⟩ := complete accepted
      rw [computed] at failed
      contradiction
  · intro m computed
    obtain ⟨accepted, reading⟩ := sound m computed
    have within := accepted.free
    have range := percentOf_range v.used (v.used + v.available) (by omega)
    have used_is : v.used = v.total - v.free := rfl
    exact ⟨reading, within, by omega, range.1, range.2, by omega⟩

/-- Five blocks are available of two that are free. -/
def overcommitted : StatvfsValues := ⟨4096, 10, 2, 5⟩

theorem overcommitted_accepted :
    overcommitted.blocksFree.toNat < overcommitted.blocksAvailable.toNat ∧
      ∃ m, calculateDiskMetrics "/" overcommitted = .ok m ∧
        m.totalBytes = some 40960 ∧ m.usedBytes = some 32768 ∧ m.availableBytes = some 20480 ∧
        ¬ 32768 + 20480 ≤ 40960 :=
  ⟨by decide, _, rfl, rfl, rfl, rfl, by decide⟩

end RpiHealth
