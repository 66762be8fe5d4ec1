import RpiHealth.Metrics.Disk
import Mathlib.Logic.Function.Basic
import Mathlib.Data.List.Nodup

/-! Memory and swap from the lines of `/proc/meminfo`. -/
namespace RpiHealth

def PROC_MEMINFO : String := "/proc/meminfo"
def BYTES_PER_KIBIBYTE : U64 := 1024

/-- The names that matter; all other lines are skipped. -/
inductive MemoryKey where
  | memTotal | memAvailable | memFree | buffers | cached | sReclaimable | shmem | swapTotal
  | swapFree
  deriving DecidableEq, Repr

def MemoryKey.name : MemoryKey → String
  | .memTotal => "MemTotal"
  | .memAvailable => "MemAvailable"
  | .memFree => "MemFree"
  | .buffers => "Buffers"
  | .cached => "Cached"
  | .sReclaimable => "SReclaimable"
  | .shmem => "Shmem"
  | .swapTotal => "SwapTotal"
  | .swapFree => "SwapFree"

def canonicalKey (key : String) : Option MemoryKey :=
  [MemoryKey.memTotal, .memAvailable, .memFree, .buffers, .cached, .sReclaimable, .shmem,
    .swapTotal, .swapFree].find? (fun known => known.name == key)

structure Memory.MemoryMetrics where
  totalBytes : U64
  availableBytes : U64
  usedBytes : U64
  usedPercent : F64
  swapTotalBytes : U64
  swapFreeBytes : U64
  swapUsedBytes : U64
  swapUsedPercent : F64
  deriving DecidableEq

/-- The values read so far. -/
abbrev MemoryValues := MemoryKey → Option U64

def parseKibValue (raw : String) (key : MemoryKey) : Except ParseError U64 := do
  let fields := Text.words raw
  let first ← okOr fields[0]? ⟨PROC_MEMINFO, key.name ++ " has no value"⟩
  let value ← okOr (U64.parse first) ⟨PROC_MEMINFO, key.name ++ " is not an unsigned integer"⟩
  ensure (fields[1]? = some "kB" ∧ fields[2]? = none)
    ⟨PROC_MEMINFO, key.name ++ " must use the kB unit"⟩
  return value

def relevantValuesFrom (values : MemoryValues) : List String → Except ParseError MemoryValues
  | [] => .ok values
  | line :: rest =>
    match Text.splitOnce ':' line with
    | none => relevantValuesFrom values rest
    | some (rawKey, rawValue) =>
      match canonicalKey (Text.trim rawKey) with
      | none => relevantValuesFrom values rest
      | some key =>
        if (values key).isSome then .error ⟨PROC_MEMINFO, key.name ++ " appears more than once"⟩
        else
          match parseKibValue rawValue key with
          | .error e => .error e
          | .ok value => relevantValuesFrom (Function.update values key (some value)) rest

def parseRelevantValues (input : String) : Except ParseError MemoryValues :=
  relevantValuesFrom (fun _ => none) (Text.lines input)

def requiredKib (values : MemoryValues) (key : MemoryKey) : Except ParseError U64 :=
  okOr (values key) ⟨PROC_MEMINFO, key.name ++ " is missing"⟩

def fallbackAvailableKib (values : MemoryValues) : Except ParseError U64 := do
  let free ← requiredKib values .memFree
  let buffers ← requiredKib values .buffers
  let cached ← requiredKib values .cached
  let reclaimable ← requiredKib values .sReclaimable
  let shared ← requiredKib values .shmem
  let sum ← okOr (U64.checkedSum [free, buffers, cached, reclaimable])
    ⟨PROC_MEMINFO, "the available-memory fallback overflowed u64"⟩
  return sum.saturatingSub shared

def kibToBytes (value : U64) (key : String) : Except ParseError U64 :=
  okOr (value.checkedMul BYTES_PER_KIBIBYTE) ⟨PROC_MEMINFO, key ++ " overflows bytes as u64"⟩

def percentage (used total : U64) : F64 :=
  if total.toNat = 0 then F64.ofNat 0
  else F64.ofNat 100 * F64.ofNat used.toNat / F64.ofNat total.toNat

def availableKib (values : MemoryValues) : Except ParseError U64 :=
  match values .memAvailable with
  | some value => .ok value
  | none => fallbackAvailableKib values

/-- The calculation on the values of the file. -/
def memoryMetrics (values : MemoryValues) : Except ParseError Memory.MemoryMetrics := do
  let totalKib ← requiredKib values .memTotal
  ensure (totalKib.toNat ≠ 0) ⟨PROC_MEMINFO, "MemTotal must be greater than zero"⟩
  let availableKib ← availableKib values
  let availableKib := min availableKib totalKib
  let swapTotalKib ← requiredKib values .swapTotal
  let swapFreeKib ← requiredKib values .swapFree
  let swapFreeKib := min swapFreeKib swapTotalKib
  let totalBytes ← kibToBytes totalKib "MemTotal"
  let availableBytes ← kibToBytes availableKib "MemAvailable"
  let usedBytes ← okOr (totalBytes.checkedSub availableBytes)
    ⟨PROC_MEMINFO, "available memory exceeded total memory"⟩
  let swapTotalBytes ← kibToBytes swapTotalKib "SwapTotal"
  let swapFreeBytes ← kibToBytes swapFreeKib "SwapFree"
  let swapUsedBytes ← okOr (swapTotalBytes.checkedSub swapFreeBytes)
    ⟨PROC_MEMINFO, "free swap exceeded total swap"⟩
  return {
    totalBytes := totalBytes
    availableBytes := availableBytes
    usedBytes := usedBytes
    usedPercent := percentage usedBytes totalBytes
    swapTotalBytes := swapTotalBytes
    swapFreeBytes := swapFreeBytes
    swapUsedBytes := swapUsedBytes
    swapUsedPercent := percentage swapUsedBytes swapTotalBytes }

def parseMeminfo (input : String) : Except ParseError Memory.MemoryMetrics := do
  let values ← parseRelevantValues input
  memoryMetrics values

/-! The lines that matter. -/

/-- A line with a known name before the first colon. -/
def recognised (line : String) : Option (MemoryKey × String) :=
  (Text.splitOnce ':' line).bind (fun parts =>
    (canonicalKey (Text.trim parts.1)).map (fun key => (key, parts.2)))

def recognisedLines (input : String) : List (MemoryKey × String) :=
  (Text.lines input).filterMap recognised

/-- A number of kibibytes with its unit. -/
def kibValue (raw : String) : Option U64 :=
  match Text.words raw with
  | [value, "kB"] => U64.parse value
  | _ => none

/-- Each name once, each with a value. -/
structure WellFormed (entries : List (MemoryKey × String)) : Prop where
  once : (entries.map Prod.fst).Nodup
  readable : ∀ entry ∈ entries, (kibValue entry.2).isSome

def Reports (entries : List (MemoryKey × String)) (key : MemoryKey) (value : U64) : Prop :=
  ∃ raw, (key, raw) ∈ entries ∧ kibValue raw = some value

/-- The loop on the lines that matter. -/
def valuesFrom (values : MemoryValues) :
    List (MemoryKey × String) → Except ParseError MemoryValues
  | [] => .ok values
  | (key, raw) :: rest =>
    if (values key).isSome then .error ⟨PROC_MEMINFO, key.name ++ " appears more than once"⟩
    else
      match parseKibValue raw key with
      | .error e => .error e
      | .ok value => valuesFrom (Function.update values key (some value)) rest

/-- Lines that are not recognised change nothing, whatever they hold. -/
theorem relevantValuesFrom_eq (values : MemoryValues) (lines : List String) :
    relevantValuesFrom values lines = valuesFrom values (lines.filterMap recognised) := by
  induction lines generalizing values with
  | nil => rfl
  | cons line rest ih =>
    rw [relevantValuesFrom, List.filterMap_cons, recognised]
    cases split : Text.splitOnce ':' line with
    | none => simpa using ih values
    | some parts =>
      simp only [Option.bind_some]
      cases known : canonicalKey (Text.trim parts.1) with
      | none => simpa using ih values
      | some key =>
        simp only [Option.map_some, valuesFrom]
        split
        · rfl
        · cases parseKibValue parts.2 key with
          | error e => rfl
          | ok value => exact ih _

theorem parseKibValue_eq_ok (raw : String) (key : MemoryKey) (value : U64) :
    parseKibValue raw key = .ok value ↔ kibValue raw = some value := by
  simp only [parseKibValue, okOr_bind, ensure_bind, kibValue]
  match Text.words raw with
  | [] => simp
  | [number] => simp
  | [number, unit] =>
    by_cases kilobytes : unit = "kB"
    · subst kilobytes
      simp [pure, Except.pure]
    · simp [kilobytes]
  | number :: unit :: more :: rest => simp

theorem reports_cons (key k : MemoryKey) (raw : String) (value : U64)
    (rest : List (MemoryKey × String)) :
    Reports ((key, raw) :: rest) k value ↔
      k = key ∧ kibValue raw = some value ∨ Reports rest k value := by
  simp only [Reports, List.mem_cons, Prod.mk.injEq]
  constructor
  · rintro ⟨found, ⟨rfl, rfl⟩ | later, is⟩
    · exact .inl ⟨rfl, is⟩
    · exact .inr ⟨found, later, is⟩
  · rintro (⟨rfl, is⟩ | ⟨found, later, is⟩)
    · exact ⟨raw, .inl ⟨rfl, rfl⟩, is⟩
    · exact ⟨found, .inr later, is⟩

theorem wellFormed_cons (key : MemoryKey) (raw : String) (rest : List (MemoryKey × String)) :
    WellFormed ((key, raw) :: rest) ↔
      (kibValue raw).isSome ∧ (∀ entry ∈ rest, entry.1 ≠ key) ∧ WellFormed rest := by
  constructor
  · rintro ⟨once, readable⟩
    rw [List.map_cons, List.nodup_cons] at once
    refine ⟨readable (key, raw) (by simp), ?_, once.2,
      fun entry member => readable entry (by simp [member])⟩
    rintro entry member rfl
    exact once.1 (List.mem_map.mpr ⟨entry, member, rfl⟩)
  · rintro ⟨here, others, once, readable⟩
    constructor
    · rw [List.map_cons, List.nodup_cons]
      refine ⟨?_, once⟩
      intro again
      obtain ⟨entry, member, same⟩ := List.mem_map.mp again
      exact others entry member same
    · intro entry member
      rcases List.mem_cons.mp member with rfl | later
      · exact here
      · exact readable entry later

/-- What is read of a line is neither in the earlier values nor in the later lines. -/
theorem reports_update (values : MemoryValues) (key : MemoryKey) (raw : String)
    (rest : List (MemoryKey × String)) (value : U64) (old : values key = none)
    (is : kibValue raw = some value) (k : MemoryKey) (n : U64) :
    Function.update values key (some value) k = some n ∨ Reports rest k n ↔
      values k = some n ∨ Reports ((key, raw) :: rest) k n := by
  rw [reports_cons]
  by_cases same : k = key
  · subst same
    simp [old, is]
  · simp [same]

/-- What the loop accepts, and what it has read at the end. -/
theorem valuesFrom_eq_ok (values final : MemoryValues) (entries : List (MemoryKey × String)) :
    valuesFrom values entries = .ok final ↔
      WellFormed entries ∧ (∀ entry ∈ entries, values entry.1 = none) ∧
        ∀ key value, final key = some value ↔
          values key = some value ∨ Reports entries key value := by
  induction entries generalizing values with
  | nil =>
    simp only [valuesFrom, Except.ok.injEq]
    constructor
    · rintro rfl
      exact ⟨⟨List.nodup_nil, by simp⟩, by simp, by simp [Reports]⟩
    · rintro ⟨-, -, same⟩
      funext key
      apply Option.ext
      intro value
      simpa [Reports] using (same key value).symm
  | cons entry rest ih =>
    obtain ⟨key, raw⟩ := entry
    rw [valuesFrom, wellFormed_cons]
    cases old : values key with
    | some earlier =>
      simp only [Option.isSome_some, if_true, reduceCtorEq, false_iff]
      rintro ⟨-, absent, -⟩
      simpa [old] using absent (key, raw) (by simp)
    | none =>
      simp only [Option.isSome_none, Bool.false_eq_true, if_false]
      cases parsed : parseKibValue raw key with
      | error e =>
        simp only [reduceCtorEq, false_iff]
        rintro ⟨⟨readable, -⟩, -⟩
        obtain ⟨value, is⟩ := Option.isSome_iff_exists.mp readable
        rw [(parseKibValue_eq_ok raw key value).mpr is] at parsed
        contradiction
      | ok value =>
        have is : kibValue raw = some value := (parseKibValue_eq_ok raw key value).mp parsed
        simp only [ih, reports_update values key raw rest value old is]
        constructor
        · rintro ⟨formed, fresh, final_is⟩
          have others : ∀ entry ∈ rest, entry.1 ≠ key := by
            rintro entry member rfl
            simpa using fresh entry member
          refine ⟨⟨by simp [is], others, formed⟩, ?_, final_is⟩
          intro entry member
          rcases List.mem_cons.mp member with rfl | later
          · exact old
          · simpa [Function.update_of_ne (others entry later)] using fresh entry later
        · rintro ⟨⟨-, others, formed⟩, absent, final_is⟩
          refine ⟨formed, ?_, final_is⟩
          intro entry member
          rw [Function.update_of_ne (others entry member)]
          exact absent entry (by simp [member])

/-- What `/proc/meminfo` has to hold, and what it then says. -/
theorem parseRelevantValues_eq_ok (input : String) (values : MemoryValues) :
    parseRelevantValues input = .ok values ↔ WellFormed (recognisedLines input) ∧
      ∀ key value, values key = some value ↔ Reports (recognisedLines input) key value := by
  rw [parseRelevantValues, relevantValuesFrom_eq, valuesFrom_eq_ok]
  simp [recognisedLines]

theorem reports_unique (entries : List (MemoryKey × String)) (formed : WellFormed entries)
    (key : MemoryKey) (v w : U64) (first : Reports entries key v) (second : Reports entries key w) :
    v = w := by
  obtain ⟨raw, member, is⟩ := first
  obtain ⟨raw', member', is'⟩ := second
  have same := List.inj_on_of_nodup_map formed.once member member' rfl
  obtain rfl : raw = raw' := congrArg Prod.snd same
  exact Option.some.inj (is.symm.trans is')

theorem parseRelevantValues_complete (input : String) (formed : WellFormed (recognisedLines input)) :
    ∃ values, parseRelevantValues input = .ok values := by
  classical
  let values : MemoryValues := fun key =>
    if reported : ∃ value, Reports (recognisedLines input) key value then some reported.choose
    else none
  refine ⟨values, (parseRelevantValues_eq_ok input values).mpr ⟨formed, ?_⟩⟩
  intro key value
  by_cases reported : ∃ value, Reports (recognisedLines input) key value
  · simp only [values, dif_pos reported, Option.some.injEq]
    constructor
    · intro same
      exact same ▸ reported.choose_spec
    · intro reports
      exact reports_unique _ formed key _ _ reported.choose_spec reports
  · simp only [values, dif_neg reported, reduceCtorEq, false_iff]
    intro reports
    exact reported ⟨value, reports⟩

/-! The calculation. -/

/-- What kernels without MemAvailable report instead. -/
def Fallback (reports : MemoryKey → U64 → Prop) (available : U64) : Prop :=
  ∃ free buffers cached reclaimable shared : U64, reports .memFree free ∧
    reports .buffers buffers ∧ reports .cached cached ∧ reports .sReclaimable reclaimable ∧
    reports .shmem shared ∧
    free.toNat + buffers.toNat + cached.toNat + reclaimable.toNat < 2 ^ 64 ∧
    available.toNat =
      free.toNat + buffers.toNat + cached.toNat + reclaimable.toNat - shared.toNat

/-- The values of the file in kibibytes, before anything is clamped. -/
structure MemoryFigures where
  total : U64
  available : U64
  swapTotal : U64
  swapFree : U64

/-- The file reports these figures, and they fit. -/
structure Describes (reports : MemoryKey → U64 → Prop) (f : MemoryFigures) : Prop where
  total : reports .memTotal f.total
  nonzero : f.total.toNat ≠ 0
  available : reports .memAvailable f.available ∨
    (∀ value, ¬ reports .memAvailable value) ∧ Fallback reports f.available
  swapTotal : reports .swapTotal f.swapTotal
  swapFree : reports .swapFree f.swapFree
  totalFits : 1024 * f.total.toNat < 2 ^ 64
  swapFits : 1024 * f.swapTotal.toNat < 2 ^ 64

/-- The metrics in bytes: what is free never exceeds what is there. -/
structure MemoryReading (m : Memory.MemoryMetrics) (f : MemoryFigures) : Prop where
  total : m.totalBytes.toNat = 1024 * f.total.toNat
  available : m.availableBytes.toNat = 1024 * min f.total.toNat f.available.toNat
  used : m.usedBytes.toNat + m.availableBytes.toNat = m.totalBytes.toNat
  usedPercent : m.usedPercent = percentage m.usedBytes m.totalBytes
  swapTotal : m.swapTotalBytes.toNat = 1024 * f.swapTotal.toNat
  swapFree : m.swapFreeBytes.toNat = 1024 * min f.swapFree.toNat f.swapTotal.toNat
  swapUsed : m.swapUsedBytes.toNat + m.swapFreeBytes.toNat = m.swapTotalBytes.toNat
  swapUsedPercent : m.swapUsedPercent = percentage m.swapUsedBytes m.swapTotalBytes

theorem availableKib_eq_ok (values : MemoryValues) (available : U64) :
    availableKib values = .ok available ↔ values .memAvailable = some available ∨
      (∀ value, values .memAvailable ≠ some value) ∧
        Fallback (fun key value => values key = some value) available := by
  unfold availableKib
  cases reported : values .memAvailable with
  | some value => simp
  | none =>
    simp only [fallbackAvailableKib, requiredKib, okOr_bind, U64.checkedSum_eq_some, Fallback,
      List.map_cons, List.map_nil, List.sum_cons, List.sum_nil, pure, Except.pure, Except.ok.injEq]
    constructor
    · rintro ⟨free, f, buffers, b, cached, c, reclaimable, r, shared, s, sum, sum_is, rfl⟩
      right
      have small := sum.small
      refine ⟨by simp, free, buffers, cached, reclaimable, shared, f, b, c, r, s, by omega, ?_⟩
      rw [U64.saturatingSub_toNat]
      omega
    · rintro (impossible | ⟨-, free, buffers, cached, reclaimable, shared, f, b, c, r, s, small, is⟩)
      · contradiction
      · refine ⟨free, f, buffers, b, cached, c, reclaimable, r, shared, s, ⟨_, small⟩,
          by simp only; omega, ?_⟩
        apply U64.ext
        rw [U64.saturatingSub_toNat]
        exact is.symm

theorem memoryMetrics_eq_ok (values : MemoryValues) (m : Memory.MemoryMetrics) :
    memoryMetrics values = .ok m ↔ ∃ f,
      Describes (fun key value => values key = some value) f ∧ MemoryReading m f := by
  have kibibyte : BYTES_PER_KIBIBYTE.toNat = 1024 := rfl
  simp only [memoryMetrics, requiredKib, kibToBytes, okOr_bind, ensure_bind,
    bind_eq_ok (availableKib values), availableKib_eq_ok, U64.checkedMul_eq_some,
    U64.checkedSub_eq_some, U64.min_toNat, kibibyte]
  constructor
  · rintro ⟨total, total_is, nonzero, available, available_is, swapTotal, swapTotal_is, swapFree,
      swapFree_is, totalBytes, t, availableBytes, a, usedBytes, ⟨-, u⟩, swapTotalBytes, st,
      swapFreeBytes, sf, swapUsedBytes, ⟨-, su⟩, result⟩
    have result := Except.ok.inj result
    subst result
    have small := totalBytes.small
    have swap_small := swapTotalBytes.small
    refine ⟨⟨total, available, swapTotal, swapFree⟩, ⟨total_is, nonzero, available_is,
      swapTotal_is, swapFree_is, by simp only; omega, by simp only; omega⟩, ?_⟩
    constructor <;> simp only <;> omega
  · rintro ⟨f, ⟨total_is, nonzero, available_is, swapTotal_is, swapFree_is, fits, swapFits⟩, reading⟩
    obtain ⟨total, available, used, usedPercent, swapTotal, swapFree, swapUsed, swapUsedPercent⟩ :=
      reading
    refine ⟨f.total, total_is, nonzero, f.available, available_is, f.swapTotal, swapTotal_is,
      f.swapFree, swapFree_is, m.totalBytes, by omega, m.availableBytes, by omega, m.usedBytes,
      ⟨by omega, by omega⟩, m.swapTotalBytes, by omega, m.swapFreeBytes, by omega,
      m.swapUsedBytes, ⟨by omega, by omega⟩, ?_⟩
    rw [← usedPercent, ← swapUsedPercent]
    rfl

theorem reading_exists (f : MemoryFigures) (fits : 1024 * f.total.toNat < 2 ^ 64)
    (swapFits : 1024 * f.swapTotal.toNat < 2 ^ 64) : ∃ m, MemoryReading m f := by
  let available := min f.total.toNat f.available.toNat
  let free := min f.swapFree.toNat f.swapTotal.toNat
  have within : available ≤ f.total.toNat := min_le_left _ _
  have swap_within : free ≤ f.swapTotal.toNat := min_le_right _ _
  let totalBytes : U64 := ⟨1024 * f.total.toNat, fits⟩
  let availableBytes : U64 := ⟨1024 * available, by omega⟩
  let usedBytes : U64 := ⟨1024 * f.total.toNat - 1024 * available, by omega⟩
  let swapTotalBytes : U64 := ⟨1024 * f.swapTotal.toNat, swapFits⟩
  let swapFreeBytes : U64 := ⟨1024 * free, by omega⟩
  let swapUsedBytes : U64 := ⟨1024 * f.swapTotal.toNat - 1024 * free, by omega⟩
  refine ⟨⟨totalBytes, availableBytes, usedBytes, percentage usedBytes totalBytes, swapTotalBytes,
    swapFreeBytes, swapUsedBytes, percentage swapUsedBytes swapTotalBytes⟩, ?_⟩
  refine ⟨rfl, rfl, ?_, rfl, rfl, rfl, ?_, rfl⟩
  · simp only [usedBytes, availableBytes, totalBytes]
    omega
  · simp only [swapUsedBytes, swapFreeBytes, swapTotalBytes]
    omega

/-! What cannot fail. -/

/-- The texts of the errors behind the clamps. -/
def clampedErrors : List String :=
  ["MemAvailable overflows bytes as u64", "SwapFree overflows bytes as u64",
    "available memory exceeded total memory", "free swap exceeded total swap"]

theorem parseKibValue_error (raw : String) (key : MemoryKey) (e : ParseError)
    (failed : parseKibValue raw key = .error e) : e.detail ∉ clampedErrors := by
  rcases okOr_bind_error _ _ _ _ failed with ⟨-, rfl⟩ | ⟨first, -, failed⟩
  · cases key <;> decide
  rcases okOr_bind_error _ _ _ _ failed with ⟨-, rfl⟩ | ⟨value, -, failed⟩
  · cases key <;> decide
  rcases bind_eq_error _ _ _ failed with failed | ⟨_, -, failed⟩
  · obtain ⟨-, rfl⟩ := ensure_eq_error _ _ _ failed
    cases key <;> decide
  · contradiction

theorem valuesFrom_error (values : MemoryValues) (entries : List (MemoryKey × String))
    (e : ParseError) (failed : valuesFrom values entries = .error e) :
    e.detail ∉ clampedErrors := by
  induction entries generalizing values with
  | nil => contradiction
  | cons entry rest ih =>
    obtain ⟨key, raw⟩ := entry
    rw [valuesFrom] at failed
    split at failed
    · obtain rfl := Except.error.inj failed
      cases key <;> decide
    · cases parsed : parseKibValue raw key with
      | error inner =>
        rw [parsed] at failed
        obtain rfl := Except.error.inj failed
        exact parseKibValue_error raw key _ parsed
      | ok value =>
        rw [parsed] at failed
        exact ih _ failed

theorem requiredKib_error (values : MemoryValues) (key : MemoryKey) (e : ParseError)
    (failed : requiredKib values key = .error e) : e.detail ∉ clampedErrors := by
  obtain ⟨-, rfl⟩ := okOr_eq_error _ _ _ failed
  cases key <;> decide

theorem availableKib_error (values : MemoryValues) (e : ParseError)
    (failed : availableKib values = .error e) : e.detail ∉ clampedErrors := by
  unfold availableKib at failed
  split at failed
  · contradiction
  · rcases bind_eq_error _ _ _ failed with failed | ⟨_, -, failed⟩
    · exact requiredKib_error values _ e failed
    rcases bind_eq_error _ _ _ failed with failed | ⟨_, -, failed⟩
    · exact requiredKib_error values _ e failed
    rcases bind_eq_error _ _ _ failed with failed | ⟨_, -, failed⟩
    · exact requiredKib_error values _ e failed
    rcases bind_eq_error _ _ _ failed with failed | ⟨_, -, failed⟩
    · exact requiredKib_error values _ e failed
    rcases bind_eq_error _ _ _ failed with failed | ⟨_, -, failed⟩
    · exact requiredKib_error values _ e failed
    rcases okOr_bind_error _ _ _ _ failed with ⟨-, rfl⟩ | ⟨_, -, failed⟩
    · decide
    · contradiction

/-- What is clamped to a total converts and subtracts where the total converts. -/
theorem clamped_converts (part whole wholeBytes : U64)
    (converted : whole.checkedMul BYTES_PER_KIBIBYTE = some wholeBytes) :
    (min part whole).checkedMul BYTES_PER_KIBIBYTE ≠ none ∧
      ∀ partBytes, (min part whole).checkedMul BYTES_PER_KIBIBYTE = some partBytes →
        wholeBytes.checkedSub partBytes ≠ none := by
  have kibibyte : BYTES_PER_KIBIBYTE.toNat = 1024 := rfl
  have within : (min part whole).toNat ≤ whole.toNat := by
    rw [U64.min_toNat]
    exact min_le_right _ _
  rw [U64.checkedMul_eq_some, kibibyte] at converted
  have small := wholeBytes.small
  constructor
  · have fits : (min part whole).toNat * BYTES_PER_KIBIBYTE.toNat < 2 ^ 64 := by
      rw [kibibyte]
      omega
    rw [U64.checkedMul, U64.ofNat?, dif_pos fits]
    exact Option.some_ne_none _
  · intro partBytes part_is
    rw [U64.checkedMul_eq_some, kibibyte] at part_is
    rw [U64.checkedSub, if_pos (by omega)]
    exact Option.some_ne_none _

theorem memoryMetrics_error (values : MemoryValues) (e : ParseError)
    (failed : memoryMetrics values = .error e) : e.detail ∉ clampedErrors := by
  rcases bind_eq_error _ _ _ failed with failed | ⟨total, -, failed⟩
  · exact requiredKib_error values _ e failed
  rcases bind_eq_error _ _ _ failed with failed | ⟨_, -, failed⟩
  · obtain ⟨-, rfl⟩ := ensure_eq_error _ _ _ failed
    decide
  rcases bind_eq_error _ _ _ failed with failed | ⟨available, -, failed⟩
  · exact availableKib_error values e failed
  rcases bind_eq_error _ _ _ failed with failed | ⟨swapTotal, -, failed⟩
  · exact requiredKib_error values _ e failed
  rcases bind_eq_error _ _ _ failed with failed | ⟨swapFree, -, failed⟩
  · exact requiredKib_error values _ e failed
  rcases okOr_bind_error _ _ _ _ failed with ⟨-, rfl⟩ | ⟨totalBytes, converted, failed⟩
  · decide
  obtain ⟨fits, subtracts⟩ := clamped_converts available total totalBytes converted
  rcases okOr_bind_error _ _ _ _ failed with ⟨overflow, -⟩ | ⟨availableBytes, part, failed⟩
  · exact absurd overflow fits
  rcases okOr_bind_error _ _ _ _ failed with ⟨exceeded, -⟩ | ⟨usedBytes, -, failed⟩
  · exact absurd exceeded (subtracts availableBytes part)
  rcases okOr_bind_error _ _ _ _ failed with ⟨-, rfl⟩ | ⟨swapTotalBytes, converted, failed⟩
  · decide
  obtain ⟨fits, subtracts⟩ := clamped_converts swapFree swapTotal swapTotalBytes converted
  rcases okOr_bind_error _ _ _ _ failed with ⟨overflow, -⟩ | ⟨swapFreeBytes, part, failed⟩
  · exact absurd overflow fits
  rcases okOr_bind_error _ _ _ _ failed with ⟨exceeded, -⟩ | ⟨swapUsedBytes, -, failed⟩
  · exact absurd exceeded (subtracts swapFreeBytes part)
  · cases failed

/-! The whole parser. -/

theorem parseMeminfo_eq_ok (input : String) (m : Memory.MemoryMetrics) :
    parseMeminfo input = .ok m ↔ WellFormed (recognisedLines input) ∧
      ∃ f, Describes (Reports (recognisedLines input)) f ∧ MemoryReading m f := by
  rw [parseMeminfo, bind_eq_ok]
  constructor
  · rintro ⟨values, read, computed⟩
    obtain ⟨formed, values_are⟩ := (parseRelevantValues_eq_ok input values).mp read
    have same : (fun key value => values key = some value) = Reports (recognisedLines input) := by
      funext key value
      exact propext (values_are key value)
    rw [memoryMetrics_eq_ok, same] at computed
    exact ⟨formed, computed⟩
  · rintro ⟨formed, described⟩
    obtain ⟨values, read⟩ := parseRelevantValues_complete input formed
    obtain ⟨-, values_are⟩ := (parseRelevantValues_eq_ok input values).mp read
    have same : (fun key value => values key = some value) = Reports (recognisedLines input) := by
      funext key value
      exact propext (values_are key value)
    refine ⟨values, read, ?_⟩
    rw [memoryMetrics_eq_ok, same]
    exact described

/-- Order does not matter, and neither do lines with other names. -/
theorem parseMeminfo_perm (input other : String)
    (same : (recognisedLines other).Perm (recognisedLines input)) (m : Memory.MemoryMetrics) :
    parseMeminfo other = .ok m ↔ parseMeminfo input = .ok m := by
  have formed : WellFormed (recognisedLines other) ↔ WellFormed (recognisedLines input) := by
    constructor
    · rintro ⟨once, readable⟩
      exact ⟨(same.map Prod.fst).nodup_iff.mp once,
        fun entry member => readable entry (same.mem_iff.mpr member)⟩
    · rintro ⟨once, readable⟩
      exact ⟨(same.map Prod.fst).nodup_iff.mpr once,
        fun entry member => readable entry (same.mem_iff.mp member)⟩
  have reports : Reports (recognisedLines other) = Reports (recognisedLines input) := by
    funext key value
    simp only [Reports, same.mem_iff]
  rw [parseMeminfo_eq_ok, parseMeminfo_eq_ok, formed, reports]

/-- The parser against its reference: what it accepts, what it returns, that neither
depends on the order of the lines, and that no step behind the clamps can fail. -/
theorem parse_meminfo_reference (input : String) :
    ((∃ m, parseMeminfo input = .ok m) ↔ WellFormed (recognisedLines input) ∧
      ∃ f, Describes (Reports (recognisedLines input)) f) ∧
    (∀ m, parseMeminfo input = .ok m → ∃ f, Describes (Reports (recognisedLines input)) f ∧
      MemoryReading m f ∧
      m.usedPercent.value? = some (percentOf m.usedBytes.toNat m.totalBytes.toNat) ∧
      m.swapUsedPercent.value? =
        some (percentOf m.swapUsedBytes.toNat m.swapTotalBytes.toNat)) ∧
    (∀ other, (recognisedLines other).Perm (recognisedLines input) →
      ∀ m, parseMeminfo other = .ok m ↔ parseMeminfo input = .ok m) ∧
    (∀ e, parseMeminfo input = .error e → e.detail ∉ clampedErrors) := by
  have percent (used total : U64) :
      (percentage used total).value? = some (percentOf used.toNat total.toNat) :=
    F64.percentOf_value _ _ used.small total.small
  refine ⟨?_, ?_, fun other same m => parseMeminfo_perm input other same m, ?_⟩
  · constructor
    · rintro ⟨m, parsed⟩
      obtain ⟨formed, f, described, -⟩ := (parseMeminfo_eq_ok input m).mp parsed
      exact ⟨formed, f, described⟩
    · rintro ⟨formed, f, described⟩
      obtain ⟨m, reading⟩ := reading_exists f described.totalFits described.swapFits
      exact ⟨m, (parseMeminfo_eq_ok input m).mpr ⟨formed, f, described, reading⟩⟩
  · intro m parsed
    obtain ⟨-, f, described, reading⟩ := (parseMeminfo_eq_ok input m).mp parsed
    refine ⟨f, described, reading, ?_, ?_⟩
    · rw [reading.usedPercent, percent]
    · rw [reading.swapUsedPercent, percent]
  · intro e failed
    rcases bind_eq_error _ _ _ failed with failed | ⟨values, -, failed⟩
    · rw [parseRelevantValues, relevantValuesFrom_eq] at failed
      exact valuesFrom_error _ _ e failed
    · exact memoryMetrics_error values e failed

end RpiHealth
