import RpiHealth.Config.Config
import RpiHealth.Metrics.Metadata

/-! What the collector detects of the device when it starts, and the check that
reports what is missing of it. -/
namespace RpiHealth

def PROC_CPUINFO : String := "/proc/cpuinfo"
def DEVICE_TREE_MODEL : String := "/proc/device-tree/model"
def KERNEL_RELEASE : String := "/proc/sys/kernel/osrelease"
def HOSTNAME : String := "/etc/hostname"

/-- What the files hold at the start, where each is read once. -/
structure SystemSource where
  readText : String → Except IoError String
  readBytes : String → Except IoError ByteArray

structure DeviceMetadata where
  hostname : Option String := none
  model : Option String := none
  boardRevision : Option String := none
  serialNumber : Option String := none
  kernelRelease : Option String := none
  operatingSystem : Option String := none
  deriving DecidableEq, Repr

def firstNonEmptyLine (input : String) : Option String :=
  ((Text.lines input).map Text.trim).find? (fun line => line != "")

def operatingSystem (release : OsRelease) : Option String :=
  release.prettyName.orElse (fun _ =>
    match release.name, release.version with
    | some name, some version =>
      if version ≠ "" then some (name ++ " " ++ version) else some name
    | some name, none => some name
    | none, _ => none)

def detectMetadata (source : SystemSource) : DeviceMetadata :=
  let cpuinfo := ((source.readText PROC_CPUINFO).toOption.map parseCpuinfo).getD {}
  { hostname := (source.readText HOSTNAME).toOption.bind parseHostname
    model := (source.readBytes DEVICE_TREE_MODEL).toOption.bind parseDeviceTreeModel
    boardRevision := cpuinfo.revision
    serialNumber := cpuinfo.serial
    kernelRelease := (source.readText KERNEL_RELEASE).toOption.bind firstNonEmptyLine
    operatingSystem := ((source.readText OS_RELEASE).toOption.bind
      (fun value => (parseOsRelease value).toOption)).bind operatingSystem }

/-! The diagnostic check of the metadata. -/

def METADATA_CHECK : String := "metadata"

inductive CheckStatus where
  | pass | warning | failure | skipped
  deriving DecidableEq, Repr

structure DiagnosticCheck where
  name : String
  status : CheckStatus
  summary : String
  deriving DecidableEq, Repr

/-- The fields that the check asks for, under the names it reports. -/
def checkedMetadata (metadata : DeviceMetadata) : List (String × Option String) :=
  [("model", metadata.model), ("board revision", metadata.boardRevision),
    ("kernel release", metadata.kernelRelease), ("operating system", metadata.operatingSystem)]

def missingMetadata (metadata : DeviceMetadata) : List String :=
  (checkedMetadata metadata).filterMap (fun field =>
    if field.2.isNone then some field.1 else none)

def metadataCheck (metadata : DeviceMetadata) : DiagnosticCheck :=
  if missingMetadata metadata = [] then
    ⟨METADATA_CHECK, .pass,
      "model, board revision, kernel release, and operating system metadata are available"⟩
  else
    ⟨METADATA_CHECK, .warning,
      "metadata unavailable: " ++ String.intercalate ", " (missingMetadata metadata)⟩

/-! No field is blank, but for the operating system. -/

/-- A field that is there is not empty. -/
def Filled (field : Option String) : Prop := field ≠ some ""

namespace DeviceMetadata

structure NeverBlank (m : DeviceMetadata) : Prop where
  hostname : Filled m.hostname
  model : Filled m.model
  boardRevision : Filled m.boardRevision
  serialNumber : Filled m.serialNumber
  kernelRelease : Filled m.kernelRelease
  operatingSystem : Filled m.operatingSystem

/-- What the check takes for available is not blank. -/
def AvailableFilled (m : DeviceMetadata) : Prop :=
  ∀ field ∈ checkedMetadata m, field.1 ∉ missingMetadata m → ∃ value, field.2 = some value ∧
    value ≠ ""

end DeviceMetadata

/-- The release file, where it can be read, leads to a name that is not empty: the
pretty one, or else the plain one or a version behind it. -/
def NamesSystem (source : SystemSource) : Prop :=
  ∀ text release, source.readText OS_RELEASE = .ok text → parseOsRelease text = .ok release →
    release.prettyName ≠ some "" ∧
      (release.prettyName = none → release.name = some "" → ∃ v, release.version = some v ∧ v ≠ "")

theorem filled_nonEmpty (value : String) : Filled (nonEmpty value) := by
  unfold nonEmpty
  split
  · rename_i some_left
    intro same
    exact some_left (Option.some.inj same)
  · simp [Filled]

theorem filled_bind {A : Type} (value : Option A) (next : A → Option String)
    (filled : ∀ a, Filled (next a)) : Filled (value.bind next) := by
  cases value with
  | none => simp [Filled]
  | some a => exact filled a

theorem filled_hostname (input : String) : Filled (parseHostname input) := by
  intro blank
  obtain ⟨line, -, found⟩ := List.exists_of_findSome?_eq_some blank
  exact filled_nonEmpty _ found

theorem filled_deviceTreeModel (input : ByteArray) : Filled (parseDeviceTreeModel input) :=
  filled_bind _ _ (fun _ => filled_nonEmpty _)

theorem filled_firstNonEmptyLine (input : String) : Filled (firstNonEmptyLine input) := by
  intro blank
  have found := List.find?_some blank
  simp at found

theorem filled_cpuinfoLine (metadata : CpuInfoMetadata) (line : String)
    (revision : Filled metadata.revision) (serial : Filled metadata.serial) :
    Filled (cpuinfoLine metadata line).revision ∧ Filled (cpuinfoLine metadata line).serial := by
  unfold cpuinfoLine
  split
  · exact ⟨revision, serial⟩
  · rename_i rawKey rawValue parts
    simp only
    split
    · exact ⟨revision, serial⟩
    · rename_i some_left
      have value : Filled (some (Text.trim rawValue)) := fun same =>
        some_left (Option.some.inj same)
      split
      · exact ⟨value, serial⟩
      split
      · exact ⟨revision, value⟩
      · exact ⟨revision, serial⟩

theorem filled_cpuinfo (input : String) :
    Filled (parseCpuinfo input).revision ∧ Filled (parseCpuinfo input).serial := by
  unfold parseCpuinfo
  generalize Text.lines input = lines
  have start : Filled ({} : CpuInfoMetadata).revision ∧ Filled ({} : CpuInfoMetadata).serial := by
    simp [Filled]
  generalize ({} : CpuInfoMetadata) = metadata at start ⊢
  induction lines generalizing metadata with
  | nil => exact start
  | cons line rest ih => exact ih _ (filled_cpuinfoLine metadata line start.1 start.2)

/-- When the name that the release file leads to is empty. -/
theorem filled_operatingSystem_iff (release : OsRelease) :
    Filled (operatingSystem release) ↔ release.prettyName ≠ some "" ∧
      (release.prettyName = none → release.name = some "" →
        ∃ v, release.version = some v ∧ v ≠ "") := by
  obtain ⟨pretty, name, version, versionId, id⟩ := release
  cases pretty with
  | some pretty => simp [operatingSystem, Filled]
  | none =>
    cases name with
    | none => simp [operatingSystem, Filled]
    | some name =>
      cases version with
      | none => simp [operatingSystem, Filled]
      | some version =>
        by_cases empty : version = ""
        · simp [operatingSystem, Filled, empty]
        · simp [operatingSystem, Filled, empty]

theorem available_filled (m : DeviceMetadata) (filled : m.NeverBlank) : m.AvailableFilled := by
  intro field member available
  have present : field.2.isSome := by
    cases value : field.2 with
    | some v => rfl
    | none =>
      exfalso
      apply available
      rw [missingMetadata, List.mem_filterMap]
      exact ⟨field, member, by simp [value]⟩
  obtain ⟨value, found⟩ := Option.isSome_iff_exists.mp present
  refine ⟨value, found, ?_⟩
  rintro rfl
  simp only [checkedMetadata, List.mem_cons, List.not_mem_nil, or_false] at member
  rcases member with rfl | rfl | rfl | rfl
  · exact filled.model found
  · exact filled.boardRevision found
  · exact filled.kernelRelease found
  · exact filled.operatingSystem found

/-- No field is blank exactly if the release file leads to a name. -/
theorem detected_never_blank_iff (source : SystemSource) :
    (detectMetadata source).NeverBlank ∧ (detectMetadata source).AvailableFilled ↔
      NamesSystem source := by
  have system : Filled (detectMetadata source).operatingSystem ↔ NamesSystem source := by
    unfold detectMetadata NamesSystem
    cases text : source.readText OS_RELEASE with
    | error e => simp [Except.toOption, Filled]
    | ok input =>
      cases parsed : parseOsRelease input with
      | error e =>
        simp only [Except.toOption, Option.bind_some, parsed, Option.bind_none]
        constructor
        · rintro - text release ⟨⟩ parsed'
          rw [parsed] at parsed'
          cases parsed'
        · intro named
          simp [Filled]
      | ok release =>
        simp only [Except.toOption, Option.bind_some, parsed, filled_operatingSystem_iff]
        constructor
        · rintro named text release' ⟨⟩ parsed'
          rw [parsed] at parsed'
          cases parsed'
          exact named
        · intro named
          exact named input release rfl parsed
  have cpuinfo : Filled (detectMetadata source).boardRevision ∧
      Filled (detectMetadata source).serialNumber := by
    unfold detectMetadata
    cases (source.readText PROC_CPUINFO).toOption with
    | none => simp [Filled]
    | some input => exact filled_cpuinfo input
  constructor
  · rintro ⟨filled, -⟩
    exact system.mp filled.operatingSystem
  · intro named
    have filled : (detectMetadata source).NeverBlank := by
      refine ⟨?_, ?_, cpuinfo.1, cpuinfo.2, ?_, system.mpr named⟩
      · exact filled_bind _ _ filled_hostname
      · exact filled_bind _ _ filled_deviceTreeModel
      · exact filled_bind _ _ filled_firstNonEmptyLine
    exact ⟨filled, available_filled _ filled⟩

def emptyRelease : SystemSource where
  readText path :=
    if path = OS_RELEASE then .ok "PRETTY_NAME=\"\"\nNAME=\"Debian\"\n"
    else .error ⟨.notFound, "entity not found"⟩
  readBytes _ := .error ⟨.notFound, "entity not found"⟩

/-- An empty pretty name hides the plain name, and is counted as available. -/
theorem empty_release_blank :
    ¬ ∀ source : SystemSource,
      (detectMetadata source).NeverBlank ∧ (detectMetadata source).AvailableFilled := by
  intro never
  have blank : (detectMetadata emptyRelease).operatingSystem = some "" := by decide +kernel
  exact (never emptyRelease).1.operatingSystem blank

end RpiHealth
