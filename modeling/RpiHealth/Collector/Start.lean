import RpiHealth.Collector.Collector

/-! The start of a collector: it needs the firmware's command, and takes the configured
one before those at the usual places. -/
namespace RpiHealth

def STANDARD_VCGENCMD_PATHS : List String := ["/usr/bin/vcgencmd", "/opt/vc/bin/vcgencmd"]

inductive CollectorInitError where
  | firmwareCommandUnavailable
  deriving DecidableEq, Repr

/-- The text of the error as it is shown to an operator. -/
def CollectorInitError.display : CollectorInitError → String
  | .firmwareCommandUnavailable =>
    "vcgencmd was not found at the configured or standard installation paths"

/-- A path as the comparison of paths sees it: whether it starts at the root, and its
names. -/
def pathComponents (path : String) : Bool × List String :=
  (Text.startsWith '/' path, ((path.toList.splitOn '/').map String.ofList).filter
    (fun name => decide (name ≠ "" ∧ name ≠ ".")))

def resolveVcgencmd (isFile : String → Bool) (configured : String) :
    Except CollectorInitError String :=
  if isFile configured then .ok configured
  else okOr (STANDARD_VCGENCMD_PATHS.find? (fun candidate =>
    decide (pathComponents candidate ≠ pathComponents configured) && isFile candidate))
    .firmwareCommandUnavailable

/-- What the collector finds when it is started. -/
structure StartHost where
  isFile : String → Bool
  source : SystemSource

def Collector.new (config : CollectorConfig) (host : StartHost) :
    Except CollectorInitError Collector :=
  (resolveVcgencmd host.isFile config.vcgencmdPath).map (fun vcgencmdPath =>
    { rootFilesystem := config.rootFilesystem
      vcgencmdPath := vcgencmdPath
      commandTimeout := config.commandTimeout
      metadata := detectMetadata host.source })

/-- A command that can be found: the configured one, or one of the usual ones under
another path. -/
def Findable (isFile : String → Bool) (configured path : String) : Prop :=
  isFile path = true ∧ (path = configured ∨
    path ∈ STANDARD_VCGENCMD_PATHS ∧ pathComponents path ≠ pathComponents configured)

theorem resolveVcgencmd_ok (isFile : String → Bool) (configured path : String)
    (resolved : resolveVcgencmd isFile configured = .ok path) :
    Findable isFile configured path := by
  unfold resolveVcgencmd at resolved
  split at resolved
  · rename_i there
    obtain rfl := Except.ok.inj resolved
    exact ⟨there, .inl rfl⟩
  · cases found : STANDARD_VCGENCMD_PATHS.find? (fun candidate =>
        decide (pathComponents candidate ≠ pathComponents configured) && isFile candidate) with
    | none =>
      rw [found] at resolved
      simp [okOr] at resolved
    | some candidate =>
      rw [found] at resolved
      obtain rfl : candidate = path := Except.ok.inj resolved
      have member := List.mem_of_find?_eq_some found
      have passes := List.find?_some found
      simp only [Bool.and_eq_true, decide_eq_true_eq] at passes
      exact ⟨passes.2, .inr ⟨member, passes.1⟩⟩

theorem resolveVcgencmd_error_iff (isFile : String → Bool) (configured : String) :
    (∃ e, resolveVcgencmd isFile configured = .error e) ↔
      ∀ path, ¬ Findable isFile configured path := by
  constructor
  · rintro ⟨e, failed⟩ path ⟨there, own | ⟨standard, other⟩⟩
    · subst own
      simp [resolveVcgencmd, there] at failed
    · unfold resolveVcgencmd at failed
      split at failed
      · simp at failed
      · cases found : STANDARD_VCGENCMD_PATHS.find? (fun candidate =>
            decide (pathComponents candidate ≠ pathComponents configured) && isFile candidate) with
        | none =>
          have missed := List.find?_eq_none.mp found path standard
          simp [other, there] at missed
        | some candidate =>
          rw [found] at failed
          simp [okOr] at failed
  · intro nowhere
    cases resolved : resolveVcgencmd isFile configured with
    | error e => exact ⟨e, rfl⟩
    | ok path => exact absurd (resolveVcgencmd_ok isFile configured path resolved) (nowhere path)

end RpiHealth
