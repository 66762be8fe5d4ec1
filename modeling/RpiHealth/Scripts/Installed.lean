import RpiHealth.Scripts.Shared

/-! What a staged install is for: the tree before and after it, as seen. -/
namespace RpiHealth

open Files

/-- The bits of a directory's mode that `chmod` keeps, and the new ones. -/
def privateMode (mode : Nat) : Nat := (mode &&& FileTree.SET_ID) ||| 0o750

/-- What becomes of a file whose owner and mode are set. -/
def secured : View → View
  | .file content _ links => .file content ⟨"root", "root", 0o640⟩ links
  | seen => seen

/-- The place is a missing part of a managed directory. -/
def Missing (DESTDIR : Route) (before : Route → Option View) (place : Route) : Prop :=
  before place = none ∧ ∃ dir ∈ managedDirectories DESTDIR, place <+: dir

structure DirectoriesMade (DESTDIR : Route) (before after : Route → Option View) : Prop where
  made : ∀ dir ∈ managedDirectories DESTDIR, ∀ place, place <+: dir →
    ∃ a, after place = some (.directory a)
  private_directory : ∃ a, (before (CONFIG_DIR DESTDIR) = none ∨
      before (CONFIG_DIR DESTDIR) = some (.directory a)) ∧
    after (CONFIG_DIR DESTDIR) = some (.directory ⟨"root", "root", privateMode a.mode⟩)
  kept : ∀ place, place ≠ CONFIG_DIR DESTDIR → ¬ Missing DESTDIR before place →
    after place = before place

structure FilesPut (DESTDIR : Route) (binary unit sample : List UInt8)
    (before after : Route → Option View) : Prop where
  binary : after (DESTINATION_BINARY DESTDIR) = some (.file binary ⟨"root", "root", 0o755⟩ 1)
  unit : after (DESTINATION_UNIT DESTDIR) = some (.file unit ⟨"root", "root", 0o644⟩ 1)
  configuration : after (CONFIG_FILE DESTDIR) =
    some (((before (CONFIG_FILE DESTDIR)).map secured).getD
      (.file sample ⟨"root", "root", 0o640⟩ 1))
  password : after (PASSWORD_FILE DESTDIR) = (before (PASSWORD_FILE DESTDIR)).map secured
  kept : ∀ place, place ∉ managedFiles DESTDIR → after place = before place

/-- The directories and the files, and nothing else. -/
structure Installed (DESTDIR : Route) (binary unit sample : List UInt8)
    (before after : Route → Option View) : Prop where
  made : ∀ dir ∈ managedDirectories DESTDIR, ∀ place, place <+: dir →
    ∃ a, after place = some (.directory a)
  private_directory : ∃ a, (before (CONFIG_DIR DESTDIR) = none ∨
      before (CONFIG_DIR DESTDIR) = some (.directory a)) ∧
    after (CONFIG_DIR DESTDIR) = some (.directory ⟨"root", "root", privateMode a.mode⟩)
  binary : after (DESTINATION_BINARY DESTDIR) = some (.file binary ⟨"root", "root", 0o755⟩ 1)
  unit : after (DESTINATION_UNIT DESTDIR) = some (.file unit ⟨"root", "root", 0o644⟩ 1)
  configuration : after (CONFIG_FILE DESTDIR) =
    some (((before (CONFIG_FILE DESTDIR)).map secured).getD
      (.file sample ⟨"root", "root", 0o640⟩ 1))
  password : after (PASSWORD_FILE DESTDIR) = (before (PASSWORD_FILE DESTDIR)).map secured
  kept : ∀ place, place ∉ managedFiles DESTDIR → place ≠ CONFIG_DIR DESTDIR →
    ¬ Missing DESTDIR before place → after place = before place

theorem file_not_private (DESTDIR file : Route) (managed : file ∈ managedFiles DESTDIR) :
    file ≠ CONFIG_DIR DESTDIR := by
  rintro rfl
  exact file_not_above DESTDIR _ (CONFIG_DIR DESTDIR) managed (by simp [managedDirectories])
    List.prefix_rfl

theorem file_not_missing (DESTDIR file : Route) (managed : file ∈ managedFiles DESTDIR)
    (before : Route → Option View) : ¬ Missing DESTDIR before file := by
  rintro ⟨-, dir, directory, above⟩
  exact file_not_above DESTDIR file dir managed directory above

theorem above_not_file (DESTDIR dir place : Route) (directory : dir ∈ managedDirectories DESTDIR)
    (above : place <+: dir) : place ∉ managedFiles DESTDIR :=
  fun managed => file_not_above DESTDIR place dir managed directory above

section Steps

variable {DESTDIR : Route} {binary unit sample : List UInt8} {before mid after : Route → Option View}

theorem DirectoriesMade.file (made : DirectoriesMade DESTDIR before mid) (file : Route)
    (managed : file ∈ managedFiles DESTDIR) : mid file = before file :=
  made.kept file (file_not_private DESTDIR file managed)
    (file_not_missing DESTDIR file managed before)

theorem installed_of_steps (made : DirectoriesMade DESTDIR before mid)
    (put : FilesPut DESTDIR binary unit sample mid after) :
    Installed DESTDIR binary unit sample before after where
  made dir directory place above := by
    rw [put.kept place (above_not_file DESTDIR dir place directory above)]
    exact made.made dir directory place above
  private_directory := by
    rw [put.kept _ (above_not_file DESTDIR _ _ (private_managed DESTDIR) List.prefix_rfl)]
    exact made.private_directory
  binary := put.binary
  unit := put.unit
  configuration := by
    rw [put.configuration, made.file _ (by simp [managedFiles])]
  password := by
    rw [put.password, made.file _ (by simp [managedFiles])]
  kept place no_file not_private present := by
    rw [put.kept place no_file, made.kept place not_private present]

theorem privateMode_twice (mode : Nat) : privateMode (privateMode mode) = privateMode mode := by
  apply Nat.eq_of_testBit_eq
  intro i
  simp only [privateMode, Nat.testBit_or, Nat.testBit_and]
  cases mode.testBit i <;> cases FileTree.SET_ID.testBit i <;> cases (0o750 : Nat).testBit i <;> rfl

theorem secured_twice (seen : View) : secured (secured seen) = secured seen := by
  cases seen <;> rfl

/-- The second install finds everything as it would leave it. -/
theorem installed_twice (first : Installed DESTDIR binary unit sample before mid)
    (second : Installed DESTDIR binary unit sample mid after) : after = mid := by
  funext place
  by_cases managed : place ∈ managedFiles DESTDIR
  · simp only [managedFiles, List.mem_cons, List.not_mem_nil, or_false] at managed
    rcases managed with rfl | rfl | rfl | rfl
    · rw [second.binary, first.binary]
    · rw [second.unit, first.unit]
    · rw [second.configuration, first.configuration]
      cases before (CONFIG_FILE DESTDIR) with
      | none => rfl
      | some seen =>
        simp only [Option.map_some, Option.getD_some, secured_twice]
    · rw [second.password, first.password]
      cases before (PASSWORD_FILE DESTDIR) with
      | none => rfl
      | some seen => simp only [Option.map_some, secured_twice]
  · by_cases here : place = CONFIG_DIR DESTDIR
    · subst here
      obtain ⟨a, -, left⟩ := first.private_directory
      obtain ⟨b, found, right⟩ := second.private_directory
      rw [left] at found
      rcases found with gone | same
      · cases gone
      · cases same
        rw [right, left, privateMode_twice]
    · refine second.kept place managed here ?_
      rintro ⟨gone, dir, directory, above⟩
      obtain ⟨a, made⟩ := first.made dir directory place above
      rw [made] at gone
      cases gone

theorem installed_confined (installed : Installed DESTDIR binary unit sample before after)
    (place : Route) (changed : after place ≠ before place) :
    place ∈ managedFiles DESTDIR ∨ place ∈ managedDirectories DESTDIR ∨
      Missing DESTDIR before place := by
  by_contra elsewhere
  simp only [not_or] at elsewhere
  obtain ⟨no_file, no_directory, present⟩ := elsewhere
  refine changed (installed.kept place no_file ?_ present)
  rintro rfl
  exact no_directory (private_managed DESTDIR)

end Steps

/-- What is missing of a directory below an existing one is below it too. -/
theorem missing_below (t : FileTree) (DESTDIR place dir : Route) (canonical : Canonical t DESTDIR)
    (below : DESTDIR <+: dir) (above : place <+: dir) (gone : t.look place = none) :
    under DESTDIR place = true := by
  have there (front : Route) (upward : front <+: DESTDIR) : t.look front ≠ none := by
    obtain ⟨a, found⟩ := canonical_above t DESTDIR canonical front upward
    rw [found]
    exact Option.some_ne_none _
  rcases List.prefix_or_prefix_of_prefix above below with upward | inside
  · exact absurd gone (there place upward)
  · refine decide_eq_true ⟨inside, ?_⟩
    rintro rfl
    exact there place List.prefix_rfl gone

end RpiHealth
