import RpiHealth.Library.Script
import RpiHealth.Library.Text

/-! What `scripts/install.sh` and `scripts/uninstall.sh` have in common, word for word: the
paths they manage, the checks on them, and the trees on which these checks pass. In a live
run `DESTDIR` is empty. What a run prints is left out. -/
namespace RpiHealth

open Files Script

def PROJECT_NAME : String := "rpi-health-mqtt"
def SERVICE_NAME : String := "rpi-health-mqtt.service"

def BIN_DIR (DESTDIR : Route) : Route := DESTDIR ++ ["usr", "local", "bin"]
def CONFIG_DIR (DESTDIR : Route) : Route := DESTDIR ++ ["etc", PROJECT_NAME]
def UNIT_DIR (DESTDIR : Route) : Route := DESTDIR ++ ["etc", "systemd", "system"]
def DESTINATION_BINARY (DESTDIR : Route) : Route := BIN_DIR DESTDIR ++ [PROJECT_NAME]
def CONFIG_FILE (DESTDIR : Route) : Route := CONFIG_DIR DESTDIR ++ ["config.toml"]
def PASSWORD_FILE (DESTDIR : Route) : Route := CONFIG_DIR DESTDIR ++ ["mqtt-password"]
def DESTINATION_UNIT (DESTDIR : Route) : Route := UNIT_DIR DESTDIR ++ [SERVICE_NAME]

/-- The part of the machine that both scripts ask about besides its files. -/
structure Host where
  superuser : Bool
  command : String → Bool

/-- The variable as it is set. An empty one is none. -/
structure RawDestdir where
  absolute : Bool
  path : Route

def shown (path : Route) : String := "/" ++ "/".intercalate path

def requireCommand (host : Host) (name : String) : Script Unit :=
  demand ("required command not found: " ++ name) (fun _ => host.command name)

def rejectSymlink (path : Route) (description : String) : Script Unit :=
  demand (description ++ " must not be a symbolic link: " ++ shown path) (fun t => !t.isSymlink path)

/-- Where a path stands for its own text, as `case` compares it. -/
def under (DESTDIR path : Route) : Bool := decide (DESTDIR <+: path ∧ path ≠ DESTDIR)

def assertStageDescendant (DESTDIR descendant_path : Route) : Script Unit :=
  demand ("managed path is outside the canonical staging root: " ++ shown descendant_path)
    (fun _ => DESTDIR.isEmpty || under DESTDIR descendant_path)

def validateComponents (chain_target : Route) (chain_description : String) :
    Route → Route → Script Unit
  | _, [] => pure ()
  | chain_current, chain_component :: rest => do
    demand ("invalid empty path component in " ++ shown chain_target)
      (fun _ => !chain_component.isEmpty)
    let chain_current := chain_current ++ [chain_component]
    rejectSymlink chain_current (chain_description ++ " component")
    demand (chain_description ++ " component is not a directory: " ++ shown chain_current)
      (fun t => !(t.isPresent chain_current && !t.isDirectory chain_current))
    validateComponents chain_target chain_description chain_current rest

def validateDirectoryChain (DESTDIR chain_target : Route) (chain_description : String) :
    Script Unit := do
  assertStageDescendant DESTDIR chain_target
  validateComponents chain_target chain_description DESTDIR (chain_target.drop DESTDIR.length)

def assertResolvedUnderStage (DESTDIR resolved_path : Route) : Script Unit :=
  if DESTDIR.isEmpty then pure ()
  else do
    let resolved_value ← capture ("managed path could not be resolved: " ++ shown resolved_path)
      (fun t => t.resolve resolved_path)
    demand ("managed path resolved outside the canonical staging root: " ++ shown resolved_path)
      (fun _ => under DESTDIR resolved_value)

def validateManagedFile (DESTDIR managed_path : Route) (managed_description : String) :
    Script Unit := do
  let managed_parent := managed_path.dropLast
  validateDirectoryChain DESTDIR managed_parent (managed_description ++ " parent directory")
  assertStageDescendant DESTDIR managed_path
  rejectSymlink managed_path managed_description
  if ← inquire (fun t => t.isPresent managed_path) then
    demand (managed_description ++ " is not a regular file: " ++ shown managed_path)
      (fun t => t.isRegular managed_path)
    let managed_link_count ←
      capture (managed_description ++ " link count could not be read: " ++ shown managed_path)
        (fun t => t.links managed_path)
    demand (managed_description ++ " must have exactly one hard link: " ++ shown managed_path)
      (fun _ => managed_link_count == 1)
    assertResolvedUnderStage DESTDIR managed_path
  else pure ()

/-- `cd` takes `..` and the name before it away without asking what is there. -/
def withoutDots (here : Route) : Route → Route
  | [] => here
  | name :: rest =>
    if name = "." then withoutDots here rest
    else if name = ".." then withoutDots here.dropLast rest
    else withoutDots (here ++ [name]) rest

/-- A command substitution takes the newlines off the end of what is printed. -/
def substituted (path : Route) : Route :=
  path.dropLast ++ (path.getLast?.map (Text.trimEndMatches '\n')).toList

/-- `$(cd -- path && pwd -P)` -/
def physical (path : Route) (t : FileTree) : Option Route :=
  let logical := withoutDots [] path
  if t.isDirectory logical then (t.resolve logical).map substituted else none

def stagingRoot : Option RawDestdir → Script Route
  | none => pure []
  | some raw_destdir => do
    demand "DESTDIR must be an absolute path" (fun _ => raw_destdir.absolute)
    demand "DESTDIR must name an existing directory" (fun t => t.isDirectory raw_destdir.path)
    let DESTDIR ← capture "DESTDIR could not be resolved" (physical raw_destdir.path)
    demand "DESTDIR must not resolve to the filesystem root" (fun _ => !DESTDIR.isEmpty)
    pure DESTDIR

/-! The checks change nothing. -/

theorem readOnly_rejectSymlink (path : Route) (description : String) :
    ReadOnly (rejectSymlink path description) := readOnly_demand _ _

theorem readOnly_descendant (DESTDIR path : Route) :
    ReadOnly (assertStageDescendant DESTDIR path) := readOnly_demand _ _

theorem readOnly_components (target : Route) (description : String) (rest here : Route) :
    ReadOnly (validateComponents target description here rest) := by
  induction rest generalizing here with
  | nil => exact readOnly_pure ()
  | cons component rest ih =>
    refine readOnly_bind _ _ (readOnly_demand _ _) (fun _ => ?_)
    refine readOnly_bind _ _ (readOnly_rejectSymlink _ _) (fun _ => ?_)
    exact readOnly_bind _ _ (readOnly_demand _ _) (fun _ => ih _)

theorem readOnly_chain (DESTDIR target : Route) (description : String) :
    ReadOnly (validateDirectoryChain DESTDIR target description) :=
  readOnly_bind _ _ (readOnly_demand _ _) (fun _ => readOnly_components _ _ _ _)

theorem readOnly_resolved (DESTDIR path : Route) :
    ReadOnly (assertResolvedUnderStage DESTDIR path) := by
  unfold assertResolvedUnderStage
  split
  · exact readOnly_pure ()
  · exact readOnly_bind _ _ (readOnly_capture _ _) (fun _ => readOnly_demand _ _)

theorem readOnly_managedFile (DESTDIR path : Route) (description : String) :
    ReadOnly (validateManagedFile DESTDIR path description) := by
  refine readOnly_bind _ _ (readOnly_chain _ _ _) (fun _ => ?_)
  refine readOnly_bind _ _ (readOnly_descendant _ _) (fun _ => ?_)
  refine readOnly_bind _ _ (readOnly_rejectSymlink _ _) (fun _ => ?_)
  refine readOnly_bind _ _ (readOnly_inquire _) (fun present => ?_)
  cases present with
  | false => exact readOnly_pure ()
  | true =>
    refine readOnly_bind _ _ (readOnly_demand _ _) (fun _ => ?_)
    refine readOnly_bind _ _ (readOnly_capture _ _) (fun _ => ?_)
    exact readOnly_bind _ _ (readOnly_demand _ _) (fun _ => readOnly_resolved _ _)

/-! The trees on which they pass. -/

/-- A directory whose path the shell leaves as it is. -/
structure Canonical (t : FileTree) (DESTDIR : Route) : Prop where
  ordinary : FileTree.Ordinary DESTDIR
  directory : t.holdsDirectory DESTDIR = true
  unbroken : substituted DESTDIR = DESTDIR

/-- Nothing or a regular file with one link, below directories that are no links. -/
def Safe (view : Route → Option View) (path : Route) : Prop :=
  Clear view path.dropLast ∧
    (view path = none ∨ ∃ content a, view path = some (.file content a 1))

theorem canonical_above (t : FileTree) (DESTDIR : Route) (canonical : Canonical t DESTDIR)
    (front : Route) (above : front <+: DESTDIR) : ∃ a, t.look front = some (.directory a) :=
  t.directory_above DESTDIR front canonical.directory above

theorem canonical_clear (t : FileTree) (DESTDIR : Route) (canonical : Canonical t DESTDIR) :
    Clear t.look DESTDIR :=
  fun front above => .inr (canonical_above t DESTDIR canonical front above)

/-- The managed part of a path: names that are neither empty nor dots. -/
def Suffix (relative : Route) : Prop :=
  relative ≠ [] ∧ ∀ name ∈ relative, name ≠ "" ∧ name ≠ "." ∧ name ≠ ".."

instance (relative : Route) : Decidable (Suffix relative) := inferInstanceAs (Decidable (_ ∧ _))

theorem Suffix.ordinary {relative : Route} (suffix : Suffix relative) (t : FileTree)
    (DESTDIR : Route) (canonical : Canonical t DESTDIR) :
    FileTree.Ordinary (DESTDIR ++ relative) := by
  intro name member
  rcases List.mem_append.mp member with above | below
  · exact canonical.ordinary name above
  · exact (suffix.2 name below).2

theorem Suffix.under {relative : Route} (suffix : Suffix relative) (DESTDIR : Route) :
    under DESTDIR (DESTDIR ++ relative) = true := by
  have below := suffix.1
  simp [RpiHealth.under, below]

theorem passes_descendant (t : FileTree) (DESTDIR relative : Route) (suffix : Suffix relative) :
    Passes (assertStageDescendant DESTDIR (DESTDIR ++ relative)) t := by
  rw [assertStageDescendant, passes_demand, suffix.under DESTDIR, Bool.or_true]

theorem passes_components (t : FileTree) (target : Route) (description : String)
    (rest here : Route) (ordinary : FileTree.Ordinary (here ++ rest))
    (named : ∀ name ∈ rest, name ≠ "") (clear : Clear t.look here) :
    Passes (validateComponents target description here rest) t ↔ Clear t.look (here ++ rest) := by
  induction rest generalizing here with
  | nil =>
    rw [List.append_nil]
    exact iff_of_true rfl clear
  | cons component rest ih =>
    have joined : here ++ component :: rest = here ++ [component] ++ rest := by simp
    have plain : t.Plain (here ++ [component]) := by
      refine Clear.plain (by rwa [List.dropLast_concat]) (by simp) ?_
      intro name member
      exact ordinary name (by rw [joined]; exact List.mem_append_left _ member)
    have filled : component ≠ "" := named component List.mem_cons_self
    rw [validateComponents, passes_seq _ _ (readOnly_demand _ _), passes_demand,
      passes_seq _ _ (readOnly_rejectSymlink _ _), rejectSymlink, passes_demand,
      passes_seq _ _ (readOnly_demand _ _), passes_demand, joined]
    have asked := FileTree.directory_or_nothing plain
    simp only [Bool.not_eq_true', String.isEmpty_eq_false_iff, filled, ne_eq, not_false_eq_true,
      true_and, ← and_assoc, asked]
    constructor
    · rintro ⟨here_too, below⟩
      refine (ih _ (by rwa [← joined]) (fun name member => named name (List.mem_cons_of_mem _ member))
        ?_).mp below
      exact (clear_snoc t.look here component).mpr ⟨clear, here_too⟩
    · intro below
      have shorter := below.above _ (List.prefix_append _ rest)
      exact ⟨((clear_snoc t.look here component).mp shorter).2,
        (ih _ (by rwa [← joined]) (fun name member => named name (List.mem_cons_of_mem _ member))
          shorter).mpr below⟩

theorem passes_chain (t : FileTree) (DESTDIR relative : Route) (description : String)
    (canonical : Canonical t DESTDIR) (suffix : Suffix relative) :
    Passes (validateDirectoryChain DESTDIR (DESTDIR ++ relative) description) t ↔
      Clear t.look (DESTDIR ++ relative) := by
  rw [validateDirectoryChain, passes_seq _ _ (readOnly_descendant _ _), List.drop_left,
    and_iff_right (passes_descendant t DESTDIR relative suffix)]
  exact passes_components t _ description relative DESTDIR (suffix.ordinary t DESTDIR canonical)
    (fun name member => (suffix.2 name member).1) (canonical_clear t DESTDIR canonical)

theorem passes_resolved (t : FileTree) (DESTDIR relative : Route) (suffix : Suffix relative)
    (plain : t.Plain (DESTDIR ++ relative)) (present : t.get (DESTDIR ++ relative) ≠ none)
    (last : ∀ absolute target, t.get (DESTDIR ++ relative) ≠ some (.symlink absolute target)) :
    Passes (assertResolvedUnderStage DESTDIR (DESTDIR ++ relative)) t := by
  have parent := t.parent_directory _ plain.nonempty present
  unfold assertResolvedUnderStage
  split
  · rfl
  · rw [passes_capture]
    refine ⟨_, FileTree.resolve_plain plain parent last, ?_⟩
    exact (passes_demand _ _ t).mpr (suffix.under DESTDIR)

theorem passes_managedFile (t : FileTree) (DESTDIR relative : Route) (name description : String)
    (canonical : Canonical t DESTDIR) (directory : Suffix relative)
    (suffix : Suffix (relative ++ [name])) :
    Passes (validateManagedFile DESTDIR (DESTDIR ++ relative ++ [name]) description) t ↔
      Safe t.look (DESTDIR ++ relative ++ [name]) := by
  have parent : (DESTDIR ++ relative ++ [name]).dropLast = DESTDIR ++ relative :=
    List.dropLast_concat
  have joined : DESTDIR ++ relative ++ [name] = DESTDIR ++ (relative ++ [name]) :=
    List.append_assoc _ _ _
  have chain := passes_chain t DESTDIR relative (description ++ " parent directory") canonical
    directory
  rw [Safe, validateManagedFile, passes_seq _ _ (readOnly_chain _ _ _), parent, chain,
    passes_seq _ _ (readOnly_descendant _ _), joined,
    and_iff_right (passes_descendant t _ _ suffix),
    passes_seq _ _ (readOnly_rejectSymlink _ _), rejectSymlink, passes_demand, passes_inquire]
  apply and_congr_right
  intro clear
  have plain : t.Plain (DESTDIR ++ (relative ++ [name])) :=
    Clear.plain (by rwa [← joined, parent]) (by simp) (suffix.ordinary t DESTDIR canonical)
  rw [← FileTree.file_or_nothing plain, Bool.not_eq_true']
  apply and_congr_right
  intro _
  cases present : t.isPresent (DESTDIR ++ (relative ++ [name])) with
  | false => exact iff_of_true rfl (by simp)
  | true =>
    rw [if_pos rfl, passes_seq _ _ (readOnly_demand _ _), passes_demand, passes_capture,
      imp_iff_right rfl]
    apply and_congr_right
    intro _
    have step (n : Nat) (counted : t.links (DESTDIR ++ (relative ++ [name])) = some n) :
        Passes (assertResolvedUnderStage DESTDIR (DESTDIR ++ (relative ++ [name]))) t := by
      obtain ⟨i, found, -⟩ := FileTree.links_plain plain n counted
      exact passes_resolved t DESTDIR _ suffix plain (by simp [found]) (by simp [found])
    constructor
    · rintro ⟨n, counted, passes⟩
      rw [passes_seq _ _ (readOnly_demand _ _), passes_demand, beq_iff_eq] at passes
      rw [counted, passes.1]
    · intro counted
      refine ⟨1, counted, ?_⟩
      rw [passes_seq _ _ (readOnly_demand _ _), passes_demand]
      exact ⟨rfl, step 1 counted⟩

theorem withoutDots_ordinary (rest here : Route) (ordinary : FileTree.Ordinary rest) :
    withoutDots here rest = here ++ rest := by
  induction rest generalizing here with
  | nil => rw [withoutDots, List.append_nil]
  | cons name rest ih =>
    have plain := ordinary name List.mem_cons_self
    have below : FileTree.Ordinary rest :=
      fun other member => ordinary other (List.mem_cons_of_mem _ member)
    rw [withoutDots, if_neg plain.1, if_neg plain.2, ih _ below, List.append_assoc]
    rfl

theorem physical_canonical (t : FileTree) (DESTDIR : Route) (canonical : Canonical t DESTDIR) :
    t.isDirectory DESTDIR = true ∧ physical DESTDIR t = some DESTDIR := by
  have found : t.isDirectory DESTDIR = true ∧ t.resolve DESTDIR = some DESTDIR := by
    by_cases top : DESTDIR = []
    · subst top
      exact ⟨(t.holdsDirectory_iff []).mpr t.root, rfl⟩
    obtain ⟨a, found⟩ := (t.holdsDirectory_iff _).mp canonical.directory
    have clear := (canonical_clear t DESTDIR canonical).above _ (List.dropLast_prefix DESTDIR)
    have plain : t.Plain DESTDIR := Clear.plain clear top canonical.ordinary
    have parent := t.parent_directory DESTDIR top (by simp [found])
    exact ⟨(FileTree.plain_directory plain a ((t.look_directory DESTDIR a).mpr found)).2,
      FileTree.resolve_plain plain parent (by simp [found])⟩
  obtain ⟨directory, resolved⟩ := found
  have logical : withoutDots [] DESTDIR = DESTDIR :=
    withoutDots_ordinary DESTDIR [] canonical.ordinary
  refine ⟨directory, ?_⟩
  simp only [physical, logical, directory, if_true, resolved, Option.map_some, canonical.unbroken]

theorem stagingRoot_resolved (t : FileTree) (DESTDIR : Route) (canonical : Canonical t DESTDIR) :
    stagingRoot (some ⟨true, DESTDIR⟩) t =
      (demand "DESTDIR must not resolve to the filesystem root" (fun _ => !DESTDIR.isEmpty) >>=
        fun _ => pure DESTDIR) t := by
  obtain ⟨directory, resolved⟩ := physical_canonical t DESTDIR canonical
  rw [stagingRoot, bind_ok _ _ t t () ((passes_demand _ _ t).mpr rfl),
    bind_ok _ _ t t () ((passes_demand _ _ t).mpr directory),
    bind_ok _ _ t t DESTDIR (by rw [capture, resolved])]

theorem stagingRoot_top (t : FileTree) (canonical : Canonical t []) :
    ∃ why, stagingRoot (some ⟨true, []⟩) t = .error why t := by
  rw [stagingRoot_resolved t [] canonical]
  exact ⟨_, rfl⟩

theorem stagingRoot_canonical (t : FileTree) (DESTDIR : Route) (canonical : Canonical t DESTDIR)
    (below_root : DESTDIR ≠ []) : stagingRoot (some ⟨true, DESTDIR⟩) t = .ok DESTDIR t := by
  have filled : (!DESTDIR.isEmpty) = true := by simp [below_root]
  rw [stagingRoot_resolved t DESTDIR canonical,
    bind_ok _ _ t t () ((passes_demand _ _ t).mpr filled)]
  rfl

/-! The managed paths and how they lie to each other. -/

def managedDirectories (DESTDIR : Route) : List Route :=
  [BIN_DIR DESTDIR, UNIT_DIR DESTDIR, CONFIG_DIR DESTDIR]

def managedFiles (DESTDIR : Route) : List Route :=
  [DESTINATION_BINARY DESTDIR, DESTINATION_UNIT DESTDIR, CONFIG_FILE DESTDIR,
    PASSWORD_FILE DESTDIR]

def Manageable (DESTDIR : Route) (view : Route → Option View) : Prop :=
  ∀ file ∈ managedFiles DESTDIR, Safe view file

theorem managedDirectories_eq (DESTDIR : Route) :
    managedDirectories DESTDIR = (managedDirectories []).map (DESTDIR ++ ·) := rfl

theorem managedFiles_eq (DESTDIR : Route) :
    managedFiles DESTDIR = (managedFiles []).map (DESTDIR ++ ·) := by
  simp [managedFiles, DESTINATION_BINARY, DESTINATION_UNIT, CONFIG_FILE, PASSWORD_FILE, BIN_DIR,
    UNIT_DIR, CONFIG_DIR]

theorem private_managed (DESTDIR : Route) : CONFIG_DIR DESTDIR ∈ managedDirectories DESTDIR := by
  simp [managedDirectories]

theorem file_suffix (DESTDIR file : Route) (managed : file ∈ managedFiles DESTDIR) :
    ∃ relative, file = DESTDIR ++ relative ∧ Suffix relative := by
  rw [managedFiles_eq, List.mem_map] at managed
  obtain ⟨relative, member, rfl⟩ := managed
  have all : ∀ relative ∈ managedFiles [], Suffix relative := by decide
  exact ⟨relative, rfl, all relative member⟩

theorem file_below (DESTDIR file : Route) (managed : file ∈ managedFiles DESTDIR) :
    under DESTDIR file = true := by
  obtain ⟨relative, rfl, suffix⟩ := file_suffix DESTDIR file managed
  exact suffix.under DESTDIR

theorem file_parent (DESTDIR file : Route) (managed : file ∈ managedFiles DESTDIR) :
    file.dropLast ∈ managedDirectories DESTDIR := by
  simp only [managedFiles, List.mem_cons, List.not_mem_nil, or_false] at managed
  rcases managed with rfl | rfl | rfl | rfl <;>
    simp [managedDirectories, DESTINATION_BINARY, DESTINATION_UNIT, CONFIG_FILE, PASSWORD_FILE]

theorem directory_suffix (DESTDIR dir : Route) (directory : dir ∈ managedDirectories DESTDIR) :
    ∃ relative, dir = DESTDIR ++ relative ∧ Suffix relative := by
  rw [managedDirectories_eq, List.mem_map] at directory
  obtain ⟨relative, member, rfl⟩ := directory
  have all : ∀ relative ∈ managedDirectories [], Suffix relative := by decide
  exact ⟨relative, rfl, all relative member⟩

theorem manageable_clear (DESTDIR dir : Route) (view : Route → Option View)
    (manageable : Manageable DESTDIR view) (directory : dir ∈ managedDirectories DESTDIR) :
    Clear view dir := by
  simp only [Manageable, managedFiles, List.forall_mem_cons] at manageable
  obtain ⟨binary, unit, configuration, -⟩ := manageable
  simp only [managedDirectories, List.mem_cons, List.not_mem_nil, or_false] at directory
  rcases directory with rfl | rfl | rfl
  · simpa [DESTINATION_BINARY] using binary.1
  · simpa [DESTINATION_UNIT] using unit.1
  · simpa [CONFIG_FILE] using configuration.1

section Managed

variable {t : FileTree} {DESTDIR : Route} (canonical : Canonical t DESTDIR)
include canonical

theorem file_plain (file : Route) (managed : file ∈ managedFiles DESTDIR)
    (safe : Safe t.look file) : t.Plain file := by
  obtain ⟨relative, rfl, suffix⟩ := file_suffix DESTDIR file managed
  exact safe.1.plain (by simp [suffix.1]) (suffix.ordinary t DESTDIR canonical)

theorem directory_plain (dir : Route) (directory : dir ∈ managedDirectories DESTDIR)
    (clear : Clear t.look dir) : t.Plain dir := by
  obtain ⟨relative, rfl, suffix⟩ := directory_suffix DESTDIR dir directory
  exact (clear.above _ (List.dropLast_prefix _)).plain (by simp [suffix.1])
    (suffix.ordinary t DESTDIR canonical)

theorem passes_directory (dir : Route) (description : String)
    (directory : dir ∈ managedDirectories DESTDIR) :
    Passes (validateDirectoryChain DESTDIR dir description) t ↔ Clear t.look dir := by
  obtain ⟨relative, rfl, suffix⟩ := directory_suffix DESTDIR dir directory
  exact passes_chain t DESTDIR relative description canonical suffix

theorem passes_file (file : Route) (description : String) (managed : file ∈ managedFiles DESTDIR) :
    Passes (validateManagedFile DESTDIR file description) t ↔ Safe t.look file := by
  simp only [managedFiles, List.mem_cons, List.not_mem_nil, or_false] at managed
  rcases managed with rfl | rfl | rfl | rfl
  · exact passes_managedFile t DESTDIR ["usr", "local", "bin"] _ _ canonical (by decide) (by decide)
  · exact passes_managedFile t DESTDIR ["etc", "systemd", "system"] _ _ canonical (by decide)
      (by decide)
  · exact passes_managedFile t DESTDIR ["etc", PROJECT_NAME] _ _ canonical (by decide) (by decide)
  · exact passes_managedFile t DESTDIR ["etc", PROJECT_NAME] _ _ canonical (by decide) (by decide)

end Managed

/-- No part of a managed path is a link. -/
theorem manageable_no_symlink (DESTDIR path place : Route) (view : Route → Option View)
    (manageable : Manageable DESTDIR view)
    (managed : path ∈ managedDirectories DESTDIR ++ managedFiles DESTDIR) (above : place <+: path)
    (absolute : Bool) (target : Route) : view place ≠ some (.symlink absolute target) := by
  have clear_of (dir : Route) (clear : Clear view dir) (upward : place <+: dir) :
      view place ≠ some (.symlink absolute target) := by
    rcases clear place upward with gone | ⟨a, directory⟩
    · simp [gone]
    · simp [directory]
  rcases List.mem_append.mp managed with directory | file
  · exact clear_of path (manageable_clear DESTDIR path view manageable directory) above
  · obtain ⟨clear, seen⟩ := manageable path file
    by_cases last : place = path
    · rcases seen with gone | ⟨content, a, found⟩
      · simp [last, gone]
      · simp [last, found]
    · have nonempty : path ≠ [] := by
        rintro rfl
        exact last (List.prefix_nil.mp above)
      refine clear_of path.dropLast clear ?_
      rw [← List.dropLast_concat_getLast nonempty, List.prefix_concat_iff] at above
      rcases above with whole | shorter
      · rw [List.dropLast_concat_getLast nonempty] at whole
        exact absurd whole last
      · exact shorter

/-- No managed file is, or is above, a managed directory. -/
theorem file_not_above (DESTDIR file dir : Route) (managed : file ∈ managedFiles DESTDIR)
    (directory : dir ∈ managedDirectories DESTDIR) : ¬ file <+: dir := by
  rw [managedFiles_eq, List.mem_map] at managed
  rw [managedDirectories_eq, List.mem_map] at directory
  obtain ⟨file, managed, rfl⟩ := managed
  obtain ⟨dir, directory, rfl⟩ := directory
  rw [List.prefix_append_right_inj]
  have all : ∀ file ∈ managedFiles [], ∀ dir ∈ managedDirectories [], ¬ file <+: dir := by decide
  exact all file managed dir directory

end RpiHealth
