import RpiHealth.Scripts.Placement

/-! A staged install: either it stops with the tree as it was, or it leaves the tree
installed. -/
namespace RpiHealth

open Files Script

/-! The questions asked before the first change. -/

theorem fileOf_kept (tools : Tools) (t u : FileTree) (wider : t.Extends u) (path : Route)
    (present : t.stat path ≠ none) (same : u.contentOf path = t.contentOf path) :
    tools.fileOf path u = tools.fileOf path t := by
  have link := t.lstat_link_extends u wider path present
  by_cases linked : ∃ absolute target, t.lstat path = some (.symlink absolute target)
  · obtain ⟨absolute, target, before⟩ := linked
    simp only [Tools.fileOf, before, (link absolute target).mpr before]
  · have by_content (w : FileTree)
        (plain : ∀ absolute target, w.lstat path ≠ some (.symlink absolute target)) :
        tools.fileOf path w = (w.contentOf path).bind tools.file := by
      unfold Tools.fileOf
      split
      · rename_i absolute target found
        exact absurd found (plain absolute target)
      · rfl
    rw [by_content t (fun absolute target found => linked ⟨absolute, target, found⟩),
      by_content u (fun absolute target found =>
        linked ⟨absolute, target, (link absolute target).mp found⟩), same]

theorem passes_armv7_kept (host : Host) (tools : Tools) (path : Route) (t u : FileTree)
    (same_file : tools.fileOf path u = tools.fileOf path t)
    (same : u.contentOf path = t.contentOf path)
    (passes : Passes (validateArmv7Binary host tools path) t) :
    Passes (validateArmv7Binary host tools path) u := by
  simp only [validateArmv7Binary, requireCommand, passes_seq _ _ (readOnly_demand _ _),
    passes_capture, passes_demand, same_file, same] at passes ⊢
  exact passes

theorem readOnly_armv7 (host : Host) (tools : Tools) (path : Route) :
    ReadOnly (validateArmv7Binary host tools path) := by
  refine readOnly_bind _ _ (readOnly_demand _ _) (fun _ => ?_)
  refine readOnly_bind _ _ (readOnly_demand _ _) (fun _ => ?_)
  refine readOnly_bind _ _ (readOnly_demand _ _) (fun _ => ?_)
  refine readOnly_bind _ _ (readOnly_capture _ _) (fun _ => ?_)
  refine readOnly_bind _ _ (readOnly_demand _ _) (fun _ => ?_)
  refine readOnly_bind _ _ (readOnly_capture _ _) (fun _ => ?_)
  refine readOnly_bind _ _ (readOnly_demand _ _) (fun _ => ?_)
  refine readOnly_bind _ _ (readOnly_demand _ _) (fun _ => ?_)
  refine readOnly_bind _ _ (readOnly_demand _ _) (fun _ => ?_)
  refine readOnly_bind _ _ (readOnly_demand _ _) (fun _ => ?_)
  refine readOnly_bind _ _ (readOnly_capture _ _) (fun _ => ?_)
  exact readOnly_bind _ _ (readOnly_demand _ _) (fun _ => readOnly_demand _ _)

theorem readOnly_installChecks (host : Host) (tools : Tools) (sources : Invocation)
    (DESTDIR : Route) : ∀ s ∈ installChecks host tools sources DESTDIR, ReadOnly s := by
  simp only [installChecks, List.forall_mem_cons]
  refine ⟨?_, ?_, ?_, ?_, ?_, ?_, ?_, ?_, ?_, ?_, ?_, ?_, ?_, ?_, ?_, ?_, ?_, List.forall_mem_nil _⟩
  all_goals first
    | exact readOnly_demand _ _
    | exact readOnly_chain _ _ _
    | exact readOnly_managedFile _ _ _
    | exact readOnly_armv7 _ _ _

theorem passes_installChecks (host : Host) (tools : Tools) (sources : Invocation) (DESTDIR : Route)
    (t : FileTree) (canonical : Canonical t DESTDIR) :
    Passes (inOrder (installChecks host tools sources DESTDIR)) t ↔
      (∀ name ∈ ["install", "chown", "chmod", "stat", "dirname", "readlink"],
        host.command name = true) ∧
      (t.isRegular sources.SOURCE_BINARY = true ∧ t.isRegular sources.SOURCE_CONFIG = true ∧
        t.isRegular sources.SOURCE_UNIT = true) ∧
      Manageable DESTDIR t.look ∧
      Passes (validateArmv7Binary host tools sources.SOURCE_BINARY) t := by
  have binaries := passes_directory canonical (BIN_DIR DESTDIR) "binary installation directory"
    (by simp [managedDirectories])
  have private_ := passes_directory canonical (CONFIG_DIR DESTDIR) "configuration directory"
    (private_managed DESTDIR)
  have units := passes_directory canonical (UNIT_DIR DESTDIR) "systemd unit directory"
    (by simp [managedDirectories])
  have file := passes_file canonical
  rw [passes_inOrder _ (readOnly_installChecks host tools sources DESTDIR)]
  simp only [installChecks, List.forall_mem_cons, requireCommand, requireSource, passes_demand]
  constructor
  · rintro ⟨install, chown, chmod, stat, dirname, readlink, binary, sample, unit, -, -, -, f₁, f₂, f₃,
      f₄, armv7, -⟩
    refine ⟨⟨install, chown, chmod, stat, dirname, readlink, List.forall_mem_nil _⟩,
      ⟨binary, sample, unit⟩, ?_, armv7⟩
    simp only [Manageable, managedFiles, List.forall_mem_cons]
    exact ⟨(file _ _ (by simp [managedFiles])).mp f₁, (file _ _ (by simp [managedFiles])).mp f₂,
      (file _ _ (by simp [managedFiles])).mp f₃, (file _ _ (by simp [managedFiles])).mp f₄,
      List.forall_mem_nil _⟩
  · rintro ⟨⟨install, chown, chmod, stat, dirname, readlink, -⟩, ⟨binary, sample, unit⟩, manageable,
      armv7⟩
    have safe (path : Route) (description : String) (managed : path ∈ managedFiles DESTDIR) :=
      (file path description managed).mpr (manageable path managed)
    have clear := manageable_clear DESTDIR
    exact ⟨install, chown, chmod, stat, dirname, readlink, binary, sample, unit,
      binaries.mpr (clear _ _ manageable (by simp [managedDirectories])),
      private_.mpr (clear _ _ manageable (private_managed DESTDIR)),
      units.mpr (clear _ _ manageable (by simp [managedDirectories])),
      safe _ _ (by simp [managedFiles]), safe _ _ (by simp [managedFiles]),
      safe _ _ (by simp [managedFiles]), safe _ _ (by simp [managedFiles]), armv7, List.forall_mem_nil _⟩

/-- Past its checks the installer does not stop. -/
theorem stagedInstall_installed (host : Host) (tools : Tools) (sources : Invocation)
    (DESTDIR : Route) (binary unit sample : List UInt8) (t : FileTree) (superuser : host.superuser = true)
    (root : stagingRoot (some ⟨true, DESTDIR⟩) t = .ok DESTDIR t)
    (passes : Passes (inOrder (installChecks host tools sources DESTDIR)) t)
    (ready : Ready sources DESTDIR binary unit sample t) :
    ∃ u, stagedInstall host tools sources ⟨true, DESTDIR⟩ t = .ok () u ∧ Harmless DESTDIR t u ∧
      Installed DESTDIR binary unit sample t.look u.look := by
  obtain ⟨r, ran₁, harmless₁, made⟩ := ensureDirectories_made DESTDIR t ready.canonical
    ready.manageable
  have parents (dir : Route) (directory : dir ∈ managedDirectories DESTDIR) :
      r.holdsDirectory dir = true := by
    obtain ⟨a, found⟩ := made.made dir directory dir List.prefix_rfl
    exact (r.holdsDirectory_iff dir).mpr ⟨a, (r.look_directory dir a).mp found⟩
  obtain ⟨u, ran₂, harmless₂, put⟩ := installFiles_put sources DESTDIR binary unit sample r
    (ready.step harmless₁) parents
  refine ⟨u, ?_, harmless₁.trans harmless₂, installed_of_steps made put⟩
  rw [stagedInstall, bind_ok _ _ t t () ((passes_demand _ _ t).mpr superuser),
    bind_ok _ _ t t DESTDIR root, bind_ok _ _ t t () passes, bind_ok _ _ t r () ran₁]
  exact ran₂

/-! The whole run. -/

/-- What a run that succeeds has done. -/
structure StagedInstall (sources : Invocation) (DESTDIR : Route) (t u : FileTree) : Prop where
  confined : ∀ place, u.look place ≠ t.look place → under DESTDIR place = true ∧
    (place ∈ managedFiles DESTDIR ∨ place ∈ managedDirectories DESTDIR ∨
      Missing DESTDIR t.look place)
  binary : ∃ content a, t.contentOf sources.SOURCE_BINARY = some content ∧
    u.contentOf sources.SOURCE_BINARY = some content ∧
    u.look (DESTINATION_BINARY DESTDIR) = some (.file content a 1)
  unit : ∃ content a, t.contentOf sources.SOURCE_UNIT = some content ∧
    u.contentOf sources.SOURCE_UNIT = some content ∧
    u.look (DESTINATION_UNIT DESTDIR) = some (.file content a 1)
  example_configuration : t.look (CONFIG_FILE DESTDIR) = none →
    ∃ content a, t.contentOf sources.SOURCE_CONFIG = some content ∧
      u.look (CONFIG_FILE DESTDIR) = some (.file content a 1)
  preserved : ∀ file ∈ [CONFIG_FILE DESTDIR, PASSWORD_FILE DESTDIR], ∀ seen,
    t.look file = some seen → ∃ content a b, seen = .file content a 1 ∧
      u.look file = some (.file content b 1)
  no_password : t.look (PASSWORD_FILE DESTDIR) = none → u.look (PASSWORD_FILE DESTDIR) = none

theorem installed_success (sources : Invocation) (DESTDIR : Route) (binary unit sample : List UInt8)
    (t u : FileTree) (ready : Ready sources DESTDIR binary unit sample t)
    (harmless : Harmless DESTDIR t u)
    (installed : Installed DESTDIR binary unit sample t.look u.look) :
    StagedInstall sources DESTDIR t u where
  confined place changed := by
    have where_ := installed_confined installed place changed
    refine ⟨?_, where_⟩
    rcases where_ with file | directory | ⟨gone, dir, directory, above⟩
    · exact file_below DESTDIR place file
    · obtain ⟨relative, rfl, suffix⟩ := directory_suffix DESTDIR place directory
      exact suffix.under DESTDIR
    · obtain ⟨relative, rfl, -⟩ := directory_suffix DESTDIR dir directory
      exact missing_below t DESTDIR place _ ready.canonical (List.prefix_append _ _) above gone
  binary := ⟨binary, _, ready.binary.contentOf, (harmless.supplied ready.binary).contentOf,
    installed.binary⟩
  unit := ⟨unit, _, ready.unit.contentOf, (harmless.supplied ready.unit).contentOf, installed.unit⟩
  example_configuration absent := by
    refine ⟨sample, ⟨"root", "root", 0o640⟩, ready.sample.contentOf, ?_⟩
    rw [installed.configuration, absent]
    rfl
  preserved file member seen found := by
    have managed : file ∈ managedFiles DESTDIR := by
      simp only [managedFiles, List.mem_cons, List.not_mem_nil, or_false] at member ⊢
      exact .inr (.inr member)
    obtain ⟨content, a, here⟩ := (ready.manageable file managed).2.resolve_left
      (by rw [found]; exact Option.some_ne_none _)
    rw [found] at here
    cases here
    refine ⟨content, a, ⟨"root", "root", 0o640⟩, rfl, ?_⟩
    simp only [List.mem_cons, List.not_mem_nil, or_false] at member
    rcases member with rfl | rfl
    · rw [installed.configuration, found]
      rfl
    · rw [installed.password, found]
      rfl
  no_password absent := by
    rw [installed.password, absent]
    rfl

theorem regular_supplied (DESTDIR path : Route) (t : FileTree) (regular : t.isRegular path = true)
    (different : ∀ destination ∈ destinations DESTDIR, ∀ content,
      ¬ t.Leads path destination content) :
    ∃ content, Supplied DESTDIR t path content := by
  obtain ⟨place, content, leads⟩ := t.regular_leads path regular
  exact ⟨content, place, fun member => different place member content leads, leads⟩

theorem installChecks_kept (host : Host) (tools : Tools) (sources : Invocation) (DESTDIR : Route)
    (binary unit sample : List UInt8) (t u : FileTree)
    (ready : Ready sources DESTDIR binary unit sample t) (harmless : Harmless DESTDIR t u)
    (passes : Passes (inOrder (installChecks host tools sources DESTDIR)) t) :
    Passes (inOrder (installChecks host tools sources DESTDIR)) u := by
  have after := ready.step harmless
  have regular (path : Route) (content : List UInt8) (supplied : Supplied DESTDIR u path content) :
      u.isRegular path = true := by
    obtain ⟨place, -, leads⟩ := supplied
    obtain ⟨i, found⟩ := leads.stat
    rw [FileTree.isRegular, found]
  have present : t.stat sources.SOURCE_BINARY ≠ none := by
    obtain ⟨place, -, leads⟩ := ready.binary
    obtain ⟨i, found⟩ := leads.stat
    rw [found]
    exact Option.some_ne_none _
  have same : u.contentOf sources.SOURCE_BINARY = t.contentOf sources.SOURCE_BINARY := by
    rw [after.binary.contentOf, ready.binary.contentOf]
  rw [passes_installChecks host tools sources DESTDIR t ready.canonical] at passes
  obtain ⟨commands, -, -, armv7⟩ := passes
  rw [passes_installChecks host tools sources DESTDIR u after.canonical]
  exact ⟨commands, ⟨regular _ _ after.binary, regular _ _ after.sample, regular _ _ after.unit⟩,
    after.manageable, passes_armv7_kept host tools _ t u
      (fileOf_kept tools t u harmless.wider _ present same) same armv7⟩

/-- A run stops before its first change, or all of it is done. -/
theorem stagedInstall_cases (host : Host) (tools : Tools) (sources : Invocation) (DESTDIR : Route)
    (t : FileTree) (canonical : Canonical t DESTDIR)
    (different : ∀ source ∈ [sources.SOURCE_BINARY, sources.SOURCE_UNIT, sources.SOURCE_CONFIG],
      ∀ destination ∈ destinations DESTDIR, ∀ content, ¬ t.Leads source destination content) :
    (∃ why, stagedInstall host tools sources ⟨true, DESTDIR⟩ t = .error why t) ∨
      (host.superuser = true ∧ DESTDIR ≠ [] ∧
        Passes (inOrder (installChecks host tools sources DESTDIR)) t) ∧
      ∃ binary unit sample u, Ready sources DESTDIR binary unit sample t ∧
        stagedInstall host tools sources ⟨true, DESTDIR⟩ t = .ok () u ∧ Harmless DESTDIR t u ∧
        Installed DESTDIR binary unit sample t.look u.look ∧
        ∃ w, stagedInstall host tools sources ⟨true, DESTDIR⟩ u = .ok () w ∧ w.look = u.look := by
  rcases passes_or_stops _ (readOnly_demand "this installer must run as root"
    (fun _ => host.superuser)) t with first | ⟨why, stopped⟩
  swap
  · exact .inl ⟨why, bind_error _ _ t t why stopped⟩
  by_cases top : DESTDIR = []
  · obtain ⟨why, stopped⟩ := stagingRoot_top t (top ▸ canonical)
    rw [← top] at stopped
    refine .inl ⟨why, ?_⟩
    rw [stagedInstall, bind_ok _ _ t t () first, bind_error _ _ t t why stopped]
  have root := stagingRoot_canonical t DESTDIR canonical top
  rcases passes_or_stops _ (readOnly_inOrder _ (readOnly_installChecks host tools sources DESTDIR)) t
    with passes | ⟨why, stopped⟩
  swap
  · refine .inl ⟨why, ?_⟩
    rw [stagedInstall, bind_ok _ _ t t () first, bind_ok _ _ t t DESTDIR root,
      bind_error _ _ t t why stopped]
  have superuser := (passes_demand _ _ t).mp first
  right
  have conditions := (passes_installChecks host tools sources DESTDIR t canonical).mp passes
  obtain ⟨-, ⟨binary_there, sample_there, unit_there⟩, manageable, -⟩ := conditions
  obtain ⟨binary, from_binary⟩ := regular_supplied DESTDIR _ t binary_there (different _ (by simp))
  obtain ⟨unit, from_unit⟩ := regular_supplied DESTDIR _ t unit_there (different _ (by simp))
  obtain ⟨sample, from_sample⟩ := regular_supplied DESTDIR _ t sample_there (different _ (by simp))
  have ready : Ready sources DESTDIR binary unit sample t :=
    ⟨canonical, manageable, from_binary, from_unit, from_sample⟩
  obtain ⟨u, ran, harmless, installed⟩ := stagedInstall_installed host tools sources DESTDIR binary
    unit sample t superuser root passes ready
  have ready' := ready.step harmless
  have root' := stagingRoot_canonical u DESTDIR ready'.canonical top
  obtain ⟨w, ran', -, installed'⟩ := stagedInstall_installed host tools sources DESTDIR binary
    unit sample u superuser root' (installChecks_kept host tools sources DESTDIR binary unit sample t u
      ready harmless passes) ready'
  exact ⟨⟨superuser, top, passes⟩, binary, unit, sample, u, ready, ran, harmless, installed, w,
    ran', installed_twice installed installed'⟩

/-- With `DESTDIR` set, an install stops and has changed nothing, or has done what it is for and
finds nothing more to do. A link on the way to a managed path, or something else than a file of
one name in a managed file's place, stops it. -/
theorem staged_install (host : Host) (tools : Tools) (sources : Invocation) (t : FileTree)
    (DESTDIR : Route) (canonical : Canonical t DESTDIR)
    (different : ∀ source ∈ [sources.SOURCE_BINARY, sources.SOURCE_UNIT, sources.SOURCE_CONFIG],
      ∀ destination ∈ destinations DESTDIR, t.resolve source ≠ some destination) :
    ((∃ why, stagedInstall host tools sources ⟨true, DESTDIR⟩ t = .error why t) ∨
      ∃ u, stagedInstall host tools sources ⟨true, DESTDIR⟩ t = .ok () u ∧
        StagedInstall sources DESTDIR t u ∧
        ∃ w, stagedInstall host tools sources ⟨true, DESTDIR⟩ u = .ok () w ∧ w.look = u.look) ∧
      (∀ path ∈ managedDirectories DESTDIR ++ managedFiles DESTDIR, ∀ place absolute target,
        place <+: path → under DESTDIR place = true →
        t.look place = some (.symlink absolute target) →
        ∃ why, stagedInstall host tools sources ⟨true, DESTDIR⟩ t = .error why t) ∧
      (∀ file ∈ managedFiles DESTDIR, ∀ seen, t.look file = some seen →
        (∀ content a, seen ≠ .file content a 1) →
        ∃ why, stagedInstall host tools sources ⟨true, DESTDIR⟩ t = .error why t) := by
  have either := stagedInstall_cases host tools sources DESTDIR t canonical
    (fun source member destination among _ leads =>
      different source member destination among leads.1)
  refine ⟨?_, ?_, ?_⟩
  · rcases either with stopped | ⟨-, binary, unit, sample, u, ready, ran, harmless, installed, again⟩
    · exact .inl stopped
    · exact .inr ⟨u, ran, installed_success sources DESTDIR binary unit sample t u ready harmless
        installed, again⟩
  · intro path managed place absolute target above _ link
    rcases either with stopped | ⟨-, _, _, _, _, ready, -⟩
    · exact stopped
    · exact absurd link (manageable_no_symlink DESTDIR path place t.look ready.manageable managed
        above absolute target)
  · intro file managed seen found unlike
    rcases either with stopped | ⟨-, _, _, _, _, ready, -⟩
    · exact stopped
    · rcases (ready.manageable file managed).2 with gone | ⟨content, a, here⟩
      · rw [gone] at found
        cases found
      · rw [here] at found
        exact absurd (Option.some.inj found).symm (unlike content a)

/-- A project and an empty staging directory. -/
def sampleTree : FileTree :=
  let attributes : Attributes := ⟨"root", "root", 0o755⟩
  (do
    let t ← (FileTree.bare attributes).replace ["stage"] (.directory attributes)
    let t ← t.replace ["project"] (.directory attributes)
    let t ← t.replace ["project", "config"] (.directory attributes)
    let t ← t.replace ["project", "systemd"] (.directory attributes)
    let t ← t.create ["project", "binary"] ⟨[1], attributes⟩
    let t ← t.create ["project", "config", "config.example.toml"] ⟨[2], attributes⟩
    t.create ["project", "systemd", SERVICE_NAME] ⟨[3], attributes⟩).getD (FileTree.bare attributes)

def sampleHost : Host := ⟨true, fun _ => true⟩

def sampleTools : Tools where
  fileOfLink _ _ := some "symbolic link"
  file content := some (if content = [1] then "ELF 32-bit LSB executable, ARM, EABI5" else "data")
  readelfHeader content := if content = [1] then some "Class: ELF32" else none
  readelfAttributes content := if content = [1] then some "Tag_CPU_arch: v7" else none
  grep _ text := text != "data" && text != "symbolic link"

def sampleInvocation : Invocation := ⟨["project", "binary"], ["project"]⟩

def succeeded : EStateM.Result Stop FileTree Unit → Bool
  | .ok _ _ => true
  | .error _ _ => false

theorem sample_canonical : Canonical sampleTree ["stage"] where
  ordinary := by simp [FileTree.Ordinary]
  directory := by decide +kernel
  unbroken := by decide +kernel

theorem staged_install_sample :
    ∃ u, stagedInstall sampleHost sampleTools sampleInvocation ⟨true, ["stage"]⟩ sampleTree =
        .ok () u ∧
      StagedInstall sampleInvocation ["stage"] sampleTree u ∧
      ∃ w, stagedInstall sampleHost sampleTools sampleInvocation ⟨true, ["stage"]⟩ u = .ok () w ∧
        w.look = u.look := by
  have runs : succeeded
      (stagedInstall sampleHost sampleTools sampleInvocation ⟨true, ["stage"]⟩ sampleTree) = true := by
    decide +kernel
  have whole := staged_install sampleHost sampleTools sampleInvocation sampleTree ["stage"]
    sample_canonical (by decide +kernel)
  rcases whole.1 with ⟨why, stopped⟩ | success
  · rw [stopped] at runs
    cases runs
  · exact success

end RpiHealth
