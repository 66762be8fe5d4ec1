import RpiHealth.Scripts.Staged
import RpiHealth.Scripts.Uninstall

/-! An uninstall: either it stops with the tree as it was, or it leaves the tree uninstalled. -/
namespace RpiHealth

open Files Script

/-! One file after the other. -/

theorem erase_keeps (DESTDIR place : Route) (view : Route → Option View)
    (manageable : Manageable DESTDIR view) :
    Manageable DESTDIR (Function.update view place none) := by
  intro file managed
  obtain ⟨clear, seen⟩ := manageable file managed
  constructor
  · intro front above
    by_cases here : front = place
    · exact .inl (by rw [here, Function.update_self])
    · rw [Function.update_of_ne here]
      exact clear front above
  · by_cases here : file = place
    · exact .inl (by rw [here, Function.update_self])
    · rwa [Function.update_of_ne here]

theorem erase_canonical (DESTDIR place : Route) (t u : FileTree) (canonical : Canonical t DESTDIR)
    (below : under DESTDIR place = true) (changed : u.look = Function.update t.look place none) :
    Canonical u DESTDIR where
  ordinary := canonical.ordinary
  directory := by
    obtain ⟨a, found⟩ := canonical_above t DESTDIR canonical DESTDIR List.prefix_rfl
    have apart : DESTDIR ≠ place := (of_decide_eq_true below).2.symm
    rw [u.holdsDirectory_iff]
    refine ⟨a, (u.look_directory DESTDIR a).mp ?_⟩
    rw [changed, Function.update_of_ne apart, found]
  unbroken := canonical.unbroken

/-- What the steps after the checks rely on. -/
structure Removable (DESTDIR : Route) (t : FileTree) : Prop where
  canonical : Canonical t DESTDIR
  manageable : Manageable DESTDIR t.look

theorem Removable.erase {DESTDIR file : Route} {t u : FileTree} (removable : Removable DESTDIR t)
    (managed : file ∈ managedFiles DESTDIR) (changed : u.look = Function.update t.look file none) :
    Removable DESTDIR u where
  canonical := erase_canonical DESTDIR file t u removable.canonical (file_below DESTDIR file managed)
    changed
  manageable := by
    rw [changed]
    exact erase_keeps DESTDIR file t.look removable.manageable

theorem removePresent_removed (DESTDIR file : Route) (t : FileTree)
    (removable : Removable DESTDIR t) (managed : file ∈ managedFiles DESTDIR) :
    ∃ u, removePresent file t = .ok () u ∧ u.look = Function.update t.look file none := by
  have safe := removable.manageable file managed
  have plain := file_plain removable.canonical file managed safe
  have asked := pathExists_managed t DESTDIR file removable.canonical managed safe
  have no_link := ((FileTree.file_or_nothing plain).mpr safe.2).1
  rw [pathExists, no_link, Bool.or_false] at asked
  rcases safe.2 with gone | ⟨content, a, found⟩
  · rw [gone] at asked
    refine ⟨t, ?_, by rw [← gone, Function.update_eq_self]⟩
    rw [removePresent, bind_ok _ _ t t false (by rw [inquire, asked]; rfl)]
    rfl
  · rw [found] at asked
    obtain ⟨u, removed, changed⟩ := FileTree.rm_plain plain content a found
    refine ⟨u, ?_, changed⟩
    rw [removePresent, bind_ok _ _ t t true (by rw [inquire, asked]; rfl), if_pos rfl, execute,
      removed]

theorem removeManagedFile_removed (DESTDIR file : Route) (description : String) (t : FileTree)
    (removable : Removable DESTDIR t) (managed : file ∈ managedFiles DESTDIR) :
    ∃ u, removeManagedFile DESTDIR file description t = .ok () u ∧ Removable DESTDIR u ∧
      u.look = Function.update t.look file none := by
  have valid := (passes_file removable.canonical file description managed).mpr
    (removable.manageable file managed)
  obtain ⟨u, ran, changed⟩ := removePresent_removed DESTDIR file t removable managed
  have after := removable.erase managed changed
  have gone := pathExists_managed u DESTDIR file after.canonical managed
    (after.manageable file managed)
  rw [changed, Function.update_self] at gone
  refine ⟨u, ?_, after, changed⟩
  rw [removeManagedFile, bind_ok _ _ t t () valid, bind_ok _ _ t u () ran]
  apply (passes_demand _ _ u).mpr
  rw [← pathExists, gone]
  rfl

theorem removeEmptyDirectory_removed (DESTDIR : Route) (t : FileTree)
    (removable : Removable DESTDIR t) :
    ∃ u, removeEmptyDirectory DESTDIR t = .ok () u ∧
      ((∀ name, t.look (CONFIG_DIR DESTDIR ++ [name]) = none) →
        u.look = Function.update t.look (CONFIG_DIR DESTDIR) none) ∧
      (¬ (∀ name, t.look (CONFIG_DIR DESTDIR ++ [name]) = none) → u.look = t.look) := by
  have directory := private_managed DESTDIR
  have clear := manageable_clear DESTDIR _ t.look removable.manageable directory
  have plain := directory_plain removable.canonical _ directory clear
  rcases clear _ List.prefix_rfl with gone | ⟨a, found⟩
  · have absent := (FileTree.plain_absent plain gone).2
    refine ⟨t, ?_, fun _ => by rw [← gone, Function.update_eq_self], fun _ => rfl⟩
    rw [removeEmptyDirectory, bind_ok _ _ t t false (by rw [inquire, absent])]
    rfl
  · have present := (FileTree.plain_directory plain a found).2
    have runs : removeEmptyDirectory DESTDIR t =
        .ok () ((t.rmdir (CONFIG_DIR DESTDIR)).getD t) := by
      rw [removeEmptyDirectory, bind_ok _ _ t t true (by rw [inquire, present])]
      rfl
    rcases FileTree.rmdir_plain plain a found with
      ⟨⟨name, left⟩, kept⟩ | ⟨empty, u, removed, changed⟩
    · refine ⟨t, by rw [runs, kept]; rfl, fun empty => absurd (empty name) left, fun _ => rfl⟩
    · exact ⟨u, by rw [runs, removed]; rfl, fun _ => changed,
        fun some_left => absurd empty some_left⟩

/-! All of it. -/

theorem purgeConfiguration_removed (DESTDIR : Route) (t : FileTree)
    (removable : Removable DESTDIR t) :
    ∃ u, purgeConfiguration DESTDIR t = .ok () u ∧ ∃ mid : Route → Option View,
      mid = Function.update (Function.update t.look (CONFIG_FILE DESTDIR) none)
        (PASSWORD_FILE DESTDIR) none ∧
      ((∀ name, mid (CONFIG_DIR DESTDIR ++ [name]) = none) →
        u.look = Function.update mid (CONFIG_DIR DESTDIR) none) ∧
      (¬ (∀ name, mid (CONFIG_DIR DESTDIR ++ [name]) = none) → u.look = mid) := by
  obtain ⟨r, ran₁, removable₁, changed₁⟩ := removeManagedFile_removed DESTDIR (CONFIG_FILE DESTDIR)
    "configuration file" t removable (by simp [managedFiles])
  obtain ⟨u, ran₂, removable₂, changed₂⟩ := removeManagedFile_removed DESTDIR (PASSWORD_FILE DESTDIR)
    "password file" r removable₁ (by simp [managedFiles])
  obtain ⟨w, ran₃, empty, left⟩ := removeEmptyDirectory_removed DESTDIR u removable₂
  refine ⟨w, ?_, u.look, by rw [changed₂, changed₁], empty, left⟩
  rw [purgeConfiguration, bind_ok _ _ t r () ran₁, bind_ok _ _ r u () ran₂]
  exact ran₃

theorem reloadManager_passes (manager : Manager) (DESTDIR : Route) (t : FileTree)
    (reloads : DESTDIR = [] → manager.daemonReload = true) :
    reloadManager manager DESTDIR t = .ok () t := by
  unfold reloadManager
  split
  · rename_i live
    rw [execute, if_pos (reloads (List.isEmpty_iff.mp live))]
  · rfl

theorem removeInstalled_kept (manager : Manager) (DESTDIR : Route) (t : FileTree)
    (removable : Removable DESTDIR t) (reloads : DESTDIR = [] → manager.daemonReload = true) :
    ∃ u, Removable DESTDIR u ∧
      (∀ purge : Bool, removeInstalled manager purge DESTDIR t =
        (if purge then purgeConfiguration DESTDIR else pure ()) u) ∧
      u.look = Function.update (Function.update t.look (DESTINATION_BINARY DESTDIR) none)
        (DESTINATION_UNIT DESTDIR) none := by
  obtain ⟨r, ran₁, removable₁, changed₁⟩ := removeManagedFile_removed DESTDIR
    (DESTINATION_BINARY DESTDIR) "installed binary" t removable (by simp [managedFiles])
  obtain ⟨u, ran₂, removable₂, changed₂⟩ := removeManagedFile_removed DESTDIR
    (DESTINATION_UNIT DESTDIR) "installed systemd unit" r removable₁ (by simp [managedFiles])
  refine ⟨u, removable₂, ?_, by rw [changed₂, changed₁]⟩
  intro purge
  rw [removeInstalled, bind_ok _ _ t r () ran₁, bind_ok _ _ r u () ran₂,
    bind_ok _ _ u u () (reloadManager_passes manager DESTDIR u reloads)]

theorem removeInstalled_uninstalled (manager : Manager) (purge : Bool) (DESTDIR : Route)
    (t : FileTree) (removable : Removable DESTDIR t)
    (reloads : DESTDIR = [] → manager.daemonReload = true) :
    ∃ u, removeInstalled manager purge DESTDIR t = .ok () u ∧
      Uninstalled DESTDIR purge t.look u.look := by
  obtain ⟨r, removable', tail, changed⟩ := removeInstalled_kept manager DESTDIR t removable reloads
  have private_file (file : Route) (managed : file ∈ managedFiles DESTDIR) :
      CONFIG_DIR DESTDIR ≠ file := (file_not_private DESTDIR file managed).symm
  have distinct := managedFiles_nodup DESTDIR
  simp only [managedFiles, List.nodup_cons, List.mem_cons, List.not_mem_nil, or_false, not_or,
    not_false_eq_true, List.nodup_nil, and_true] at distinct
  obtain ⟨⟨binary_unit, binary_config, binary_password⟩, ⟨unit_config, unit_password⟩,
    config_password⟩ := distinct
  cases purge with
  | false =>
    refine ⟨r, tail false, ?_, ?_, ?_, ?_, fun purged => absurd purged Bool.false_ne_true, ?_, ?_⟩
    · rw [changed, Function.update_of_ne binary_unit, Function.update_self]
    · rw [changed, Function.update_self]
    · rw [changed, Function.update_of_ne (Ne.symm unit_config),
        Function.update_of_ne (Ne.symm binary_config)]
      rfl
    · rw [changed, Function.update_of_ne (Ne.symm unit_password),
        Function.update_of_ne (Ne.symm binary_password)]
      rfl
    · intro _
      rw [changed, Function.update_of_ne (private_file _ (by simp [managedFiles])),
        Function.update_of_ne (private_file _ (by simp [managedFiles]))]
    · intro place elsewhere _
      simp only [managedFiles, List.mem_cons, List.not_mem_nil, or_false, not_or] at elsewhere
      rw [changed, Function.update_of_ne elsewhere.2.1, Function.update_of_ne elsewhere.1]
  | true =>
    obtain ⟨u, ran, mid, purged, empty, left⟩ := purgeConfiguration_removed DESTDIR r removable'
    have files (place : Route) : mid place =
        if place ∈ managedFiles DESTDIR then none else t.look place := by
      simp only [purged, changed, Function.update_apply, managedFiles, List.mem_cons,
        List.not_mem_nil, or_false]
      grind
    have shape (place : Route) (other : place ≠ CONFIG_DIR DESTDIR) : u.look place = mid place := by
      by_cases childless : ∀ name, mid (CONFIG_DIR DESTDIR ++ [name]) = none
      · rw [empty childless, Function.update_of_ne other]
      · rw [left childless]
    have children (name : String) : u.look (CONFIG_DIR DESTDIR ++ [name]) =
        mid (CONFIG_DIR DESTDIR ++ [name]) := shape _ (by simp)
    have gone (file : Route) (managed : file ∈ managedFiles DESTDIR) : u.look file = none := by
      rw [shape file (private_file file managed).symm, files, if_pos managed]
    refine ⟨u, (tail true).trans ran, gone _ (by simp [managedFiles]),
      gone _ (by simp [managedFiles]), gone _ (by simp [managedFiles]),
      gone _ (by simp [managedFiles]), ?_, ?_, ?_⟩
    · intro _ childless
      simp only [children] at childless
      rw [empty childless, Function.update_self]
    · intro some_left
      have kept := left (fun childless => some_left ⟨rfl, by simpa only [children] using childless⟩)
      rw [kept, files, if_neg]
      exact fun managed => private_file _ managed rfl
    · intro place elsewhere not_private
      rw [shape place not_private, files, if_neg elsewhere]

/-! The questions before it. -/

theorem readOnly_uninstallChecks (host : Host) (DESTDIR : Route) :
    ∀ s ∈ uninstallChecks host DESTDIR, ReadOnly s := by
  simp only [uninstallChecks, List.forall_mem_cons]
  refine ⟨?_, ?_, ?_, ?_, ?_, ?_, ?_, ?_, ?_, List.forall_mem_nil _⟩
  case refine_4 =>
    split
    · exact readOnly_pure ()
    · exact readOnly_demand _ _
  all_goals first
    | exact readOnly_demand _ _
    | exact readOnly_chain _ _ _
    | exact readOnly_managedFile _ _ _

theorem passes_uninstallChecks (host : Host) (DESTDIR : Route) (t : FileTree)
    (canonical : Canonical t DESTDIR) :
    Passes (inOrder (uninstallChecks host DESTDIR)) t ↔
      (∀ name ∈ ["dirname", "stat", "rm"], host.command name = true) ∧
      (DESTDIR = [] ∨ host.command "readlink" = true) ∧ Manageable DESTDIR t.look := by
  have directory := passes_directory canonical (CONFIG_DIR DESTDIR) "configuration directory"
    (private_managed DESTDIR)
  have file := passes_file canonical
  have readlink : Passes (if DESTDIR.isEmpty then pure () else requireCommand host "readlink") t ↔
      DESTDIR = [] ∨ host.command "readlink" = true := by
    split
    · rename_i live
      exact iff_of_true rfl (.inl (List.isEmpty_iff.mp live))
    · rename_i staged
      rw [requireCommand, passes_demand, or_iff_right]
      exact fun live => staged (List.isEmpty_iff.mpr live)
  rw [passes_inOrder _ (readOnly_uninstallChecks host DESTDIR)]
  simp only [uninstallChecks, List.forall_mem_cons, requireCommand, passes_demand] at readlink ⊢
  rw [readlink, directory, file _ _ (by simp [managedFiles]), file _ _ (by simp [managedFiles]),
    file _ _ (by simp [managedFiles]), file _ _ (by simp [managedFiles])]
  constructor
  · rintro ⟨dirname, stat, rm, linked, f₁, f₂, -, f₃, f₄, -⟩
    refine ⟨⟨dirname, stat, rm, List.forall_mem_nil _⟩, linked, ?_⟩
    simp only [Manageable, managedFiles, List.forall_mem_cons]
    exact ⟨f₁, f₂, f₃, f₄, List.forall_mem_nil _⟩
  · rintro ⟨⟨dirname, stat, rm, -⟩, linked, manageable⟩
    have safe (path : Route) (managed : path ∈ managedFiles DESTDIR) := manageable path managed
    exact ⟨dirname, stat, rm, linked, safe _ (by simp [managedFiles]),
      safe _ (by simp [managedFiles]),
      manageable_clear DESTDIR _ t.look manageable (private_managed DESTDIR),
      safe _ (by simp [managedFiles]), safe _ (by simp [managedFiles]), List.forall_mem_nil _⟩

theorem readOnly_resolveSystemctl (host : Host) (manager : Manager) (SYSTEMCTL : String) :
    ReadOnly (resolveSystemctl host manager SYSTEMCTL) := by
  unfold resolveSystemctl
  split <;> exact readOnly_demand _ _

theorem readOnly_stopService (host : Host) (manager : Manager) (DESTDIR : Route) :
    ReadOnly (stopService host manager DESTDIR) := by
  unfold stopService
  split
  · refine readOnly_bind _ _ (readOnly_demand _ _) (fun _ => ?_)
    refine readOnly_bind _ _ (readOnly_resolveSystemctl _ _ _) (fun _ => ?_)
    unfold stopAndDisableService
    split
    · exact readOnly_pure ()
    · refine readOnly_bind _ _ (readOnly_capture _ _) (fun _ => ?_)
      exact readOnly_bind _ _ (readOnly_capture _ _) (fun _ => readOnly_demand _ _)
  · exact readOnly_pure ()

/-- What lets a live run go on. -/
theorem passes_stopService (host : Host) (manager : Manager) (t : FileTree)
    (passes : Passes (stopService host manager []) t) :
    manager.disable = true ∨ manager.activeState = some "inactive" := by
  simp only [stopService, List.isEmpty_nil, if_true] at passes
  rw [passes_seq _ _ (readOnly_demand _ _),
    passes_seq _ _ (readOnly_resolveSystemctl _ _ _)] at passes
  have stops := passes.2.2
  unfold stopAndDisableService at stops
  split at stops
  · rename_i disabled
    exact .inl disabled
  · right
    rw [passes_capture] at stops
    obtain ⟨load_state, -, stops⟩ := stops
    rw [passes_capture] at stops
    obtain ⟨active_state, answered, stops⟩ := stops
    rw [passes_demand, beq_iff_eq] at stops
    rw [answered, stops]

/-! The whole run. -/

/-- How the root is given: not at all in a live run. -/
def given (DESTDIR : Route) : Option RawDestdir :=
  if DESTDIR = [] then none else some ⟨true, DESTDIR⟩

theorem stagingRoot_given (t : FileTree) (DESTDIR : Route) (canonical : Canonical t DESTDIR) :
    stagingRoot (given DESTDIR) t = .ok DESTDIR t := by
  by_cases live : DESTDIR = []
  · rw [given, if_pos live, live]
    rfl
  · rw [given, if_neg live]
    exact stagingRoot_canonical t DESTDIR canonical live

/-- Past its checks and with the service stopped, the uninstaller does not stop. -/
theorem uninstall_removed (host : Host) (manager : Manager) (purge : Bool) (DESTDIR : Route)
    (t : FileTree) (canonical : Canonical t DESTDIR) (superuser : host.superuser = true)
    (passes : Passes (inOrder (uninstallChecks host DESTDIR)) t)
    (stopped : Passes (stopService host manager DESTDIR) t)
    (reloads : DESTDIR = [] → manager.daemonReload = true) :
    ∃ u, uninstall host manager purge (given DESTDIR) t = .ok () u ∧
      Uninstalled DESTDIR purge t.look u.look := by
  have manageable := ((passes_uninstallChecks host DESTDIR t canonical).mp passes).2.2
  obtain ⟨u, ran, uninstalled⟩ := removeInstalled_uninstalled manager purge DESTDIR t
    ⟨canonical, manageable⟩ reloads
  refine ⟨u, ?_, uninstalled⟩
  rw [uninstall, bind_ok _ _ t t () ((passes_demand _ _ t).mpr superuser),
    bind_ok _ _ t t DESTDIR (stagingRoot_given t DESTDIR canonical), bind_ok _ _ t t () passes,
    bind_ok _ _ t t () stopped]
  exact ran

/-- A run stops before its first change, or all of it is done. -/
theorem uninstall_cases (host : Host) (manager : Manager) (purge : Bool) (DESTDIR : Route)
    (t : FileTree) (canonical : Canonical t DESTDIR)
    (reloads : DESTDIR = [] → manager.daemonReload = true) :
    (∃ why, uninstall host manager purge (given DESTDIR) t = .error why t) ∨
      Passes (inOrder (uninstallChecks host DESTDIR)) t ∧
        Passes (stopService host manager DESTDIR) t ∧
        ∃ u, uninstall host manager purge (given DESTDIR) t = .ok () u ∧
          Uninstalled DESTDIR purge t.look u.look := by
  have root := stagingRoot_given t DESTDIR canonical
  rcases passes_or_stops _ (readOnly_demand "this uninstaller must run as root"
    (fun _ => host.superuser)) t with first | ⟨why, stopped⟩
  swap
  · exact .inl ⟨why, bind_error _ _ t t why stopped⟩
  rcases passes_or_stops _ (readOnly_inOrder _ (readOnly_uninstallChecks host DESTDIR)) t
    with passes | ⟨why, stopped⟩
  swap
  · refine .inl ⟨why, ?_⟩
    rw [uninstall, bind_ok _ _ t t () first, bind_ok _ _ t t DESTDIR root,
      bind_error _ _ t t why stopped]
  rcases passes_or_stops _ (readOnly_stopService host manager DESTDIR) t
    with quiet | ⟨why, stopped⟩
  swap
  · refine .inl ⟨why, ?_⟩
    rw [uninstall, bind_ok _ _ t t () first, bind_ok _ _ t t DESTDIR root, bind_ok _ _ t t () passes,
      bind_error _ _ t t why stopped]
  exact .inr ⟨passes, quiet, uninstall_removed host manager purge DESTDIR t canonical
    ((passes_demand _ _ t).mp first) passes quiet reloads⟩

theorem live_canonical (t : FileTree) : Canonical t [] where
  ordinary := nofun
  directory := (t.holdsDirectory_iff []).mpr t.root
  unbroken := rfl

theorem staged_restores (host : Host) (manager : Manager) (tools : Tools) (sources : Invocation)
    (DESTDIR : Route) (t u : FileTree) (canonical : Canonical t DESTDIR)
    (absent : ∀ file ∈ managedFiles DESTDIR, t.look file = none) (rm : host.command "rm" = true)
    (ran : stagedInstall host tools sources ⟨true, DESTDIR⟩ t = .ok () u) :
    ∃ w, uninstall host manager true (some ⟨true, DESTDIR⟩) u = .ok () w ∧
      ∀ place seen, seen.kind ≠ .directory →
        (w.look place = some seen ↔ t.look place = some seen) := by
  have different : ∀ source ∈ [sources.SOURCE_BINARY, sources.SOURCE_UNIT, sources.SOURCE_CONFIG],
      ∀ destination ∈ destinations DESTDIR, ∀ content, ¬ t.Leads source destination content := by
    intro source _ destination among content leads
    obtain ⟨-, a, n, found⟩ := leads
    have managed : destination ∈ managedFiles DESTDIR := by
      simp only [destinations, managedFiles, List.mem_cons, List.not_mem_nil, or_false] at among ⊢
      rcases among with rfl | rfl | rfl <;> simp
    rw [absent destination managed] at found
    cases found
  rcases stagedInstall_cases host tools sources DESTDIR t canonical different with
    ⟨why, stopped⟩ | ⟨⟨superuser, below_root, checked⟩, binary, unit, sample, u', ready, ran',
      harmless, installed, -⟩
  · rw [stopped] at ran
    cases ran
  · rw [ran'] at ran
    cases ran
    have canonical' := harmless.canonical canonical
    obtain ⟨commands, -⟩ := (passes_installChecks host tools sources DESTDIR t canonical).mp checked
    have passes : Passes (inOrder (uninstallChecks host DESTDIR)) u := by
      rw [passes_uninstallChecks host DESTDIR u canonical']
      refine ⟨?_, .inr (commands _ (by simp)), harmless.manageable⟩
      simp only [List.forall_mem_cons]
      exact ⟨commands _ (by simp), commands _ (by simp), rm, List.forall_mem_nil _⟩
    have quiet : Passes (stopService host manager DESTDIR) u := by
      rw [stopService, if_neg (by simp [below_root])]
      rfl
    obtain ⟨w, removed, uninstalled⟩ := uninstall_removed host manager true DESTDIR u canonical'
      superuser passes quiet (fun live => absurd live below_root)
    rw [given, if_neg below_root] at removed
    have clear := manageable_clear DESTDIR _ t.look ready.manageable (private_managed DESTDIR) _
      List.prefix_rfl
    exact ⟨w, removed, uninstall_restores DESTDIR binary unit sample t.look u.look w.look absent clear
      installed uninstalled⟩

/-- An uninstall, live where `DESTDIR` is empty (any tree does then, by `live_canonical`), stops
and has changed nothing, or what the uninstaller owns is gone, and nothing else. A live one goes
on only if the service was stopped. A staged one with `--purge-config` takes back what a staged
install put there. -/
theorem uninstall_owned (host : Host) (manager : Manager) (PURGE_CONFIG : Bool) (t : FileTree)
    (DESTDIR : Route) (canonical : Canonical t DESTDIR)
    (reloads : DESTDIR = [] → manager.daemonReload = true) :
    ((∃ why, uninstall host manager PURGE_CONFIG (given DESTDIR) t = .error why t) ∨
      ∃ u, uninstall host manager PURGE_CONFIG (given DESTDIR) t = .ok () u ∧
        Uninstalled DESTDIR PURGE_CONFIG t.look u.look) ∧
      (DESTDIR = [] → ¬ (manager.disable = true ∨ manager.activeState = some "inactive") →
        ∃ why, uninstall host manager PURGE_CONFIG none t = .error why t) ∧
      (∀ file ∈ managedFiles DESTDIR, ∀ description,
        ¬ Passes (validateManagedFile DESTDIR file description) t →
        ∃ why, uninstall host manager PURGE_CONFIG (given DESTDIR) t = .error why t) ∧
      (∀ tools sources u, (∀ file ∈ managedFiles DESTDIR, t.look file = none) →
        host.command "rm" = true →
        stagedInstall host tools sources ⟨true, DESTDIR⟩ t = .ok () u →
        ∃ w, uninstall host manager true (some ⟨true, DESTDIR⟩) u = .ok () w ∧
          ∀ place seen, seen.kind ≠ .directory →
            (w.look place = some seen ↔ t.look place = some seen)) := by
  have either := uninstall_cases host manager PURGE_CONFIG DESTDIR t canonical reloads
  refine ⟨?_, ?_, ?_, ?_⟩
  · rcases either with stopped | ⟨-, -, removed⟩
    · exact .inl stopped
    · exact .inr removed
  · rintro rfl running
    rcases either with stopped | ⟨-, quiet, -⟩
    · exact stopped
    · exact absurd (passes_stopService host manager t quiet) running
  · intro file managed description invalid
    rcases either with stopped | ⟨passes, -⟩
    · exact stopped
    · have manageable := ((passes_uninstallChecks host DESTDIR t canonical).mp passes).2.2
      exact absurd ((passes_file canonical file description managed).mpr
        (manageable file managed)) invalid
  · intro tools sources u absent rm ran
    exact staged_restores host manager tools sources DESTDIR t u canonical absent rm ran

/-- A service that was installed and then stopped by hand. -/
def liveTree : FileTree :=
  let attributes : Attributes := ⟨"root", "root", 0o755⟩
  (do
    let t ← (FileTree.bare attributes).replace ["usr"] (.directory attributes)
    let t ← t.replace ["usr", "local"] (.directory attributes)
    let t ← t.replace ["usr", "local", "bin"] (.directory attributes)
    let t ← t.replace ["etc"] (.directory attributes)
    let t ← t.replace ["etc", PROJECT_NAME] (.directory attributes)
    let t ← t.create (DESTINATION_BINARY []) ⟨[1], attributes⟩
    let t ← t.create (CONFIG_FILE []) ⟨[2], attributes⟩
    t.create (CONFIG_DIR [] ++ ["notes"]) ⟨[3], attributes⟩).getD (FileTree.bare attributes)

def stoppedManager : Manager where
  SYSTEMCTL := none
  executable _ := true
  disable := false
  loadState := some "not-found"
  activeState := some "inactive"
  daemonReload := true

theorem uninstall_owned_sample :
    ∃ u, uninstall sampleHost stoppedManager true none liveTree = .ok () u ∧
      Uninstalled [] true liveTree.look u.look := by
  have runs : succeeded (uninstall sampleHost stoppedManager true none liveTree) = true := by
    decide +kernel
  rcases (uninstall_owned sampleHost stoppedManager true liveTree [] (live_canonical liveTree)
    (fun _ => rfl)).1 with ⟨why, stopped⟩ | removed
  · rw [given, if_pos rfl] at stopped
    rw [stopped] at runs
    cases runs
  · exact removed

end RpiHealth
