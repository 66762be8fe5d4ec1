import RpiHealth.Scripts.Directories

/-! The files that a staged install puts in place or secures. -/
namespace RpiHealth

open Files Script

theorem installManagedFile_put (DESTDIR source file : Route) (group description : String)
    (mode : Nat) (content : List UInt8) (t : FileTree) (canonical : Canonical t DESTDIR)
    (manageable : Manageable DESTDIR t.look) (managed : file ∈ managedFiles DESTDIR)
    (destination : file ∈ destinations DESTDIR) (supplied : Supplied DESTDIR t source content)
    (parent : t.holdsDirectory file.dropLast = true) :
    ∃ u, installManagedFile DESTDIR source file group mode description t = .ok () u ∧
      Harmless DESTDIR t u ∧
      u.look = Function.update t.look file (some (.file content ⟨"root", group, mode⟩ 1)) := by
  have safe := manageable file managed
  obtain ⟨place, different, resolved, copied⟩ := supplied
  have apart : place ≠ file := by
    rintro rfl
    exact different destination
  obtain ⟨u, copied_over, changed⟩ := FileTree.install_plain
    (file_plain canonical file managed safe) ⟨"root", group, mode⟩ source place content
    resolved copied apart parent safe.2
  have harmless := harmless_file DESTDIR t u file content _ managed manageable
    (fun _ _ _ absent => absurd destination absent) changed
  have canonical' := harmless.canonical canonical
  have before := (passes_file canonical file description managed).mpr safe
  have after := (passes_file canonical' file description managed).mpr
    (harmless.manageable file managed)
  refine ⟨u, ?_, harmless, changed⟩
  rw [installManagedFile, bind_ok _ _ t t () before,
    bind_ok _ _ t u () (execute_ok _ _ t u copied_over)]
  exact after

theorem attributes_put (DESTDIR file : Route) (f g : Attributes → Attributes) (t : FileTree)
    (canonical : Canonical t DESTDIR) (manageable : Manageable DESTDIR t.look)
    (managed : file ∈ managedFiles DESTDIR) (content : List UInt8) (a : Attributes)
    (found : t.look file = some (.file content a 1)) :
    ∃ u, t.setAttributes file f g = some u ∧ Harmless DESTDIR t u ∧
      u.look = Function.update t.look file (some (.file content (g a) 1)) := by
  have plain := file_plain canonical file managed (manageable file managed)
  obtain ⟨u, done, changed⟩ := FileTree.setAttributes_file plain f g content a found
  refine ⟨u, done, harmless_file DESTDIR t u file content _ managed manageable ?_ changed, changed⟩
  intro old b n _ seen
  rw [found] at seen
  cases seen
  rfl

theorem secureExistingFile_put (DESTDIR file : Route) (description : String) (t : FileTree)
    (canonical : Canonical t DESTDIR) (manageable : Manageable DESTDIR t.look)
    (managed : file ∈ managedFiles DESTDIR) (seen : View) (found : t.look file = some seen) :
    ∃ u, secureExistingFile DESTDIR file FILE_GROUP description t = .ok () u ∧
      Harmless DESTDIR t u ∧ u.look = Function.update t.look file (some (secured seen)) := by
  have safe := manageable file managed
  obtain ⟨content, a, here⟩ := safe.2.resolve_left (by rw [found]; exact Option.some_ne_none _)
  rw [found] at here
  cases here
  have plain := file_plain canonical file managed safe
  have present := FileTree.plain_file plain content a 1 found
  obtain ⟨u, owned, harmless₁, changed₁⟩ := attributes_put DESTDIR file
    (fun a => { a with owner := "root", group := FILE_GROUP })
    (fun a => { a with owner := "root", group := FILE_GROUP, mode := FileTree.withoutSetId a.mode })
    t canonical manageable managed content a found
  have canonical₁ := harmless₁.canonical canonical
  obtain ⟨w, moded, harmless₂, changed₂⟩ := attributes_put DESTDIR file
    (fun a => { a with mode := (a.mode &&& FileTree.SET_ID) ||| 0o640 })
    (fun a => { a with mode := 0o640 }) u canonical₁ harmless₁.manageable managed content _
    (by rw [changed₁, Function.update_self])
  have harmless := harmless₁.trans harmless₂
  have canonical' := harmless.canonical canonical
  have before := (passes_file canonical file description managed).mpr safe
  have after := (passes_file canonical' file description managed).mpr
    (harmless.manageable file managed)
  refine ⟨w, ?_, harmless, ?_⟩
  · rw [secureExistingFile, bind_ok _ _ t t () before,
      bind_ok _ _ t t () ((passes_demand _ _ t).mpr present),
      bind_ok _ _ t u () (execute_ok _ _ t u owned), bind_ok _ _ u w () (execute_ok _ _ u w moded)]
    exact after
  · rw [changed₂, changed₁, Function.update_idem]
    rfl

theorem pathExists_managed (t : FileTree) (DESTDIR file : Route) (canonical : Canonical t DESTDIR)
    (managed : file ∈ managedFiles DESTDIR) (safe : Safe t.look file) :
    pathExists file t = (t.look file).isSome := by
  have plain := file_plain canonical file managed safe
  have no_link := ((FileTree.file_or_nothing plain).mpr safe.2).1
  rw [pathExists, no_link, Bool.or_false]
  rcases safe.2 with gone | ⟨content, a, seen⟩
  · rw [(FileTree.plain_absent plain gone).1, gone]
    rfl
  · rw [FileTree.plain_file plain content a 1 seen, seen]
    rfl

theorem installConfiguration_put (sources : Invocation) (DESTDIR : Route) (sample : List UInt8)
    (t : FileTree) (canonical : Canonical t DESTDIR) (manageable : Manageable DESTDIR t.look)
    (supplied : Supplied DESTDIR t sources.SOURCE_CONFIG sample)
    (parent : t.holdsDirectory (CONFIG_DIR DESTDIR) = true) :
    ∃ u, installConfiguration sources DESTDIR t = .ok () u ∧ Harmless DESTDIR t u ∧
      u.look = Function.update t.look (CONFIG_FILE DESTDIR)
        (some (((t.look (CONFIG_FILE DESTDIR)).map secured).getD
          (.file sample ⟨"root", "root", 0o640⟩ 1))) := by
  have managed : CONFIG_FILE DESTDIR ∈ managedFiles DESTDIR := by simp [managedFiles]
  have exists_ := pathExists_managed t DESTDIR _ canonical managed (manageable _ managed)
  cases found : t.look (CONFIG_FILE DESTDIR) with
  | none =>
    rw [found] at exists_
    obtain ⟨u, ran, harmless, changed⟩ := installManagedFile_put DESTDIR sources.SOURCE_CONFIG
      (CONFIG_FILE DESTDIR) FILE_GROUP "configuration file" 0o640 sample t canonical manageable
      managed (by simp [destinations]) supplied (by simpa [CONFIG_FILE] using parent)
    refine ⟨u, ?_, harmless, changed⟩
    rw [installConfiguration, bind_ok _ _ t t false (by rw [inquire, exists_]; rfl)]
    exact ran
  | some seen =>
    rw [found] at exists_
    obtain ⟨u, ran, harmless, changed⟩ := secureExistingFile_put DESTDIR (CONFIG_FILE DESTDIR)
      "configuration file" t canonical manageable managed seen found
    refine ⟨u, ?_, harmless, changed⟩
    rw [installConfiguration, bind_ok _ _ t t true (by rw [inquire, exists_]; rfl)]
    exact ran

theorem securePassword_put (DESTDIR : Route) (t : FileTree) (canonical : Canonical t DESTDIR)
    (manageable : Manageable DESTDIR t.look) :
    ∃ u, securePassword DESTDIR t = .ok () u ∧ Harmless DESTDIR t u ∧
      u.look = Function.update t.look (PASSWORD_FILE DESTDIR)
        ((t.look (PASSWORD_FILE DESTDIR)).map secured) := by
  have managed : PASSWORD_FILE DESTDIR ∈ managedFiles DESTDIR := by simp [managedFiles]
  have exists_ := pathExists_managed t DESTDIR _ canonical managed (manageable _ managed)
  cases found : t.look (PASSWORD_FILE DESTDIR) with
  | none =>
    rw [found] at exists_
    refine ⟨t, ?_, harmless_refl DESTDIR t manageable, ?_⟩
    · rw [securePassword, bind_ok _ _ t t false (by rw [inquire, exists_]; rfl)]
      rfl
    · rw [Option.map_none, ← found, Function.update_eq_self]
  | some seen =>
    rw [found] at exists_
    obtain ⟨u, ran, harmless, changed⟩ := secureExistingFile_put DESTDIR (PASSWORD_FILE DESTDIR)
      "password file" t canonical manageable managed seen found
    refine ⟨u, ?_, harmless, changed⟩
    rw [securePassword, bind_ok _ _ t t true (by rw [inquire, exists_]; rfl)]
    exact ran

/-- The managed files are four. -/
theorem managedFiles_nodup (DESTDIR : Route) : (managedFiles DESTDIR).Nodup := by
  rw [managedFiles_eq]
  exact (List.nodup_map_iff (List.append_right_injective DESTDIR)).mpr (by decide)

theorem installFiles_put (sources : Invocation) (DESTDIR : Route) (binary unit sample : List UInt8)
    (t : FileTree) (ready : Ready sources DESTDIR binary unit sample t)
    (parents : ∀ dir ∈ managedDirectories DESTDIR, t.holdsDirectory dir = true) :
    ∃ u, installFiles sources DESTDIR t = .ok () u ∧ Harmless DESTDIR t u ∧
      FilesPut DESTDIR binary unit sample t.look u.look := by
  have parent (file : Route) (managed : file ∈ managedFiles DESTDIR) :
      t.holdsDirectory file.dropLast = true := parents _ (file_parent DESTDIR file managed)
  obtain ⟨r, ran₁, harmless₁, changed₁⟩ := installManagedFile_put DESTDIR sources.SOURCE_BINARY
    (DESTINATION_BINARY DESTDIR) "root" "installed binary" 0o755 binary t ready.canonical
    ready.manageable (by simp [managedFiles]) (by simp [destinations]) ready.binary
    (parent _ (by simp [managedFiles]))
  have ready₁ := ready.step harmless₁
  obtain ⟨u, ran₂, harmless₂, changed₂⟩ := installManagedFile_put DESTDIR sources.SOURCE_UNIT
    (DESTINATION_UNIT DESTDIR) "root" "installed systemd unit" 0o644 unit r ready₁.canonical
    ready₁.manageable (by simp [managedFiles]) (by simp [destinations]) ready₁.unit
    (harmless₁.wider.directory t r _ (parent _ (by simp [managedFiles])))
  have ready₂ := ready₁.step harmless₂
  have harmless := harmless₁.trans harmless₂
  obtain ⟨v, ran₃, harmless₃, changed₃⟩ := installConfiguration_put sources DESTDIR sample u
    ready₂.canonical ready₂.manageable ready₂.sample
    (harmless.wider.directory t u _ (parents _ (private_managed DESTDIR)))
  have ready₃ := ready₂.step harmless₃
  obtain ⟨w, ran₄, harmless₄, changed₄⟩ := securePassword_put DESTDIR v ready₃.canonical
    ready₃.manageable
  have distinct := managedFiles_nodup DESTDIR
  simp only [managedFiles, List.nodup_cons, List.mem_cons, List.not_mem_nil, or_false, not_or,
    not_false_eq_true, List.nodup_nil, and_true] at distinct
  obtain ⟨⟨binary_unit, binary_config, binary_password⟩, ⟨unit_config, unit_password⟩,
    config_password⟩ := distinct
  refine ⟨w, ?_, (harmless.trans harmless₃).trans harmless₄, ?_, ?_, ?_, ?_, ?_⟩
  · rw [installFiles, bind_ok _ _ t r () ran₁, bind_ok _ _ r u () ran₂, bind_ok _ _ u v () ran₃]
    exact ran₄
  · rw [changed₄, Function.update_of_ne binary_password, changed₃,
      Function.update_of_ne binary_config, changed₂, Function.update_of_ne binary_unit, changed₁,
      Function.update_self]
  · rw [changed₄, Function.update_of_ne unit_password, changed₃, Function.update_of_ne unit_config,
      changed₂, Function.update_self]
  · rw [changed₄, Function.update_of_ne config_password, changed₃, Function.update_self, changed₂,
      Function.update_of_ne (Ne.symm unit_config), changed₁,
      Function.update_of_ne (Ne.symm binary_config)]
  · rw [changed₄, Function.update_self, changed₃, Function.update_of_ne (Ne.symm config_password),
      changed₂, Function.update_of_ne (Ne.symm unit_password), changed₁,
      Function.update_of_ne (Ne.symm binary_password)]
  · intro place elsewhere
    simp only [managedFiles, List.mem_cons, List.not_mem_nil, or_false, not_or] at elsewhere
    rw [changed₄, Function.update_of_ne elsewhere.2.2.2, changed₃,
      Function.update_of_ne elsewhere.2.2.1, changed₂, Function.update_of_ne elsewhere.2.1,
      changed₁, Function.update_of_ne elsewhere.1]

end RpiHealth
