import RpiHealth.Scripts.Install
import RpiHealth.Scripts.Installed

/-! The steps of a staged install: what each relies on and leaves as it was, and the directories
they make. -/
namespace RpiHealth

open Files Script

/-! What the steps rely on, and that each step leaves it so. -/

def destinations (DESTDIR : Route) : List Route :=
  [DESTINATION_BINARY DESTDIR, DESTINATION_UNIT DESTDIR, CONFIG_FILE DESTDIR]

/-- The path leads to a file with this content that the installer does not replace. -/
def Supplied (DESTDIR : Route) (t : FileTree) (path : Route) (content : List UInt8) : Prop :=
  ∃ place, place ∉ destinations DESTDIR ∧ t.Leads path place content

theorem Supplied.contentOf {DESTDIR : Route} {t : FileTree} {path : Route} {content : List UInt8}
    (supplied : Supplied DESTDIR t path content) : t.contentOf path = some content := by
  obtain ⟨place, -, leads⟩ := supplied
  exact leads.contentOf

structure Ready (sources : Invocation) (DESTDIR : Route) (binary unit sample : List UInt8)
    (t : FileTree) : Prop where
  canonical : Canonical t DESTDIR
  manageable : Manageable DESTDIR t.look
  binary : Supplied DESTDIR t sources.SOURCE_BINARY binary
  unit : Supplied DESTDIR t sources.SOURCE_UNIT unit
  sample : Supplied DESTDIR t sources.SOURCE_CONFIG sample

structure Harmless (DESTDIR : Route) (t u : FileTree) : Prop where
  wider : t.Extends u
  manageable : Manageable DESTDIR u.look
  contents : ∀ place content a n, place ∉ destinations DESTDIR →
    t.look place = some (.file content a n) → ∃ a n, u.look place = some (.file content a n)

theorem Harmless.supplied {DESTDIR : Route} {t u : FileTree} (harmless : Harmless DESTDIR t u)
    {path : Route} {content : List UInt8} (supplied : Supplied DESTDIR t path content) :
    Supplied DESTDIR u path content := by
  obtain ⟨place, different, leads⟩ := supplied
  exact ⟨place, different, leads.extends harmless.wider
    (fun a n => harmless.contents place content a n different)⟩

theorem Harmless.canonical {DESTDIR : Route} {t u : FileTree} (harmless : Harmless DESTDIR t u)
    (canonical : Canonical t DESTDIR) : Canonical u DESTDIR where
  ordinary := canonical.ordinary
  directory := harmless.wider.directory t u DESTDIR canonical.directory
  unbroken := canonical.unbroken

theorem Ready.step {sources : Invocation} {DESTDIR : Route} {binary unit sample : List UInt8}
    {t u : FileTree} (ready : Ready sources DESTDIR binary unit sample t)
    (harmless : Harmless DESTDIR t u) : Ready sources DESTDIR binary unit sample u where
  canonical := harmless.canonical ready.canonical
  manageable := harmless.manageable
  binary := harmless.supplied ready.binary
  unit := harmless.supplied ready.unit
  sample := harmless.supplied ready.sample

/-- A managed file gets another content or other attributes. -/
theorem harmless_file (DESTDIR : Route) (t u : FileTree) (file : Route) (content : List UInt8)
    (a : Attributes) (managed : file ∈ managedFiles DESTDIR)
    (manageable : Manageable DESTDIR t.look)
    (same : ∀ old b n, file ∉ destinations DESTDIR → t.look file = some (.file old b n) →
      old = content)
    (changed : u.look = Function.update t.look file (some (.file content a 1))) :
    Harmless DESTDIR t u where
  wider := by
    refine FileTree.extends_update t u file _ changed ?_ nofun
    intro old found
    rcases (manageable file managed).2 with gone | ⟨content, b, seen⟩
    · rw [gone] at found
      cases found
    · rw [seen] at found
      cases found
      rfl
  manageable other member := by
    obtain ⟨clear, seen⟩ := manageable other member
    rw [changed]
    refine ⟨clear.update file _ ?_, ?_⟩
    · intro above
      exact absurd above
        (file_not_above DESTDIR file _ managed (file_parent DESTDIR other member))
    · by_cases here : other = file
      · rw [here, Function.update_self]
        exact .inr ⟨content, a, rfl⟩
      · rwa [Function.update_of_ne here]
  contents place old b n different found := by
    rw [changed]
    by_cases here : place = file
    · subst here
      rw [same old b n different found, Function.update_self]
      exact ⟨a, 1, rfl⟩
    · rw [Function.update_of_ne here]
      exact ⟨b, n, found⟩

/-- A directory that is no managed file is made or gets other attributes. -/
theorem harmless_directory (DESTDIR : Route) (t u : FileTree) (place : Route) (a : Attributes)
    (no_file : place ∉ managedFiles DESTDIR) (manageable : Manageable DESTDIR t.look)
    (before : t.look place = none ∨ ∃ b, t.look place = some (.directory b))
    (changed : u.look = Function.update t.look place (some (.directory a))) :
    Harmless DESTDIR t u where
  wider := by
    refine FileTree.extends_update t u place _ changed ?_ nofun
    intro old found
    rcases before with gone | ⟨b, seen⟩
    · rw [gone] at found
      cases found
    · rw [seen] at found
      cases found
      rfl
  manageable other member := by
    obtain ⟨clear, seen⟩ := manageable other member
    rw [changed]
    refine ⟨clear.update place _ (fun _ => ⟨a, rfl⟩), ?_⟩
    rw [Function.update_of_ne]
    · exact seen
    · rintro rfl
      exact no_file member
  contents other content b n _ found := by
    rw [changed]
    by_cases here : other = place
    · subst here
      rcases before with gone | ⟨c, seen⟩
      · rw [gone] at found
        cases found
      · rw [seen] at found
        cases found
    · rw [Function.update_of_ne here]
      exact ⟨b, n, found⟩

theorem harmless_refl (DESTDIR : Route) (t : FileTree) (manageable : Manageable DESTDIR t.look) :
    Harmless DESTDIR t t :=
  ⟨.refl t, manageable, fun _ _ a n _ found => ⟨a, n, found⟩⟩

theorem Harmless.trans {DESTDIR : Route} {t u w : FileTree} (first : Harmless DESTDIR t u)
    (second : Harmless DESTDIR u w) : Harmless DESTDIR t w where
  wider := first.wider.trans second.wider
  manageable := second.manageable
  contents place content a n different found := by
    obtain ⟨b, m, between⟩ := first.contents place content a n different found
    exact second.contents place content b m different between

/-! Directories. -/

/-- Between the two trees the way to the directory was completed and nothing else. -/
structure Deepened (dir : Route) (before after : Route → Option View) : Prop where
  made : ∀ place, place <+: dir → ∃ a, after place = some (.directory a)
  kept : ∀ place, ¬ (before place = none ∧ place <+: dir) → after place = before place

/-- What the installer asks about a directory that is there. -/
theorem directory_passes (t : FileTree) (DESTDIR relative : Route) (a : Attributes)
    (suffix : Suffix relative) (plain : t.Plain (DESTDIR ++ relative))
    (found : t.look (DESTDIR ++ relative) = some (.directory a)) :
    (∀ description, Passes (rejectSymlink (DESTDIR ++ relative) description) t) ∧
      t.isDirectory (DESTDIR ++ relative) = true ∧
      Passes (assertResolvedUnderStage DESTDIR (DESTDIR ++ relative)) t := by
  have entry := (t.look_directory _ a).mp found
  have no_link := ((FileTree.directory_or_nothing plain).mpr (.inr ⟨a, found⟩)).1
  refine ⟨fun description => ?_, (FileTree.plain_directory plain a found).2,
    passes_resolved t DESTDIR relative suffix plain (by simp [entry]) (by simp [entry])⟩
  rw [rejectSymlink, passes_demand, no_link]
  rfl

theorem installMissing_made (DESTDIR place : Route) (t : FileTree) (not_directory : String)
    (plain : t.Plain place) (parent : t.holdsDirectory place.dropLast = true)
    (no_file : place ∉ managedFiles DESTDIR) (manageable : Manageable DESTDIR t.look)
    (clear : t.look place = none ∨ ∃ a, t.look place = some (.directory a)) :
    ∃ u, installMissing not_directory place t = .ok () u ∧ Harmless DESTDIR t u ∧
      (∃ a, u.look place = some (.directory a)) ∧
      ∀ other, ¬ (t.look other = none ∧ other = place) → u.look other = t.look other := by
  rcases clear with gone | ⟨a, found⟩
  · obtain ⟨u, a, made, -, -, changed⟩ :=
      FileTree.installDirectory_plain plain ⟨"root", "root", 0o755⟩ parent gone
    have absent := (FileTree.plain_absent plain gone).1
    refine ⟨u, ?_, harmless_directory DESTDIR t u place a no_file manageable (.inl gone) changed,
      ⟨a, by rw [changed, Function.update_self]⟩, ?_⟩
    · rw [installMissing, bind_ok _ _ t t false (by rw [inquire, absent]),
        if_neg Bool.false_ne_true, execute, made]
    · intro other elsewhere
      rw [changed, Function.update_of_ne]
      rintro rfl
      exact elsewhere ⟨gone, rfl⟩
  · obtain ⟨present, directory⟩ := FileTree.plain_directory plain a found
    refine ⟨t, ?_, harmless_refl DESTDIR t manageable, ⟨a, found⟩, fun _ _ => rfl⟩
    rw [installMissing, bind_ok _ _ t t true (by rw [inquire, present]), if_pos rfl, demand,
      if_pos directory]

theorem createComponents_made (DESTDIR : Route) (description : String) (rest done : Route)
    (t : FileTree) (canonical : Canonical t DESTDIR) (manageable : Manageable DESTDIR t.look)
    (names : ∀ name ∈ done ++ rest, name ≠ "" ∧ name ≠ "." ∧ name ≠ "..")
    (no_file : ∀ place, place <+: DESTDIR ++ done ++ rest → place ∉ managedFiles DESTDIR)
    (clear : Clear t.look (DESTDIR ++ done ++ rest))
    (here : t.holdsDirectory (DESTDIR ++ done) = true) :
    ∃ u, createComponents DESTDIR description (DESTDIR ++ done) rest t = .ok () u ∧
      Harmless DESTDIR t u ∧ Deepened (DESTDIR ++ done ++ rest) t.look u.look := by
  induction rest generalizing done t with
  | nil =>
    rw [List.append_nil]
    refine ⟨t, rfl, harmless_refl DESTDIR t manageable, ?_, fun _ _ => rfl⟩
    exact fun place above => t.directory_above (DESTDIR ++ done) place here above
  | cons name rest ih =>
    have joined : DESTDIR ++ done ++ name :: rest = DESTDIR ++ done ++ [name] ++ rest := by simp
    have shifted : DESTDIR ++ (done ++ [name]) = DESTDIR ++ done ++ [name] :=
      (List.append_assoc _ _ _).symm
    rw [joined] at clear no_file ⊢
    have split : done ++ name :: rest = done ++ [name] ++ rest := by simp
    rw [split] at names
    have suffix : Suffix (done ++ [name]) :=
      ⟨by simp, fun other member => names other (List.mem_append_left rest member)⟩
    have upward : DESTDIR ++ done ++ [name] <+: DESTDIR ++ done ++ [name] ++ rest :=
      List.prefix_append _ rest
    have parent : (DESTDIR ++ done ++ [name]).dropLast = DESTDIR ++ done := List.dropLast_concat
    have plain : t.Plain (DESTDIR ++ done ++ [name]) := by
      refine Clear.plain ?_ (by simp) ?_
      · rw [parent]
        exact clear.above _ ((List.prefix_append _ [name]).trans upward)
      · rw [← shifted]
        exact suffix.ordinary t DESTDIR canonical
    obtain ⟨u, ran, harmless, directory, kept⟩ := installMissing_made DESTDIR
      (DESTDIR ++ done ++ [name]) t
      (description ++ " component is not a directory: " ++ shown (DESTDIR ++ done ++ [name]))
      plain (by rwa [parent]) (no_file _ upward) manageable (clear _ upward)
    have clear' : Clear u.look (DESTDIR ++ done ++ [name] ++ rest) := by
      intro front above
      by_cases new : t.look front = none ∧ front = DESTDIR ++ done ++ [name]
      · rw [new.2]
        exact .inr directory
      · rw [kept front new]
        exact clear front above
    have canonical' := harmless.canonical canonical
    obtain ⟨a, found⟩ := directory
    have held : u.holdsDirectory (DESTDIR ++ done ++ [name]) = true :=
      (u.holdsDirectory_iff _).mpr ⟨a, (u.look_directory _ a).mp found⟩
    obtain ⟨w, rest_ran, rest_harmless, deepened⟩ := ih (done ++ [name]) u canonical'
      harmless.manageable names (by rwa [shifted]) (by rwa [shifted]) (by rwa [shifted])
    rw [shifted] at rest_ran deepened
    have plain' : u.Plain (DESTDIR ++ (done ++ [name])) := by
      refine Clear.plain ?_ (by simp) (suffix.ordinary u DESTDIR canonical')
      rw [shifted, parent]
      exact clear'.above _ ((List.prefix_append _ [name]).trans upward)
    obtain ⟨no_link, is_directory, resolved⟩ := directory_passes u DESTDIR (done ++ [name]) a suffix
      plain' (by rw [shifted, found])
    have no_link_before : Passes (rejectSymlink (DESTDIR ++ done ++ [name])
        (description ++ " component")) t := by
      rw [rejectSymlink, passes_demand,
        ((FileTree.directory_or_nothing plain).mpr (clear _ upward)).1]
      rfl
    rw [shifted] at no_link is_directory resolved
    refine ⟨w, ?_, harmless.trans rest_harmless, ?_, ?_⟩
    · rw [createComponents, bind_ok _ _ t t () no_link_before, bind_ok _ _ t u () ran,
        bind_ok _ _ u u () (no_link _),
        bind_ok _ _ u u () ((passes_demand _ _ u).mpr is_directory), bind_ok _ _ u u () resolved]
      exact rest_ran
    · exact deepened.made
    · intro place elsewhere
      rw [deepened.kept place, kept place]
      · rintro ⟨gone, rfl⟩
        exact elsewhere ⟨gone, upward⟩
      · rintro ⟨gone, above⟩
        by_cases new : t.look place = none ∧ place = DESTDIR ++ done ++ [name]
        · rw [new.2, found] at gone
          cases gone
        · exact elsewhere ⟨by rwa [kept place new] at gone, above⟩

theorem createDirectoryChain_made (DESTDIR dir : Route) (description : String) (t : FileTree)
    (canonical : Canonical t DESTDIR) (manageable : Manageable DESTDIR t.look)
    (directory : dir ∈ managedDirectories DESTDIR) :
    ∃ u, createDirectoryChain DESTDIR dir description t = .ok () u ∧ Harmless DESTDIR t u ∧
      Deepened dir t.look u.look := by
  have clear := manageable_clear DESTDIR dir t.look manageable directory
  have no_file (place : Route) (above : place <+: dir) : place ∉ managedFiles DESTDIR :=
    above_not_file DESTDIR dir place directory above
  have valid := (passes_directory canonical dir description directory).mpr clear
  obtain ⟨relative, rfl, suffix⟩ := directory_suffix DESTDIR dir directory
  obtain ⟨u, ran, harmless, deepened⟩ := createComponents_made DESTDIR description relative [] t
    canonical manageable suffix.2 (by simpa using no_file) (by simpa using clear)
    (by simpa using canonical.directory)
  rw [List.append_nil] at ran deepened
  refine ⟨u, ?_, harmless, deepened⟩
  rw [createDirectoryChain, bind_ok _ _ t t () valid, List.drop_left]
  exact ran

theorem Deepened.directory {dir place : Route} {before after : Route → Option View} {a : Attributes}
    (deepened : Deepened dir before after) (found : before place = some (.directory a)) :
    after place = some (.directory a) := by
  rw [deepened.kept place, found]
  rintro ⟨gone, -⟩
  rw [found] at gone
  cases gone

/-- The owner and the mode of a directory, one after the other. -/
theorem directory_secured (t : FileTree) (place : Route) (nonempty : place ≠ [])
    (ordinary : FileTree.Ordinary place) (clear : Clear t.look place) (a : Attributes)
    (found : t.look place = some (.directory a)) :
    ∃ u w, t.chown "root" FILE_GROUP place = some u ∧ u.chmod 0o750 place = some w ∧
      w.look = Function.update t.look place
        (some (.directory ⟨"root", "root", privateMode a.mode⟩)) := by
  have above := List.dropLast_prefix place
  obtain ⟨u, owned, changed⟩ := FileTree.setAttributes_directory
    (Clear.plain (clear.above _ above) nonempty ordinary)
    (fun a => { a with owner := "root", group := FILE_GROUP })
    (fun a => { a with owner := "root", group := FILE_GROUP, mode := FileTree.withoutSetId a.mode })
    a found
  have clear' : Clear u.look place := by
    rw [changed]
    exact clear.update place _ (fun _ => ⟨_, rfl⟩)
  obtain ⟨w, moded, changed'⟩ := FileTree.setAttributes_directory
    (Clear.plain (clear'.above _ above) nonempty ordinary)
    (fun a => { a with mode := (a.mode &&& FileTree.SET_ID) ||| 0o750 })
    (fun a => { a with mode := 0o750 }) _ (by rw [changed, Function.update_self])
  refine ⟨u, w, owned, moded, ?_⟩
  rw [changed', changed, Function.update_idem]
  rfl

theorem ensurePrivateDirectory_made (DESTDIR : Route) (t : FileTree)
    (canonical : Canonical t DESTDIR) (manageable : Manageable DESTDIR t.look) :
    ∃ u, ensurePrivateDirectory DESTDIR (CONFIG_DIR DESTDIR) FILE_GROUP t = .ok () u ∧
      Harmless DESTDIR t u ∧ ∃ mid : Route → Option View, Deepened (CONFIG_DIR DESTDIR) t.look mid ∧
        ∃ a, mid (CONFIG_DIR DESTDIR) = some (.directory a) ∧
          u.look = Function.update mid (CONFIG_DIR DESTDIR)
            (some (.directory ⟨"root", "root", privateMode a.mode⟩)) := by
  have directory := private_managed DESTDIR
  obtain ⟨r, chain, harmless, deepened⟩ := createDirectoryChain_made DESTDIR (CONFIG_DIR DESTDIR)
    "configuration directory" t canonical manageable directory
  have clear := manageable_clear DESTDIR _ r.look harmless.manageable directory
  obtain ⟨a, found⟩ := deepened.made _ List.prefix_rfl
  obtain ⟨relative, same, suffix⟩ := directory_suffix DESTDIR _ directory
  obtain ⟨nonempty, ordinary, -⟩ := directory_plain (harmless.canonical canonical) _ directory clear
  obtain ⟨u, w, owned, moded, changed⟩ := directory_secured r (CONFIG_DIR DESTDIR) nonempty ordinary
    clear a found
  have secured := harmless_directory DESTDIR r w (CONFIG_DIR DESTDIR) _
    (above_not_file DESTDIR _ _ directory List.prefix_rfl) harmless.manageable (.inr ⟨a, found⟩)
    changed
  have clear' := manageable_clear DESTDIR _ w.look secured.manageable directory
  have plain' := directory_plain ((harmless.trans secured).canonical canonical) _ directory clear'
  refine ⟨w, ?_, harmless.trans secured, r.look, deepened, a, found, changed⟩
  rw [same] at plain' changed
  obtain ⟨no_link, -, resolved⟩ := directory_passes w DESTDIR relative _ suffix plain'
    (by rw [changed, Function.update_self])
  rw [← same] at no_link resolved
  rw [ensurePrivateDirectory, bind_ok _ _ t r () chain, bind_ok _ _ r u () (execute_ok _ _ r u owned),
    bind_ok _ _ u w () (execute_ok _ _ u w moded), bind_ok _ _ w w () (no_link _)]
  exact resolved

theorem ensureDirectories_made (DESTDIR : Route) (t : FileTree) (canonical : Canonical t DESTDIR)
    (manageable : Manageable DESTDIR t.look) :
    ∃ u, ensureDirectories DESTDIR t = .ok () u ∧ Harmless DESTDIR t u ∧
      DirectoriesMade DESTDIR t.look u.look := by
  obtain ⟨r, ran₁, harmless₁, binaries⟩ := createDirectoryChain_made DESTDIR (BIN_DIR DESTDIR)
    "installation directory" t canonical manageable (by simp [managedDirectories])
  obtain ⟨u, ran₂, harmless₂, units⟩ := createDirectoryChain_made DESTDIR (UNIT_DIR DESTDIR)
    "installation directory" r (harmless₁.canonical canonical) harmless₁.manageable
    (by simp [managedDirectories])
  have harmless := harmless₁.trans harmless₂
  obtain ⟨w, ran₃, harmless₃, mid, deepened, a, found, changed⟩ := ensurePrivateDirectory_made DESTDIR
    u (harmless.canonical canonical) harmless.manageable
  refine ⟨w, ?_, harmless.trans harmless₃, ?_⟩
  · rw [ensureDirectories, ensurePublicDirectory, ensurePublicDirectory, bind_ok _ _ t r () ran₁,
      bind_ok _ _ r u () ran₂]
    exact ran₃
  · have last (place : Route) : (∃ b, mid place = some (.directory b)) →
        ∃ b, w.look place = some (.directory b) := by
      rintro ⟨b, seen⟩
      rw [changed]
      by_cases here : place = CONFIG_DIR DESTDIR
      · rw [here, Function.update_self]
        exact ⟨_, rfl⟩
      · rw [Function.update_of_ne here]
        exact ⟨b, seen⟩
    refine ⟨?_, ⟨a, ?_, ?_⟩, ?_⟩
    · intro dir directory place above
      apply last
      simp only [managedDirectories, List.mem_cons, List.not_mem_nil, or_false] at directory
      rcases directory with rfl | rfl | rfl
      · obtain ⟨b, made⟩ := binaries.made place above
        exact ⟨b, deepened.directory (units.directory made)⟩
      · obtain ⟨b, made⟩ := units.made place above
        exact ⟨b, deepened.directory made⟩
      · exact deepened.made place above
    · rcases manageable_clear DESTDIR _ t.look manageable (private_managed DESTDIR) _
        List.prefix_rfl with gone | ⟨b, before⟩
      · exact .inl gone
      · right
        have after := deepened.directory (units.directory (binaries.directory before))
        rw [before, ← found, after]
    · rw [changed, Function.update_self]
    · intro place not_private present
      have kept₁ := binaries.kept place (fun missing =>
        present ⟨missing.1, _, by simp [managedDirectories], missing.2⟩)
      have kept₂ := units.kept place (fun missing =>
        present ⟨kept₁ ▸ missing.1, _, by simp [managedDirectories], missing.2⟩)
      have kept₃ := deepened.kept place (fun missing =>
        present ⟨kept₁ ▸ kept₂ ▸ missing.1, _, by simp [managedDirectories], missing.2⟩)
      rw [changed, Function.update_of_ne not_private, kept₃, kept₂, kept₁]

end RpiHealth
