import RpiHealth.Scripts.Installed

/-! `scripts/uninstall.sh`, and what it is for. -/
namespace RpiHealth

open Files Script

/-- What `systemctl` answers. A state that is read has lost the newlines at its end. What the
manager itself does to the tree is not the script's. -/
structure Manager where
  SYSTEMCTL : Option String
  executable : String → Bool
  disable : Bool
  loadState : Option String
  activeState : Option String
  daemonReload : Bool

def resolveSystemctl (host : Host) (manager : Manager) (SYSTEMCTL : String) : Script Unit :=
  if '/' ∈ SYSTEMCTL.toList then
    demand ("SYSTEMCTL is not executable: " ++ SYSTEMCTL) (fun _ => manager.executable SYSTEMCTL)
  else
    demand ("systemctl executable not found: " ++ SYSTEMCTL) (fun _ => host.command SYSTEMCTL)

/-- The load state chooses between two warnings, but has to be read. -/
def stopAndDisableService (manager : Manager) : Script Unit :=
  if manager.disable then pure ()
  else do
    let _ ← capture "systemd could not verify the unit load state after stop failure"
      (fun _ => manager.loadState)
    let active_state ← capture "systemd could not verify the unit active state after stop failure"
      (fun _ => manager.activeState)
    demand "systemd did not verify an inactive service; managed files were preserved"
      (fun _ => active_state == "inactive")

def stopService (host : Host) (manager : Manager) (DESTDIR : Route) : Script Unit :=
  if DESTDIR.isEmpty then do
    let SYSTEMCTL := manager.SYSTEMCTL.getD "systemctl"
    demand "SYSTEMCTL must not be empty" (fun _ => !SYSTEMCTL.isEmpty)
    resolveSystemctl host manager SYSTEMCTL
    stopAndDisableService manager
  else pure ()

def removePresent (removal_path : Route) : Script Unit := do
  if ← inquire (fun t => t.isPresent removal_path) then
    execute "rm" (fun t => t.rm removal_path)

def removeManagedFile (DESTDIR removal_path : Route) (removal_description : String) :
    Script Unit := do
  validateManagedFile DESTDIR removal_path removal_description
  removePresent removal_path
  demand (removal_description ++ " was not removed: " ++ shown removal_path)
    (fun t => !(t.isPresent removal_path || t.isSymlink removal_path))

def uninstallChecks (host : Host) (DESTDIR : Route) : List (Script Unit) :=
  [ requireCommand host "dirname",
    requireCommand host "stat",
    requireCommand host "rm",
    if DESTDIR.isEmpty then pure () else requireCommand host "readlink",
    validateManagedFile DESTDIR (DESTINATION_BINARY DESTDIR) "installed binary",
    validateManagedFile DESTDIR (DESTINATION_UNIT DESTDIR) "installed systemd unit",
    validateDirectoryChain DESTDIR (CONFIG_DIR DESTDIR) "configuration directory",
    validateManagedFile DESTDIR (CONFIG_FILE DESTDIR) "configuration file",
    validateManagedFile DESTDIR (PASSWORD_FILE DESTDIR) "password file"]

def reloadManager (manager : Manager) (DESTDIR : Route) : Script Unit :=
  if DESTDIR.isEmpty then
    execute "systemctl" (fun t => if manager.daemonReload then some t else none)
  else pure ()

/-- A directory that is not empty is kept, with a warning. -/
def removeEmptyDirectory (DESTDIR : Route) : Script Unit := do
  if ← inquire (fun t => t.isDirectory (CONFIG_DIR DESTDIR)) then
    attempt (fun t => t.rmdir (CONFIG_DIR DESTDIR))

def purgeConfiguration (DESTDIR : Route) : Script Unit := do
  removeManagedFile DESTDIR (CONFIG_FILE DESTDIR) "configuration file"
  removeManagedFile DESTDIR (PASSWORD_FILE DESTDIR) "password file"
  removeEmptyDirectory DESTDIR

/-- Everything after the last question. -/
def removeInstalled (manager : Manager) (PURGE_CONFIG : Bool) (DESTDIR : Route) : Script Unit := do
  removeManagedFile DESTDIR (DESTINATION_BINARY DESTDIR) "installed binary"
  removeManagedFile DESTDIR (DESTINATION_UNIT DESTDIR) "installed systemd unit"
  reloadManager manager DESTDIR
  if PURGE_CONFIG then purgeConfiguration DESTDIR

def uninstall (host : Host) (manager : Manager) (PURGE_CONFIG : Bool)
    (raw_destdir : Option RawDestdir) : Script Unit := do
  demand "this uninstaller must run as root" (fun _ => host.superuser)
  let DESTDIR ← stagingRoot raw_destdir
  inOrder (uninstallChecks host DESTDIR)
  stopService host manager DESTDIR
  removeInstalled manager PURGE_CONFIG DESTDIR

/-- The binary and the unit are gone, with `--purge-config` the configuration and the password
too, and the configuration directory if nothing is left in it. Nothing else has changed. -/
structure Uninstalled (DESTDIR : Route) (PURGE_CONFIG : Bool)
    (before after : Route → Option View) : Prop where
  binary : after (DESTINATION_BINARY DESTDIR) = none
  unit : after (DESTINATION_UNIT DESTDIR) = none
  configuration : after (CONFIG_FILE DESTDIR) =
    if PURGE_CONFIG then none else before (CONFIG_FILE DESTDIR)
  password : after (PASSWORD_FILE DESTDIR) =
    if PURGE_CONFIG then none else before (PASSWORD_FILE DESTDIR)
  directory_removed : PURGE_CONFIG = true →
    (∀ name, after (CONFIG_DIR DESTDIR ++ [name]) = none) → after (CONFIG_DIR DESTDIR) = none
  directory_kept : ¬ (PURGE_CONFIG = true ∧ ∀ name, after (CONFIG_DIR DESTDIR ++ [name]) = none) →
    after (CONFIG_DIR DESTDIR) = before (CONFIG_DIR DESTDIR)
  kept : ∀ place, place ∉ managedFiles DESTDIR → place ≠ CONFIG_DIR DESTDIR →
    after place = before place

/-- A managed file was missing before the install and is gone after the purge. -/
theorem uninstall_restores (DESTDIR : Route) (binary unit sample : List UInt8)
    (before mid after : Route → Option View)
    (absent : ∀ file ∈ managedFiles DESTDIR, before file = none)
    (clear : before (CONFIG_DIR DESTDIR) = none ∨
      ∃ a, before (CONFIG_DIR DESTDIR) = some (.directory a))
    (installed : Installed DESTDIR binary unit sample before mid)
    (uninstalled : Uninstalled DESTDIR true mid after) (place : Route) (seen : View)
    (no_directory : seen.kind ≠ .directory) :
    after place = some seen ↔ before place = some seen := by
  have not_seen {view : Route → Option View} {q : Route}
      (shape : view q = none ∨ ∃ a, view q = some (.directory a)) : view q ≠ some seen := by
    rintro found
    rcases shape with gone | ⟨a, directory⟩
    · rw [gone] at found
      cases found
    · rw [directory] at found
      cases found
      exact no_directory rfl
  by_cases managed : place ∈ managedFiles DESTDIR
  · have gone : after place = none := by
      simp only [managedFiles, List.mem_cons, List.not_mem_nil, or_false] at managed
      rcases managed with rfl | rfl | rfl | rfl
      · exact uninstalled.binary
      · exact uninstalled.unit
      · exact uninstalled.configuration
      · exact uninstalled.password
    rw [gone, absent place managed]
  · by_cases here : place = CONFIG_DIR DESTDIR
    · subst here
      obtain ⟨a, -, made⟩ := installed.private_directory
      refine iff_of_false (not_seen ?_) (not_seen clear)
      by_cases empty : ∀ name, after (CONFIG_DIR DESTDIR ++ [name]) = none
      · exact .inl (uninstalled.directory_removed rfl empty)
      · exact .inr ⟨_, (uninstalled.directory_kept (fun both => empty both.2)).trans made⟩
    · rw [uninstalled.kept place managed here]
      by_cases missing : Missing DESTDIR before place
      · obtain ⟨gone, dir, directory, above⟩ := missing
        exact iff_of_false (not_seen (.inr (installed.made dir directory place above)))
          (not_seen (.inl gone))
      · rw [installed.kept place managed here missing]

end RpiHealth
