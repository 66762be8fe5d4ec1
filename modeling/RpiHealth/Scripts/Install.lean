import RpiHealth.Scripts.Shared

/-! `scripts/install.sh` with `DESTDIR` set. The accounts, the platform and systemd are asked
about in a live run only. -/
namespace RpiHealth

open Files Script

/-- What the commands that only answer print, and the regular expressions of `grep -Eq`. -/
structure Tools where
  /-- `file -b` does not follow a link. -/
  fileOfLink : Bool → Route → Option String
  file : List UInt8 → Option String
  readelfHeader : List UInt8 → Option String
  readelfAttributes : List UInt8 → Option String
  grep : String → String → Bool

/-- What the installer is started with. -/
structure Invocation where
  SOURCE_BINARY : Route
  PROJECT_ROOT : Route

def Invocation.SOURCE_CONFIG (sources : Invocation) : Route :=
  sources.PROJECT_ROOT ++ ["config", "config.example.toml"]

def Invocation.SOURCE_UNIT (sources : Invocation) : Route :=
  sources.PROJECT_ROOT ++ ["systemd", SERVICE_NAME]

def Tools.fileOf (tools : Tools) (path : Route) (t : FileTree) : Option String :=
  match t.lstat path with
  | some (.symlink absolute target) => tools.fileOfLink absolute target
  | _ => (t.contentOf path).bind tools.file

def pathExists (path : Route) (t : FileTree) : Bool := t.isPresent path || t.isSymlink path

/-- `install -d`, unless something is there. -/
def installMissing (not_directory : String) (create_current : Route) : Script Unit := do
  if ← inquire (fun t => t.isPresent create_current) then
    demand not_directory (fun t => t.isDirectory create_current)
  else
    execute "install" (fun t => t.installDirectory ⟨"root", "root", 0o755⟩ create_current)

def createComponents (DESTDIR : Route) (create_description : String) :
    Route → Route → Script Unit
  | _, [] => pure ()
  | create_current, create_component :: rest => do
    let create_current := create_current ++ [create_component]
    let not_directory := create_description ++ " component is not a directory: "
      ++ shown create_current
    rejectSymlink create_current (create_description ++ " component")
    installMissing not_directory create_current
    rejectSymlink create_current (create_description ++ " component")
    demand not_directory (fun t => t.isDirectory create_current)
    assertResolvedUnderStage DESTDIR create_current
    createComponents DESTDIR create_description create_current rest

def createDirectoryChain (DESTDIR create_target : Route) (create_description : String) :
    Script Unit := do
  validateDirectoryChain DESTDIR create_target create_description
  createComponents DESTDIR create_description DESTDIR (create_target.drop DESTDIR.length)

def ensurePublicDirectory (DESTDIR path : Route) : Script Unit :=
  createDirectoryChain DESTDIR path "installation directory"

def ensurePrivateDirectory (DESTDIR private_path : Route) (private_owner_group : String) :
    Script Unit := do
  createDirectoryChain DESTDIR private_path "configuration directory"
  execute "chown" (fun t => t.chown "root" private_owner_group private_path)
  execute "chmod" (fun t => t.chmod 0o750 private_path)
  rejectSymlink private_path "configuration directory"
  assertResolvedUnderStage DESTDIR private_path

def secureExistingFile (DESTDIR secure_path : Route) (secure_owner_group : String)
    (secure_description : String) : Script Unit := do
  validateManagedFile DESTDIR secure_path secure_description
  demand (secure_description ++ " disappeared during installation: " ++ shown secure_path)
    (fun t => t.isPresent secure_path)
  execute "chown" (fun t => t.chown "root" secure_owner_group secure_path)
  execute "chmod" (fun t => t.chmod 0o640 secure_path)
  validateManagedFile DESTDIR secure_path secure_description

def installManagedFile (DESTDIR managed_source managed_destination : Route)
    (managed_owner_group : String) (managed_mode : Nat) (managed_install_description : String) :
    Script Unit := do
  validateManagedFile DESTDIR managed_destination managed_install_description
  execute "install" (fun t => t.install ⟨"root", managed_owner_group, managed_mode⟩ managed_source
    managed_destination)
  validateManagedFile DESTDIR managed_destination managed_install_description

def validateArmv7Binary (host : Host) (tools : Tools) (SOURCE_BINARY : Route) : Script Unit := do
  requireCommand host "file"
  requireCommand host "readelf"
  requireCommand host "grep"
  let file_description ← capture "binary type could not be identified" (tools.fileOf SOURCE_BINARY)
  demand "binary is not an ARM EABI5 ELF32 executable"
    (fun _ => tools.grep "ELF 32-bit LSB.*ARM.*EABI5" file_description)
  let elf_header ← capture "binary is not a readable ELF executable"
    (fun t => (t.contentOf SOURCE_BINARY).bind tools.readelfHeader)
  demand "binary is not an ELF32 executable"
    (fun _ => tools.grep "Class:[[:space:]]+ELF32" elf_header)
  demand "binary is not little-endian" (fun _ => tools.grep "Data:.*little endian" elf_header)
  demand "binary does not target ARM" (fun _ => tools.grep "Machine:[[:space:]]+ARM" elf_header)
  demand "binary does not use the ARM hard-float ABI"
    (fun _ => tools.grep "Flags:.*hard-float ABI" elf_header)
  let elf_attributes ← capture "binary ARM attributes could not be read"
    (fun t => (t.contentOf SOURCE_BINARY).bind tools.readelfAttributes)
  demand "binary does not target the ARMv7 architecture"
    (fun _ => tools.grep "Tag_CPU_arch:[[:space:]]+v7([^0-9]|$)" elf_attributes)
  demand "binary does not declare VFP register arguments"
    (fun _ => tools.grep "Tag_ABI_VFP_args:[[:space:]]+VFP registers" elf_attributes)

/-- The superuser can read whatever is a regular file. -/
def requireSource (message : String) (path : Route) : Script Unit :=
  demand (message ++ shown path) (fun t => t.isRegular path)

/-- Everything the installer asks before it changes anything. -/
def installChecks (host : Host) (tools : Tools) (sources : Invocation) (DESTDIR : Route) :
    List (Script Unit) :=
  [ requireCommand host "install",
    requireCommand host "chown",
    requireCommand host "chmod",
    requireCommand host "stat",
    requireCommand host "dirname",
    requireCommand host "readlink",
    requireSource "binary is not a readable regular file: " sources.SOURCE_BINARY,
    requireSource "example configuration not found: " sources.SOURCE_CONFIG,
    requireSource "systemd unit not found: " sources.SOURCE_UNIT,
    validateDirectoryChain DESTDIR (BIN_DIR DESTDIR) "binary installation directory",
    validateDirectoryChain DESTDIR (CONFIG_DIR DESTDIR) "configuration directory",
    validateDirectoryChain DESTDIR (UNIT_DIR DESTDIR) "systemd unit directory",
    validateManagedFile DESTDIR (DESTINATION_BINARY DESTDIR) "installed binary",
    validateManagedFile DESTDIR (DESTINATION_UNIT DESTDIR) "installed systemd unit",
    validateManagedFile DESTDIR (CONFIG_FILE DESTDIR) "configuration file",
    validateManagedFile DESTDIR (PASSWORD_FILE DESTDIR) "password file",
    validateArmv7Binary host tools sources.SOURCE_BINARY]

def FILE_GROUP : String := "root"

def ensureDirectories (DESTDIR : Route) : Script Unit := do
  ensurePublicDirectory DESTDIR (BIN_DIR DESTDIR)
  ensurePublicDirectory DESTDIR (UNIT_DIR DESTDIR)
  ensurePrivateDirectory DESTDIR (CONFIG_DIR DESTDIR) FILE_GROUP

def installConfiguration (sources : Invocation) (DESTDIR : Route) : Script Unit := do
  if !(← inquire (pathExists (CONFIG_FILE DESTDIR))) then
    installManagedFile DESTDIR sources.SOURCE_CONFIG (CONFIG_FILE DESTDIR) FILE_GROUP 0o640
      "configuration file"
  else
    secureExistingFile DESTDIR (CONFIG_FILE DESTDIR) FILE_GROUP "configuration file"

def securePassword (DESTDIR : Route) : Script Unit := do
  if ← inquire (pathExists (PASSWORD_FILE DESTDIR)) then
    secureExistingFile DESTDIR (PASSWORD_FILE DESTDIR) FILE_GROUP "password file"

def installFiles (sources : Invocation) (DESTDIR : Route) : Script Unit := do
  installManagedFile DESTDIR sources.SOURCE_BINARY (DESTINATION_BINARY DESTDIR) "root" 0o755
    "installed binary"
  installManagedFile DESTDIR sources.SOURCE_UNIT (DESTINATION_UNIT DESTDIR) "root" 0o644
    "installed systemd unit"
  installConfiguration sources DESTDIR
  securePassword DESTDIR

def stagedInstall (host : Host) (tools : Tools) (sources : Invocation) (raw_destdir : RawDestdir) :
    Script Unit := do
  demand "this installer must run as root" (fun _ => host.superuser)
  let DESTDIR ← stagingRoot (some raw_destdir)
  inOrder (installChecks host tools sources DESTDIR)
  ensureDirectories DESTDIR
  installFiles sources DESTDIR

end RpiHealth
