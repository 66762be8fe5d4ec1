import RpiHealth.Metrics.Cpu

/-! Device and operating system metadata: the texts of the files that hold it. -/
namespace RpiHealth

def OS_RELEASE : String := "/etc/os-release"

structure CpuInfoMetadata where
  revision : Option String := none
  serial : Option String := none
  deriving DecidableEq, Repr

structure OsRelease where
  prettyName : Option String := none
  name : Option String := none
  version : Option String := none
  versionId : Option String := none
  id : Option String := none
  deriving DecidableEq, Repr

def cpuinfoLine (metadata : CpuInfoMetadata) (line : String) : CpuInfoMetadata :=
  match Text.splitOnce ':' line with
  | none => metadata
  | some (rawKey, rawValue) =>
    let value := Text.trim rawValue
    if value = "" then metadata
    else if Text.trim rawKey = "Revision" ∧ metadata.revision = none then
      { metadata with revision := some value }
    else if Text.trim rawKey = "Serial" ∧ metadata.serial = none then
      { metadata with serial := some value }
    else metadata

/-- The first `Revision` and the first `Serial` that are not empty. -/
def parseCpuinfo (input : String) : CpuInfoMetadata :=
  (Text.lines input).foldl cpuinfoLine {}

def validKey (key : String) : Bool :=
  key != "" && key.toList.all (fun c =>
    let n := c.toNat
    (65 ≤ n && n ≤ 90) || (48 ≤ n && n ≤ 57) || c == '_')

def lineError (lineNumber : Nat) (fault : String) : ParseError :=
  ⟨OS_RELEASE, "line " ++ toString lineNumber ++ fault⟩

/-- A backslash takes the next character as it is. -/
def unescape (lineNumber : Nat) : List Char → Except ParseError (List Char)
  | [] => .ok []
  | '\\' :: [] => .error (lineError lineNumber " ends with an incomplete escape")
  | '\\' :: escaped :: rest => (unescape lineNumber rest).map (fun output => escaped :: output)
  | c :: rest => (unescape lineNumber rest).map (fun output => c :: output)

/-- The quotation marks are single bytes, which no other character contains. -/
def parseAssignmentValue (raw : String) (lineNumber : Nat) : Except ParseError String :=
  match (Text.trim raw).toList with
  | [] => .ok ""
  | first :: rest =>
    if first = '\x27' ∨ first = '"' then do
      ensure (rest ≠ [] ∧ rest.getLast? = some first)
        (lineError lineNumber " has an unterminated quoted value")
      if first = '\x27' then return String.ofList rest.dropLast
      (unescape lineNumber rest.dropLast).map String.ofList
    else (unescape lineNumber (first :: rest)).map String.ofList

def OsRelease.assign (release : OsRelease) (key value : String) : OsRelease :=
  if key = "PRETTY_NAME" then { release with prettyName := some value }
  else if key = "NAME" then { release with name := some value }
  else if key = "VERSION" then { release with version := some value }
  else if key = "VERSION_ID" then { release with versionId := some value }
  else if key = "ID" then { release with id := some value }
  else release

def osReleaseLine (release : OsRelease) (lineNumber : Nat) (line : String) :
    Except ParseError OsRelease :=
  let line := Text.trim line
  if line = "" ∨ Text.startsWith '#' line then .ok release
  else do
    let (key, rawValue) ← okOr (Text.splitOnce '=' line)
      (lineError lineNumber " is not an assignment")
    ensure (validKey key) (lineError lineNumber " has an invalid key")
    let value ← parseAssignmentValue rawValue lineNumber
    return release.assign key value

def osReleaseLines (release : OsRelease) (lineIndex : Nat) :
    List String → Except ParseError OsRelease
  | [] => .ok release
  | line :: rest => do
    let next ← osReleaseLine release (lineIndex + 1) line
    osReleaseLines next (lineIndex + 1) rest

def parseOsRelease (input : String) : Except ParseError OsRelease :=
  osReleaseLines {} 0 (Text.lines input)

def nonEmpty (value : String) : Option String := if value ≠ "" then some value else none

def isDeviceTreePadding (c : Char) : Bool :=
  c.toNat == 0 || c == ' ' || c == '\t' || c == '\r' || c == '\n'

def parseDeviceTreeModel (input : ByteArray) : Option String :=
  (String.fromUTF8? input).bind (fun text =>
    nonEmpty (String.ofList
      ((text.toList.dropWhile isDeviceTreePadding).rdropWhile isDeviceTreePadding)))

def parseHostname (input : String) : Option String :=
  (Text.lines input).findSome? (fun line => nonEmpty (Text.trim line))

end RpiHealth
