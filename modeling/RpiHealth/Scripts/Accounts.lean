import Mathlib.Data.List.DropRight
import RpiHealth.Library.Printing
import RpiHealth.Library.Shell
import RpiHealth.Scripts.Shared

/-! The service's account, as `scripts/install.sh` makes or finds it in a live run. Whatever
the account databases and the commands do, an account that was not found to be a plain
system account of its own is not taken. -/
namespace RpiHealth
open Files Shell

def SERVICE_USER : String := PROJECT_NAME
def SERVICE_GROUP : String := PROJECT_NAME

structure GroupEntry where
  name : String
  gid : UInt32
  members : List String
  deriving DecidableEq, Repr

structure UserEntry where
  name : String
  uid : UInt32
  gid : UInt32
  home : String
  shell : String
  deriving DecidableEq, Repr

/-- What `getent` and `id -nG` answer. A lookup that succeeds may print any number of
entries, and others than the one that was asked for. -/
structure NameService where
  group : String → Option (List GroupEntry)
  groups : List GroupEntry
  passwd : String → Option (List UserEntry)
  users : List UserEntry
  groupNames : String → Option (List String)

/-- The part of the machine that accounts are made with. -/
structure AdminHost (S : Type) where
  command : String → Bool
  executable : String → Bool
  /-- `/etc/login.defs`, where it can be read. -/
  loginDefs : Option String
  answers : S → NameService
  groupadd : String → S → Option S
  /-- `useradd` with the service's options, its shell left open. -/
  useradd : String → S → Option S

section Lookup

variable {E : Type} (nameOf : E → String) (lookup : String → Option (List E))

def accountEntry (account_name : String) : Except String (Option E) :=
  match lookup account_name with
  | none => .ok none
  | some [entry] =>
    if nameOf entry = account_name then .ok (some entry)
    else .error ("account lookup returned an unexpected name for " ++ account_name)
  | some [] => .error ("account lookup returned an unexpected name for " ++ account_name)
  | some (_ :: _ :: _) =>
    .error ("account lookup returned multiple entries for " ++ account_name)

end Lookup

namespace NameService

variable (ns : NameService)

def groupEntry (name : String) : Except String (Option GroupEntry) :=
  accountEntry GroupEntry.name ns.group name

def userEntry (name : String) : Except String (Option UserEntry) :=
  accountEntry UserEntry.name ns.passwd name

end NameService

def isBlank (c : Char) : Bool := c = ' ' || c = '\t'

/-- The fields of a line, as `awk` takes them apart. -/
def awkFields (line : List Char) : List String :=
  (Text.wordsByFrom isBlank [] line).map String.ofList

/-- The value that a line of `/etc/login.defs` gives a setting. -/
def settingOf (setting : String) (line : List Char) : Option Nat :=
  match awkFields line with
  | name :: value :: _ => if name = setting then Text.digits 10 value.toList else none
  | _ => none

def systemIdMax (loginDefs : Option String) (setting : String) : Nat :=
  ((loginDefs.bind (fun text => (text.toList.splitOn '\n').findSome? (settingOf setting)))).getD 999

/-- `test -gt`, which fails on numbers that it cannot hold. -/
def testGt (a b : Nat) : Bool := decide (a < 2 ^ 63 ∧ b < 2 ^ 63 ∧ b < a)

def unprivileged (id : UInt32) (maximum : Nat) : Bool :=
  !(decide (id.toNat ≤ 0) || testGt id.toNat maximum)

/-- The lines that a command substitution leaves: the empty ones at the end go. -/
def captured (lines : List String) : List String := lines.rdropWhile (fun line => line = "")

def NOLOGIN_SHELLS : List String := ["/usr/sbin/nologin", "/sbin/nologin", "/bin/false"]

namespace AdminHost

variable {S : Type} (host : AdminHost S)

def systemGidMax : Nat := systemIdMax host.loginDefs "SYS_GID_MAX"
def systemUidMax : Nat := systemIdMax host.loginDefs "SYS_UID_MAX"

/-- The group's number, for the user. -/
def validateServiceGroup (ns : NameService) : Except String UInt32 := do
  let entry ← okOr (← ns.groupEntry SERVICE_GROUP)
    ("service group does not exist: " ++ SERVICE_GROUP)
  ensure (unprivileged entry.gid host.systemGidMax)
    "service group is not an unprivileged system group"
  ensure (entry.members = []) "service group has unexpected explicit members"
  ensure (captured ((ns.groups.filter (fun other => other.gid = entry.gid)).map GroupEntry.name) =
    [SERVICE_GROUP]) "service group ID is shared with another group"
  return entry.gid

def validateServiceUser (SERVICE_GROUP_GID : UInt32) (ns : NameService) : Except String Unit := do
  let entry ← okOr (← ns.userEntry SERVICE_USER) ("service user does not exist: " ++ SERVICE_USER)
  ensure (unprivileged entry.uid host.systemUidMax)
    "service user is not an unprivileged system account"
  ensure (captured ((ns.users.filter (fun other => other.uid = entry.uid)).map UserEntry.name) =
    [SERVICE_USER]) "service user ID is shared with another account"
  ensure (entry.gid = SERVICE_GROUP_GID) "service user has an unexpected primary group"
  ensure (entry.home = "/nonexistent") "service user has an unexpected home directory"
  ensure (entry.shell ∈ NOLOGIN_SHELLS) "service user has an interactive or unexpected shell"
  ensure (host.executable entry.shell) "service user's non-login shell is not executable"
  let group_names ← okOr (ns.groupNames SERVICE_USER)
    "service user's supplementary groups could not be read"
  ensure (∀ name ∈ group_names, name = SERVICE_GROUP ∨ name = "video")
    "service user has an unexpected supplementary group"
  ensure (SERVICE_GROUP ∈ group_names) "service user is missing its primary service group"
  ensure ("video" ∈ group_names) "service user is missing the video group"

def findNologinShell : Option String := NOLOGIN_SHELLS.find? host.executable

def requireCommands : Except String Unit :=
  ["getent", "groupadd", "useradd", "id", "awk"].forM (fun name =>
    ensure (host.command name) ("required command not found: " ++ name))

/-- An account that exists is only looked at. -/
def adoptServiceUser (group : Option UInt32) : Steps S Unit :=
  judge (fun s => do
    let gid ← okOr group "service user exists without the dedicated service group"
    let _ ← okOr (← (host.answers s).groupEntry "video")
      "video group is missing for the existing service user"
    host.validateServiceUser gid (host.answers s))

def createGroup (name : String) : Steps S Unit := do
  let entry ← judge (fun s => (host.answers s).groupEntry name)
  if entry.isNone then act "groupadd" (host.groupadd name) else pure ()

def createServiceGroup (group : Option UInt32) : Steps S Unit :=
  if group.isNone then act "groupadd" (host.groupadd SERVICE_GROUP) else pure ()

def createServiceUser (group : Option UInt32) : Steps S Unit := do
  host.createServiceGroup group
  host.createGroup "video"
  let shell ← judge (fun _ => okOr host.findNologinShell "no non-login shell was found")
  act "useradd" (host.useradd shell)
  judge (fun s => do
    let gid ← host.validateServiceGroup (host.answers s)
    host.validateServiceUser gid (host.answers s))

/-- The number of a service group that exists and is in order. -/
def existingGroup (ns : NameService) : Except String (Option UInt32) := do
  let entry ← ns.groupEntry SERVICE_GROUP
  if entry.isSome then return some (← host.validateServiceGroup ns) else return none

def ensureServiceAccount : Steps S Unit := do
  judge (fun _ => host.requireCommands)
  let group ← judge (fun s => host.existingGroup (host.answers s))
  let user ← judge (fun s => (host.answers s).userEntry SERVICE_USER)
  if user.isSome then host.adoptServiceUser group else host.createServiceUser group

end AdminHost

theorem accountEntry_missing {E : Type} (nameOf : E → String) (lookup : String → Option (List E))
    (name : String) : accountEntry nameOf lookup name = .ok none ↔ lookup name = none := by
  unfold accountEntry
  split
  · rename_i missing
    simp [missing]
  · rename_i entry only
    split <;> simp [only]
  · rename_i empty
    simp [empty]
  · rename_i several
    simp [several]

theorem accountEntry_found {E : Type} (nameOf : E → String) (lookup : String → Option (List E))
    (name : String) (entry : E) : accountEntry nameOf lookup name = .ok (some entry) ↔
      lookup name = some [entry] ∧ nameOf entry = name := by
  unfold accountEntry
  split
  · rename_i missing
    simp [missing]
  · rename_i other only
    rw [only]
    simp only [Option.some.injEq, List.cons.injEq, and_true]
    split
    · rename_i named
      simp only [Except.ok.injEq, Option.some.injEq]
      exact ⟨fun same => ⟨same, same ▸ named⟩, fun both => both.1⟩
    · rename_i unnamed
      simp only [reduceCtorEq, false_iff, not_and]
      intro same named
      exact unnamed (same ▸ named)
  · rename_i empty
    simp [empty]
  · rename_i several
    simp [several]

theorem unprivileged_iff (id : UInt32) (maximum : Nat) : unprivileged id maximum = true ↔
    0 < id.toNat ∧ (maximum < 2 ^ 63 → id.toNat ≤ maximum) := by
  have small : id.toNat < 2 ^ 32 := id.toNat_lt
  simp only [unprivileged, testGt, Bool.not_eq_true', Bool.or_eq_false_iff, decide_eq_false_iff_not]
  omega

/-- Empty lines behind the only other one are all that can be missed. -/
theorem captured_eq_singleton (lines : List String) (line : String) (filled : line ≠ "") :
    captured lines = [line] ↔ ∃ blanks, lines = line :: List.replicate blanks "" := by
  constructor
  · intro only
    refine ⟨(lines.rtakeWhile (fun line => line = "")).length, ?_⟩
    have blank : ∀ l ∈ lines.rtakeWhile (fun line => line = ""), l = "" := by
      intro l member
      simpa using List.mem_rtakeWhile_imp member
    rw [← List.eq_replicate_of_mem blank]
    calc lines = captured lines ++ lines.rtakeWhile (fun line => line = "") :=
          List.rdropWhile_append_rtakeWhile.symm
      _ = line :: lines.rtakeWhile (fun line => line = "") := by rw [only]; rfl
  · rintro ⟨blanks, rfl⟩
    induction blanks with
    | zero => simp [captured, List.rdropWhile_singleton, filled]
    | succ n ih =>
      rw [List.replicate_succ', ← List.cons_append, captured,
        List.rdropWhile_concat_pos _ _ _ (by simp)]
      exact ih

section Established

variable {S : Type} (host : AdminHost S) (ns : NameService)

/-- The service's group: a system group that nobody was added to and that shares its number
with no other name. -/
structure ServiceGroup (group : GroupEntry) : Prop where
  found : ns.group SERVICE_GROUP = some [group]
  named : group.name = SERVICE_GROUP
  privileges : 0 < group.gid.toNat ∧
    (host.systemGidMax < 2 ^ 63 → group.gid.toNat ≤ host.systemGidMax)
  deserted : group.members = []
  alone : ∃ nameless, (ns.groups.filter (fun other => other.gid = group.gid)).map GroupEntry.name =
    SERVICE_GROUP :: List.replicate nameless ""

/-- The service's user: a system account of its own, without a home or a shell to log in
with, and in no group but its own and the one that may ask the firmware. -/
structure ServiceUser (gid : UInt32) (user : UserEntry) : Prop where
  found : ns.passwd SERVICE_USER = some [user]
  named : user.name = SERVICE_USER
  privileges : 0 < user.uid.toNat ∧
    (host.systemUidMax < 2 ^ 63 → user.uid.toNat ≤ host.systemUidMax)
  alone : ∃ nameless, (ns.users.filter (fun other => other.uid = user.uid)).map UserEntry.name =
    SERVICE_USER :: List.replicate nameless ""
  grouped : user.gid = gid
  homeless : user.home = "/nonexistent"
  barred : user.shell ∈ NOLOGIN_SHELLS ∧ host.executable user.shell = true
  belongs : ∃ names, ns.groupNames SERVICE_USER = some names ∧
    ∀ name, name ∈ names ↔ name = SERVICE_GROUP ∨ name = "video"

def HasVideo : Prop := ∃ entry, ns.group "video" = some [entry] ∧ entry.name = "video"

/-- A group is made where it was not found, and left alone where it was. -/
def Provided (name : String) (s u : S) : Prop :=
  if (host.answers s).group name = none then host.groupadd name s = some u else u = s

/-- The steps that lead to an account where there was none. -/
def Created (s t : S) : Prop :=
  ∃ shell ∈ NOLOGIN_SHELLS, host.executable shell = true ∧
    ∃ u v, Provided host SERVICE_GROUP s u ∧ Provided host "video" u v ∧
      host.useradd shell v = some t

theorem service_named : PROJECT_NAME ≠ "" := by decide

theorem validateServiceGroup_ok (gid : UInt32) : host.validateServiceGroup ns = .ok gid ↔
    ∃ group, ServiceGroup host ns group ∧ group.gid = gid := by
  simp only [AdminHost.validateServiceGroup, NameService.groupEntry, bind_eq_ok (accountEntry _ _ _),
    okOr_bind, ensure_bind, pure, Except.pure, Except.ok.injEq, unprivileged_iff,
    captured_eq_singleton _ SERVICE_GROUP service_named]
  constructor
  · rintro ⟨_, looked, group, rfl, privileges, deserted, alone, rfl⟩
    rw [accountEntry_found] at looked
    exact ⟨group, ⟨looked.1, looked.2, privileges, deserted, alone⟩, rfl⟩
  · rintro ⟨group, ⟨found, named, privileges, deserted, alone⟩, rfl⟩
    exact ⟨some group, (accountEntry_found _ _ _ _).mpr ⟨found, named⟩, group, rfl, privileges,
      deserted, alone, rfl⟩

theorem validateServiceUser_ok (gid : UInt32) : host.validateServiceUser gid ns = .ok () ↔
    ∃ user, ServiceUser host ns gid user := by
  simp only [AdminHost.validateServiceUser, NameService.userEntry, bind_eq_ok (accountEntry _ _ _),
    okOr_bind, ensure_bind, ensure_ok, unprivileged_iff,
    captured_eq_singleton _ SERVICE_USER service_named]
  constructor
  · rintro ⟨_, looked, user, rfl, privileges, alone, grouped, homeless, shell, runs, names, listed,
      only, own, video⟩
    rw [accountEntry_found] at looked
    refine ⟨user, looked.1, looked.2, privileges, alone, grouped, homeless, ⟨shell, runs⟩, names,
      listed, fun name => ⟨only name, ?_⟩⟩
    rintro (rfl | rfl)
    · exact own
    · exact video
  · rintro ⟨user, found, named, privileges, alone, grouped, homeless, ⟨shell, runs⟩, names, listed,
      members⟩
    exact ⟨some user, (accountEntry_found _ _ _ _).mpr ⟨found, named⟩, user, rfl, privileges, alone,
      grouped, homeless, shell, runs, names, listed, fun name => (members name).mp,
      (members _).mpr (.inl rfl), (members _).mpr (.inr rfl)⟩

theorem existingGroup_ok (group : Option UInt32) : host.existingGroup ns = .ok group ↔
    (ns.group SERVICE_GROUP = none ∧ group = none) ∨
      ∃ entry, ServiceGroup host ns entry ∧ group = some entry.gid := by
  simp only [AdminHost.existingGroup, bind_eq_ok (ns.groupEntry _)]
  constructor
  · rintro ⟨entry, looked, rest⟩
    cases entry with
    | none => exact .inl ⟨(accountEntry_missing _ _ _).mp looked, (Except.ok.inj rest).symm⟩
    | some entry =>
      obtain ⟨gid, valid, same⟩ := (bind_eq_ok _ _ _).mp rest
      obtain ⟨found, order, rfl⟩ := (validateServiceGroup_ok host ns gid).mp valid
      exact .inr ⟨found, order, (Except.ok.inj same).symm⟩
  · rintro (⟨missing, rfl⟩ | ⟨entry, order, rfl⟩)
    · exact ⟨none, (accountEntry_missing _ _ _).mpr missing, rfl⟩
    · refine ⟨some entry, (accountEntry_found _ _ _ _).mpr ⟨order.found, order.named⟩, ?_⟩
      exact (bind_eq_ok _ _ _).mpr
        ⟨entry.gid, (validateServiceGroup_ok host ns entry.gid).mpr ⟨entry, order, rfl⟩, rfl⟩

theorem adoptServiceUser_ok (group : Option UInt32) (s t : S) :
    host.adoptServiceUser group s = .ok () t ↔ t = s ∧ HasVideo (host.answers s) ∧
      ∃ gid user, group = some gid ∧ ServiceUser host (host.answers s) gid user := by
  simp only [AdminHost.adoptServiceUser, ran_judge, okOr_bind, validateServiceUser_ok,
    NameService.groupEntry, bind_eq_ok (accountEntry _ _ _)]
  constructor
  · rintro ⟨⟨gid, rfl, _, looked, video, rfl, user, order⟩, rfl⟩
    exact ⟨rfl, ⟨video, (accountEntry_found _ _ _ _).mp looked⟩, gid, user, rfl, order⟩
  · rintro ⟨rfl, ⟨video, looked⟩, gid, user, rfl, order⟩
    exact ⟨⟨gid, rfl, some video, (accountEntry_found _ _ _ _).mpr looked, video, rfl, user, order⟩,
      rfl⟩

theorem provided_ok (name : String) (wanted : Bool) (s u : S)
    (missing : wanted = true ↔ (host.answers s).group name = none)
    (done : (if wanted then act "groupadd" (host.groupadd name) else pure () : Steps S Unit) s =
      .ok () u) : Provided host name s u := by
  unfold Provided
  cases wanted with
  | true =>
    rw [if_pos (missing.mp rfl)]
    exact (ran_act _ _ () s u).mp done
  | false =>
    rw [if_neg (fun absent => Bool.noConfusion (missing.mpr absent))]
    exact ((ran_pure () () s u).mp done).2

theorem createGroup_ok (name : String) (s u : S) (done : host.createGroup name s = .ok () u) :
    Provided host name s u := by
  simp only [AdminHost.createGroup, ran_bind, ran_judge] at done
  obtain ⟨entry, _, ⟨looked, rfl⟩, done⟩ := done
  refine provided_ok host name entry.isNone _ u ?_ done
  cases entry with
  | none => simpa using (accountEntry_missing _ _ _).mp looked
  | some entry => simp [((accountEntry_found _ _ _ _).mp looked).1]

theorem createServiceGroup_ok (group : Option UInt32) (s u : S)
    (existing : host.existingGroup (host.answers s) = .ok group)
    (done : host.createServiceGroup group s = .ok () u) : Provided host SERVICE_GROUP s u := by
  refine provided_ok host SERVICE_GROUP group.isNone s u ?_ done
  rcases (existingGroup_ok host _ _).mp existing with ⟨missing, rfl⟩ | ⟨entry, found, rfl⟩
  · simpa using missing
  · simp [found.found]

theorem findNologinShell_ok (shell : String) (found : host.findNologinShell = some shell) :
    shell ∈ NOLOGIN_SHELLS ∧ host.executable shell = true :=
  ⟨List.mem_of_find?_eq_some found, List.find?_some found⟩

theorem createServiceUser_ok (group : Option UInt32) (s t : S)
    (existing : host.existingGroup (host.answers s) = .ok group)
    (done : host.createServiceUser group s = .ok () t) : Created host s t ∧
      ∃ entry user, ServiceGroup host (host.answers t) entry ∧
        ServiceUser host (host.answers t) entry.gid user := by
  simp only [AdminHost.createServiceUser, ran_bind, ran_judge, ran_act,
    bind_eq_ok (host.validateServiceGroup _), validateServiceGroup_ok, validateServiceUser_ok] at done
  obtain ⟨_, u, own, _, v, video, shell, _, ⟨chosen, rfl⟩, _, _, added, ⟨_, ⟨entry, found, rfl⟩, user,
    order⟩, rfl⟩ := done
  obtain ⟨listed, runs⟩ := findNologinShell_ok host shell ((okOr_eq_ok _ _ _).mp chosen)
  exact ⟨⟨shell, listed, runs, u, _, createServiceGroup_ok host group s u existing own,
    createGroup_ok host "video" u _ video, added⟩, entry, user, found, order⟩

theorem ensureServiceAccount_ok (s t : S) : host.ensureServiceAccount s = .ok () t ↔
    host.requireCommands = .ok () ∧ ∃ group user, host.existingGroup (host.answers s) = .ok group ∧
      (host.answers s).userEntry SERVICE_USER = .ok user ∧
      (if user.isSome then host.adoptServiceUser group else host.createServiceUser group) s =
        .ok () t := by
  simp only [AdminHost.ensureServiceAccount, ran_bind, ran_judge]
  constructor
  · rintro ⟨_, _, ⟨required, rfl⟩, group, _, ⟨existing, rfl⟩, user, _, ⟨looked, rfl⟩, done⟩
    exact ⟨required, group, user, existing, looked, done⟩
  · rintro ⟨required, group, user, existing, looked, done⟩
    exact ⟨(), s, ⟨required, rfl⟩, group, s, ⟨existing, rfl⟩, user, s, ⟨looked, rfl⟩, done⟩

/-- An account that is there is taken if and only if it is in order, and left as it is. -/
theorem ensureServiceAccount_adopts (s t : S) (users : (host.answers s).passwd SERVICE_USER ≠ none) :
    host.ensureServiceAccount s = .ok () t ↔
      host.requireCommands = .ok () ∧ t = s ∧ HasVideo (host.answers s) ∧
        ∃ group user, ServiceGroup host (host.answers s) group ∧
          ServiceUser host (host.answers s) group.gid user := by
  rw [ensureServiceAccount_ok]
  refine and_congr_right (fun _ => ?_)
  constructor
  · rintro ⟨group, user, existing, looked, done⟩
    cases user with
    | none => exact absurd ((accountEntry_missing _ _ _).mp looked) users
    | some user =>
      obtain ⟨same, video, gid, order⟩ := (adoptServiceUser_ok host group s t).mp done
      obtain ⟨owner, rfl, order⟩ := order
      rcases (existingGroup_ok host _ _).mp existing with ⟨_, none⟩ | ⟨entry, found, some⟩
      · contradiction
      · cases some
        exact ⟨same, video, entry, owner, found, order⟩
  · rintro ⟨same, video, group, user, found, order⟩
    refine ⟨some group.gid, some user, (existingGroup_ok host _ _).mpr (.inr ⟨group, found, rfl⟩),
      (accountEntry_found _ _ _ _).mpr ⟨order.found, order.named⟩, ?_⟩
    exact (adoptServiceUser_ok host _ s t).mpr ⟨same, video, group.gid, user, rfl, order⟩

/-- Whatever the databases and the commands do: a run that got through leaves an account in
order, changes nothing where there was an account before, makes nothing but what was missing
where there was none, and can be run again. -/
theorem service_account_established (s t : S) (done : host.ensureServiceAccount s = .ok () t) :
    (∃ group user, ServiceGroup host (host.answers t) group ∧
      ServiceUser host (host.answers t) group.gid user) ∧
    ((host.answers s).passwd SERVICE_USER ≠ none → t = s) ∧
    ((host.answers s).passwd SERVICE_USER = none → Created host s t) ∧
    (host.ensureServiceAccount t = .ok () t ↔ HasVideo (host.answers t)) := by
  obtain ⟨required, group, user, existing, looked, rest⟩ := (ensureServiceAccount_ok host s t).mp done
  have here : (host.answers s).passwd SERVICE_USER ≠ none → t = s ∧
      ∃ entry owner, ServiceGroup host (host.answers s) entry ∧
        ServiceUser host (host.answers s) entry.gid owner := fun users =>
    have adopted := ((ensureServiceAccount_adopts host s t users).mp done).2
    ⟨adopted.1, adopted.2.2⟩
  have absent : (host.answers s).passwd SERVICE_USER = none → Created host s t ∧
      ∃ entry owner, ServiceGroup host (host.answers t) entry ∧
        ServiceUser host (host.answers t) entry.gid owner := by
    intro missing
    cases user with
    | none => exact createServiceUser_ok host group s t existing rest
    | some user =>
      have found := ((accountEntry_found _ _ _ _).mp looked).1
      rw [missing] at found
      contradiction
  have established : ∃ entry owner, ServiceGroup host (host.answers t) entry ∧
      ServiceUser host (host.answers t) entry.gid owner := by
    by_cases missing : (host.answers s).passwd SERVICE_USER = none
    · exact (absent missing).2
    · obtain ⟨rfl, order⟩ := here missing
      exact order
  refine ⟨established, fun users => (here users).1, fun missing => (absent missing).1, ?_⟩
  obtain ⟨entry, owner, found, order⟩ := established
  have users : (host.answers t).passwd SERVICE_USER ≠ none := by
    rw [order.found]
    exact Option.some_ne_none _
  rw [ensureServiceAccount_adopts host t t users]
  exact ⟨fun again => again.2.2.1, fun video => ⟨required, rfl, video, entry, owner, found, order⟩⟩

end Established

/-- A machine with nothing but the `video` group: the first step makes the group, the second
the user. -/
def bareMachine : AdminHost Nat where
  command := fun _ => true
  executable := fun shell => shell = "/usr/sbin/nologin"
  loginDefs := none
  answers := fun s => {
    group := fun name =>
      if name = "video" then some [⟨"video", 44, []⟩]
      else if name = SERVICE_GROUP ∧ 0 < s then some [⟨SERVICE_GROUP, 998, []⟩] else none
    groups := [⟨"video", 44, []⟩, ⟨SERVICE_GROUP, 998, []⟩]
    passwd := fun name => if name = SERVICE_USER ∧ 1 < s then
      some [⟨SERVICE_USER, 998, 998, "/nonexistent", "/usr/sbin/nologin"⟩] else none
    users := [⟨"root", 0, 0, "/root", "/bin/sh"⟩,
      ⟨SERVICE_USER, 998, 998, "/nonexistent", "/usr/sbin/nologin"⟩]
    groupNames := fun _ => some [SERVICE_GROUP, "video"] }
  groupadd := fun _ s => if s = 0 then some 1 else none
  useradd := fun _ s => if s = 1 then some 2 else none

theorem service_account_established_bare : Created bareMachine 0 2 ∧
    bareMachine.ensureServiceAccount 2 = .ok () 2 :=
  have made := service_account_established bareMachine 0 2 (by rfl)
  ⟨made.2.2.1 (by decide), made.2.2.2.mpr ⟨⟨"video", 44, []⟩, by decide, by decide⟩⟩

end RpiHealth
