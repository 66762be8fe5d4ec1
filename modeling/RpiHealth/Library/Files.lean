import Mathlib.Data.List.AList
import Mathlib.Data.List.Induction
import Mathlib.Data.List.Perm.Basic

/-! A file system: directories, symbolic links, files that may have several names, and
what the commands of a shell script see of it and do to it. Times and the numbers of
inodes are left out of what is seen. -/
namespace Files

abbrev Route := List String

structure Attributes where
  owner : String
  group : String
  mode : Nat
  deriving DecidableEq, Repr

inductive Entry where
  | directory (attributes : Attributes)
  | symlink (absolute : Bool) (target : Route)
  | file (inode : Nat)
  /-- A device, a socket or a pipe. -/
  | special (attributes : Attributes)
  deriving DecidableEq, Repr

def Entry.isDirectory : Entry → Bool
  | .directory _ => true
  | _ => false

/-- An inode of the entry is one of the first so many. -/
def Entry.uses (next : Nat) : Entry → Bool
  | .file i => decide (i < next)
  | _ => true

structure Inode where
  content : List UInt8
  attributes : Attributes
  deriving DecidableEq, Repr

structure FileTree where
  entries : AList (fun _ : Route => Entry)
  inodes : Nat → Inode
  /-- No inode from here on is in use. -/
  next : Nat
  root : ∃ a, entries.lookup [] = some (.directory a)
  parents : ∀ p name, entries.lookup (p ++ [name]) ≠ none →
    ∃ a, entries.lookup p = some (.directory a)
  allocated : ∀ p i, entries.lookup p = some (.file i) → i < next

/-- What can be observed at a path. -/
inductive View where
  | directory (attributes : Attributes)
  | symlink (absolute : Bool) (target : Route)
  | file (content : List UInt8) (attributes : Attributes) (links : Nat)
  | special (attributes : Attributes)
  deriving DecidableEq, Repr

def Entry.seen (inodes : Nat → Inode) (links : Nat → Nat) : Entry → View
  | .directory a => .directory a
  | .symlink absolute target => .symlink absolute target
  | .special a => .special a
  | .file i => .file (inodes i).content (inodes i).attributes (links i)

inductive Kind where
  | directory
  | symlink (absolute : Bool) (target : Route)
  | other
  deriving DecidableEq, Repr

def Entry.kind : Entry → Kind
  | .directory _ => .directory
  | .symlink absolute target => .symlink absolute target
  | _ => .other

def View.kind : View → Kind
  | .directory _ => .directory
  | .symlink absolute target => .symlink absolute target
  | _ => .other

namespace FileTree

/-- The root alone. -/
def bare (a : Attributes) : FileTree where
  entries := (∅ : AList (fun _ : Route => Entry)).insert [] (.directory a)
  inodes _ := ⟨[], a⟩
  next := 0
  root := ⟨a, AList.lookup_insert _⟩
  parents p name present := by
    rw [AList.lookup_insert_ne (by simp)] at present
    exact absurd rfl present
  allocated p i found := by
    by_cases top : p = []
    · rw [top, AList.lookup_insert] at found
      cases found
    · rw [AList.lookup_insert_ne top] at found
      cases found

def get (t : FileTree) (p : Route) : Option Entry := t.entries.lookup p

def names (t : FileTree) (i : Nat) : List Route :=
  t.entries.keys.filter (fun p => decide (t.get p = some (.file i)))

def linkCount (t : FileTree) (i : Nat) : Nat := (t.names i).length

def look (t : FileTree) (p : Route) : Option View :=
  (t.get p).map (Entry.seen t.inodes t.linkCount)

/-! Names of an inode. -/

theorem mem_names (t : FileTree) (i : Nat) (p : Route) :
    p ∈ t.names i ↔ t.get p = some (.file i) := by
  rw [names, List.mem_filter, decide_eq_true_eq, and_iff_right_iff_imp]
  intro found
  rw [← AList.mem_keys, ← AList.lookup_isSome]
  rw [get] at found
  rw [found]
  rfl

theorem names_nodup (t : FileTree) (i : Nat) : (t.names i).Nodup :=
  (AList.keys_nodup t.entries).filter _

theorem linkCount_congr (t u : FileTree) (i : Nat)
    (same : ∀ p, t.get p = some (.file i) ↔ u.get p = some (.file i)) :
    t.linkCount i = u.linkCount i := by
  apply List.Perm.length_eq
  rw [List.perm_ext_iff_of_nodup (t.names_nodup i) (u.names_nodup i)]
  intro p
  rw [mem_names, mem_names]
  exact same p

/-- A file with one link has one name. -/
theorem single_name (t : FileTree) (i : Nat) (p q : Route) (single : t.linkCount i = 1)
    (first : t.get p = some (.file i)) (second : t.get q = some (.file i)) : p = q := by
  obtain ⟨name, only⟩ := List.length_eq_one_iff.mp single
  have one := (t.mem_names i p).mpr first
  have other := (t.mem_names i q).mpr second
  rw [only, List.mem_singleton] at one other
  rw [one, other]

theorem linkCount_one (t : FileTree) (i : Nat) (p : Route)
    (only : ∀ q, t.get q = some (.file i) ↔ q = p) : t.linkCount i = 1 := by
  have perm : (t.names i).Perm [p] := by
    rw [List.perm_ext_iff_of_nodup (t.names_nodup i) (List.nodup_singleton p)]
    intro q
    rw [mem_names, List.mem_singleton]
    exact only q
  exact perm.length_eq

theorem look_eq (t u : FileTree) (q : Route) (same : u.get q = t.get q)
    (files : ∀ i, t.get q = some (.file i) →
      u.inodes i = t.inodes i ∧ u.linkCount i = t.linkCount i) : u.look q = t.look q := by
  rw [look, look, same]
  cases found : t.get q with
  | none => rfl
  | some entry =>
    cases entry with
    | file i =>
      obtain ⟨inode, links⟩ := files i found
      simp only [Option.map_some, Entry.seen, inode, links]
    | _ => rfl

theorem look_none (t : FileTree) (p : Route) : t.look p = none ↔ t.get p = none :=
  Option.map_eq_none_iff

theorem look_directory (t : FileTree) (p : Route) (a : Attributes) :
    t.look p = some (.directory a) ↔ t.get p = some (.directory a) := by
  rw [look, Option.map_eq_some_iff]
  constructor
  · rintro ⟨entry, found, seen⟩
    cases entry <;> cases seen
    exact found
  · exact fun found => ⟨_, found, rfl⟩

theorem look_symlink (t : FileTree) (p : Route) (absolute : Bool) (target : Route) :
    t.look p = some (.symlink absolute target) ↔ t.get p = some (.symlink absolute target) := by
  rw [look, Option.map_eq_some_iff]
  constructor
  · rintro ⟨entry, found, seen⟩
    cases entry <;> cases seen
    exact found
  · exact fun found => ⟨_, found, rfl⟩

theorem look_file (t : FileTree) (p : Route) (content : List UInt8) (a : Attributes) (n : Nat) :
    t.look p = some (.file content a n) ↔
      ∃ i, t.get p = some (.file i) ∧ t.inodes i = ⟨content, a⟩ ∧ t.linkCount i = n := by
  rw [look, Option.map_eq_some_iff]
  constructor
  · rintro ⟨entry, found, seen⟩
    cases entry <;> cases seen
    exact ⟨_, found, rfl, rfl⟩
  · rintro ⟨i, found, inode, links⟩
    refine ⟨_, found, ?_⟩
    rw [Entry.seen, inode, links]

/-! Names on the way to a file. -/

/-- From a directory along a path; a link goes on where it points to. -/
def walkWith (t : FileTree) (follow : Route → Route → Option Route) : Route → Route → Option Route
  | here, [] => some here
  | here, name :: rest =>
    if name = "." then walkWith t follow here rest
    else if name = ".." then walkWith t follow here.dropLast rest
    else match t.get (here ++ [name]) with
      | some (.directory _) => walkWith t follow (here ++ [name]) rest
      | some (.symlink absolute target) => follow (if absolute then [] else here) (target ++ rest)
      | _ => if rest = [] then some (here ++ [name]) else none

/-- So many links are followed, and no more. -/
def walk (t : FileTree) : Nat → Route → Route → Option Route
  | 0 => t.walkWith (fun _ _ => none)
  | n + 1 => t.walkWith (t.walk n)

def MAX_SYMLINKS : Nat := 40

def resolve (t : FileTree) (p : Route) : Option Route := t.walk MAX_SYMLINKS [] p

def holdsDirectory (t : FileTree) (p : Route) : Bool := (t.get p).any Entry.isDirectory

/-- The place itself, even if a link is there. -/
def locate (t : FileTree) (p : Route) : Option Route :=
  match p.getLast? with
  | none => some []
  | some name =>
    if name = "." ∨ name = ".." then t.resolve p
    else (t.resolve p.dropLast).bind (fun parent =>
      if t.holdsDirectory parent then some (parent ++ [name]) else none)

def stat (t : FileTree) (p : Route) : Option Entry := (t.resolve p).bind t.get

def lstat (t : FileTree) (p : Route) : Option Entry := (t.locate p).bind t.get

def isSymlink (t : FileTree) (p : Route) : Bool :=
  match t.lstat p with
  | some (.symlink _ _) => true
  | _ => false

def isPresent (t : FileTree) (p : Route) : Bool := (t.stat p).isSome

def isDirectory (t : FileTree) (p : Route) : Bool := (t.stat p).any Entry.isDirectory

def isRegular (t : FileTree) (p : Route) : Bool :=
  match t.stat p with
  | some (.file _) => true
  | _ => false

/-- The link count, asked of files only. -/
def links (t : FileTree) (p : Route) : Option Nat :=
  match t.lstat p with
  | some (.file i) => some (t.linkCount i)
  | _ => none

def contentOf (t : FileTree) (p : Route) : Option (List UInt8) :=
  match t.stat p with
  | some (.file i) => some (t.inodes i).content
  | _ => none

theorem parent_directory (t : FileTree) (p : Route) (nonempty : p ≠ []) (present : t.get p ≠ none) :
    t.holdsDirectory p.dropLast = true := by
  obtain ⟨a, directory⟩ := t.parents p.dropLast (p.getLast nonempty)
    (by rwa [List.dropLast_concat_getLast nonempty])
  rw [holdsDirectory, get, directory]
  rfl

theorem holdsDirectory_iff (t : FileTree) (p : Route) :
    t.holdsDirectory p = true ↔ ∃ a, t.get p = some (.directory a) := by
  unfold holdsDirectory
  cases found : t.get p with
  | none => simp
  | some entry => cases entry <;> simp [Entry.isDirectory]

theorem holds_present (t : FileTree) (p : Route) (held : t.holdsDirectory p = true) :
    t.get p ≠ none := by
  intro gone
  rw [holdsDirectory, gone] at held
  cases held

/-- What lies above something that is there is a directory. -/
theorem above_directory (t : FileTree) (front back : Route) (nonempty : back ≠ [])
    (present : t.get (front ++ back) ≠ none) : t.holdsDirectory front = true := by
  induction back using List.reverseRecOn with
  | nil => exact absurd rfl nonempty
  | append_singleton back name ih =>
    have parent := t.parent_directory (front ++ (back ++ [name])) (by simp) present
    rw [← List.append_assoc, List.dropLast_concat] at parent
    by_cases last : back = []
    · rwa [last, List.append_nil] at parent
    · obtain ⟨a, directory⟩ := (t.holdsDirectory_iff _).mp parent
      exact ih last (by rw [directory]; exact Option.some_ne_none _)

theorem directory_above (t : FileTree) (p front : Route) (held : t.holdsDirectory p = true)
    (above : front <+: p) : ∃ a, t.look front = some (.directory a) := by
  obtain ⟨back, rfl⟩ := above
  simp only [look_directory, ← holdsDirectory_iff]
  by_cases last : back = []
  · rwa [last, List.append_nil] at held
  · exact t.above_directory front back last (t.holds_present _ held)

def Ordinary (p : Route) : Prop := ∀ name ∈ p, name ≠ "." ∧ name ≠ ".."

theorem walkWith_step (t : FileTree) (follow : Route → Route → Option Route) (here rest : Route)
    (name : String) (ordinary : name ≠ "." ∧ name ≠ "..")
    (directory : t.holdsDirectory (here ++ [name]) = true) :
    t.walkWith follow here (name :: rest) = t.walkWith follow (here ++ [name]) rest := by
  obtain ⟨a, found⟩ := (t.holdsDirectory_iff _).mp directory
  rw [walkWith, if_neg ordinary.1, if_neg ordinary.2, found]

/-- A path without links leads where it says. -/
theorem walkWith_plain (t : FileTree) (follow : Route → Route → Option Route) (rest here : Route)
    (ordinary : Ordinary rest)
    (way : ∀ front back, rest = front ++ back → front ≠ [] → back ≠ [] →
      t.holdsDirectory (here ++ front) = true)
    (last : ∀ absolute target, t.get (here ++ rest) ≠ some (.symlink absolute target)) :
    t.walkWith follow here rest = some (here ++ rest) := by
  induction rest generalizing here with
  | nil => rw [walkWith, List.append_nil]
  | cons name rest ih =>
    have plain := ordinary name List.mem_cons_self
    by_cases final : rest = []
    · subst final
      rw [walkWith, if_neg plain.1, if_neg plain.2]
      split
      · rfl
      · rename_i absolute target found
        exact absurd found (last absolute target)
      · rfl
    · have directory := way [name] rest rfl (by simp) final
      have joined : here ++ name :: rest = here ++ [name] ++ rest := by simp
      rw [walkWith_step t follow here rest name plain directory, joined]
      refine ih (here ++ [name]) (fun other member => ordinary other (List.mem_cons_of_mem _ member))
        ?_ (by rwa [← joined])
      intro front back split _ some_left
      have longer := way (name :: front) back (by rw [split]; rfl) (by simp) some_left
      simpa using longer

/-- A path over something missing leads nowhere. -/
theorem walkWith_missing (t : FileTree) (follow : Route → Route → Option Route)
    (rest here : Route) (ordinary : Ordinary rest)
    (way : ∀ front back, rest = front ++ back → front ≠ [] → back ≠ [] →
      t.holdsDirectory (here ++ front) = true ∨ t.get (here ++ front) = none)
    (missing : ∃ front back, rest = front ++ back ∧ front ≠ [] ∧ back ≠ [] ∧
      t.get (here ++ front) = none) :
    t.walkWith follow here rest = none := by
  induction rest generalizing here with
  | nil =>
    obtain ⟨front, back, split, nonempty, -⟩ := missing
    exact absurd (List.append_eq_nil_iff.mp split.symm).1 nonempty
  | cons name rest ih =>
    have plain := ordinary name List.mem_cons_self
    obtain ⟨front, back, split, nonempty, some_left, absent⟩ := missing
    obtain ⟨head, front, rfl⟩ := List.exists_cons_of_ne_nil nonempty
    rw [List.cons_append, List.cons.injEq] at split
    obtain ⟨rfl, rfl⟩ := split
    have final : front ++ back ≠ [] := by simp [some_left]
    rcases way [name] (front ++ back) rfl (by simp) final with directory | gone
    · rw [walkWith_step t follow here _ name plain directory]
      refine ih (here ++ [name]) (fun other member => ordinary other (List.mem_cons_of_mem _ member))
        ?_ ⟨front, back, rfl, ?_, some_left, by simpa using absent⟩
      · intro front' back' split' _ some_left'
        have longer := way (name :: front') back' (by rw [split']; rfl) (by simp) some_left'
        simpa using longer
      · rintro rfl
        rw [holdsDirectory, absent] at directory
        cases directory
    · rw [walkWith, if_neg plain.1, if_neg plain.2, gone]
      exact if_neg final

/-- A path whose names mean themselves, and over which lie directories or nothing. -/
structure Plain (t : FileTree) (p : Route) : Prop where
  nonempty : p ≠ []
  ordinary : Ordinary p
  way : ∀ front back, p = front ++ back → back ≠ [] →
    t.holdsDirectory front = true ∨ t.get front = none

theorem dropLast_nonempty (t : FileTree) (p : Route) (gone : t.get p.dropLast = none) :
    p.dropLast ≠ [] := by
  intro empty
  obtain ⟨a, root⟩ := t.root
  rw [empty, get, root] at gone
  cases gone

section Plain

variable {t : FileTree} {p : Route} (plain : t.Plain p)
include plain

theorem Plain.split : p = p.dropLast ++ [p.getLast plain.nonempty] :=
  (List.dropLast_concat_getLast plain.nonempty).symm

theorem Plain.parent : t.holdsDirectory p.dropLast = true ∨ t.get p.dropLast = none :=
  plain.way p.dropLast _ plain.split (by simp)

theorem resolve_parent (directory : t.holdsDirectory p.dropLast = true) :
    t.resolve p.dropLast = some p.dropLast := by
  obtain ⟨a, found⟩ := (t.holdsDirectory_iff _).mp directory
  refine t.walkWith_plain _ p.dropLast [] ?_ ?_ ?_
  · exact fun name member => plain.ordinary name (List.dropLast_subset p member)
  · intro front back split _ some_left
    have present : t.get (front ++ back) ≠ none := by
      rw [← split, found]
      exact Option.some_ne_none _
    exact t.above_directory front back some_left present
  · intro absolute target link
    rw [List.nil_append, found] at link
    cases link

theorem resolve_plain (directory : t.holdsDirectory p.dropLast = true)
    (last : ∀ absolute target, t.get p ≠ some (.symlink absolute target)) :
    t.resolve p = some p := by
  obtain ⟨a, found⟩ := (t.holdsDirectory_iff _).mp directory
  refine t.walkWith_plain _ p [] plain.ordinary ?_ (by simpa using last)
  intro front back split _ some_left
  rcases List.eq_nil_or_concat back with rfl | ⟨back, name, rfl⟩
  · exact absurd rfl some_left
  · have shorter : p.dropLast = front ++ back := by
      rw [split, List.concat_eq_append, ← List.append_assoc, List.dropLast_concat]
    by_cases end_reached : back = []
    · rw [end_reached, List.append_nil] at shorter
      rwa [List.nil_append, ← shorter]
    · refine t.above_directory front back end_reached ?_
      rw [← shorter, found]
      exact Option.some_ne_none _

theorem Plain.dropLast (nonempty : p.dropLast ≠ []) : t.Plain p.dropLast where
  nonempty := nonempty
  ordinary name member := plain.ordinary name (List.dropLast_subset p member)
  way front back split _ := plain.way front (back ++ [p.getLast plain.nonempty])
    (by rw [← List.append_assoc, ← split]; exact plain.split) (by simp)

theorem resolve_missing (gone : t.get p.dropLast = none) : t.resolve p = none := by
  refine t.walkWith_missing _ p [] plain.ordinary ?_ ⟨p.dropLast, _, plain.split, ?_, by simp, gone⟩
  · intro front back split _ some_left
    exact plain.way front back split some_left
  · exact dropLast_nonempty t p gone

theorem locate_plain (directory : t.holdsDirectory p.dropLast = true) : t.locate p = some p := by
  have last := plain.ordinary _ (List.getLast_mem plain.nonempty)
  rw [locate, List.getLast?_eq_getLast_of_ne_nil plain.nonempty]
  simp only [last.1, last.2, or_self, if_false, resolve_parent plain directory, Option.bind_some,
    directory, if_true]
  rw [← plain.split]

theorem locate_missing (gone : t.get p.dropLast = none) : t.locate p = none := by
  have last := plain.ordinary _ (List.getLast_mem plain.nonempty)
  rw [locate, List.getLast?_eq_getLast_of_ne_nil plain.nonempty]
  simp only [last.1, last.2, or_self, if_false]
  have shorter := plain.dropLast (dropLast_nonempty t p gone)
  rcases shorter.parent with directory | higher
  · have found := resolve_plain shorter directory (by rw [gone]; simp)
    simp [found, holdsDirectory, gone]
  · rw [resolve_missing shorter higher, Option.bind_none]

theorem gone_below (gone : t.get p.dropLast = none) : t.get p = none := by
  by_contra present
  have directory := t.parent_directory p plain.nonempty present
  rw [holdsDirectory, gone] at directory
  cases directory

/-- What is seen at the place itself. -/
theorem lstat_plain : t.lstat p = t.get p := by
  rcases plain.parent with directory | gone
  · rw [lstat, locate_plain plain directory, Option.bind_some]
  · rw [lstat, locate_missing plain gone, Option.bind_none, gone_below plain gone]

/-- What is seen through the path, unless a link is at its end. -/
theorem stat_plain (last : ∀ absolute target, t.get p ≠ some (.symlink absolute target)) :
    t.stat p = t.get p := by
  rcases plain.parent with directory | gone
  · rw [stat, resolve_plain plain directory last, Option.bind_some]
  · rw [stat, resolve_missing plain gone, Option.bind_none, gone_below plain gone]

theorem links_plain (n : Nat) (counted : t.links p = some n) :
    ∃ i, t.get p = some (.file i) ∧ t.linkCount i = n := by
  rw [links, lstat_plain plain] at counted
  split at counted
  · rename_i i found
    exact ⟨i, found, Option.some.inj counted⟩
  · cases counted

theorem plain_absent (gone : t.look p = none) :
    t.isPresent p = false ∧ t.isDirectory p = false := by
  rw [look_none] at gone
  have at_end := stat_plain plain (by simp [gone])
  simp only [isPresent, isDirectory, at_end, gone]
  exact ⟨rfl, rfl⟩

theorem plain_directory (a : Attributes) (found : t.look p = some (.directory a)) :
    t.isPresent p = true ∧ t.isDirectory p = true := by
  rw [look_directory] at found
  have at_end := stat_plain plain (by simp [found])
  simp only [isPresent, isDirectory, at_end, found]
  exact ⟨rfl, rfl⟩

theorem plain_file (content : List UInt8) (a : Attributes) (n : Nat)
    (found : t.look p = some (.file content a n)) : t.isPresent p = true := by
  obtain ⟨i, entry, -⟩ := (t.look_file p content a n).mp found
  have at_end := stat_plain plain (by simp [entry])
  simp only [isPresent, at_end, entry]
  rfl

/-- Nothing or a directory, told by the two questions a script asks. -/
theorem directory_or_nothing :
    (t.isSymlink p = false ∧ (t.isPresent p && !t.isDirectory p) = false) ↔
      t.look p = none ∨ ∃ a, t.look p = some (.directory a) := by
  simp only [isSymlink, lstat_plain plain, look_none, look_directory]
  by_cases link : ∃ absolute target, t.get p = some (.symlink absolute target)
  · obtain ⟨absolute, target, found⟩ := link
    simp [found]
  · have at_end := stat_plain plain (fun absolute target found => link ⟨absolute, target, found⟩)
    simp only [isPresent, isDirectory, at_end]
    cases found : t.get p with
    | none => simp
    | some entry =>
      cases entry with
      | symlink absolute target => exact absurd ⟨absolute, target, found⟩ link
      | directory a => simp [Entry.isDirectory]
      | file i => simp [Entry.isDirectory]
      | special a => simp [Entry.isDirectory]

/-- Nothing or a file of one name, told by the questions a script asks. -/
theorem file_or_nothing :
    (t.isSymlink p = false ∧ (t.isPresent p = true → t.isRegular p = true ∧ t.links p = some 1)) ↔
      t.look p = none ∨ ∃ content a, t.look p = some (.file content a 1) := by
  simp only [isSymlink, links, lstat_plain plain, look_none, look_file]
  by_cases link : ∃ absolute target, t.get p = some (.symlink absolute target)
  · obtain ⟨absolute, target, found⟩ := link
    simp [found]
  · have at_end := stat_plain plain (fun absolute target found => link ⟨absolute, target, found⟩)
    simp only [isPresent, isRegular, at_end]
    cases found : t.get p with
    | none => simp
    | some entry =>
      cases entry with
      | symlink absolute target => exact absurd ⟨absolute, target, found⟩ link
      | directory a => simp
      | file i =>
        have inode : ∃ content a, t.inodes i = ⟨content, a⟩ := ⟨_, _, rfl⟩
        simpa using fun _ => inode
      | special a => simp

end Plain

/-! Trees that agree on where paths lead. -/

theorem look_kind (t : FileTree) (q : Route) :
    (t.look q).map View.kind = (t.get q).map Entry.kind := by
  rw [look, Option.map_map]
  congr 1
  funext entry
  cases entry <;> rfl

/-- What was there is still there, and of its kind. What is new is no link. -/
structure Extends (t u : FileTree) : Prop where
  kept : ∀ q kind, (t.look q).map View.kind = some kind → (u.look q).map View.kind = some kind
  links : ∀ q absolute target, u.look q = some (.symlink absolute target) →
    t.look q = some (.symlink absolute target)

theorem Extends.refl (t : FileTree) : t.Extends t :=
  ⟨fun _ _ found => found, fun _ _ _ found => found⟩

theorem Extends.trans {t u w : FileTree} (first : t.Extends u) (second : u.Extends w) :
    t.Extends w where
  kept q kind found := second.kept q kind (first.kept q kind found)
  links q absolute target found :=
    first.links q absolute target (second.links q absolute target found)

theorem Extends.directory (t u : FileTree) (wider : t.Extends u) (q : Route)
    (held : t.holdsDirectory q = true) : u.holdsDirectory q = true := by
  obtain ⟨a, found⟩ := (t.holdsDirectory_iff q).mp held
  have kind := wider.kept q .directory (by rw [look_kind, found]; rfl)
  rw [look_kind] at kind
  obtain ⟨entry, found', alike⟩ := Option.map_eq_some_iff.mp kind
  rw [holdsDirectory, found']
  cases entry <;> cases alike
  rfl

theorem walkWith_extends (t u : FileTree) (wider : t.Extends u)
    (follow follow' : Route → Route → Option Route)
    (agree : ∀ here rest q, follow here rest = some q → t.get q ≠ none → follow' here rest = some q)
    (rest here q : Route) (found : t.walkWith follow here rest = some q) (present : t.get q ≠ none) :
    u.walkWith follow' here rest = some q := by
  have same := fun p kind => (look_kind t p) ▸ (look_kind u p) ▸ wider.kept p kind
  induction rest generalizing here with
  | nil => exact found
  | cons name rest ih =>
    unfold walkWith at found ⊢
    split at found
    · rename_i here_itself
      rw [if_pos here_itself]
      exact ih here found
    · rename_i not_here
      rw [if_neg not_here]
      split at found
      · rename_i above
        rw [if_pos above]
        exact ih here.dropLast found
      · rename_i not_above
        rw [if_neg not_above]
        cases entry : t.get (here ++ [name]) with
        | none =>
          rw [entry] at found
          simp only [Option.ite_none_right_eq_some, Option.some.injEq] at found
          rw [← found.2] at present
          exact absurd entry present
        | some e =>
          have kept := same (here ++ [name]) e.kind (by rw [entry]; rfl)
          rw [Option.map_eq_some_iff] at kept
          obtain ⟨e', entry', alike⟩ := kept
          rw [entry] at found
          rw [entry']
          cases e <;> cases e' <;> cases alike
          · exact ih _ found
          · exact agree _ _ q found present
          all_goals exact found

theorem walk_extends (t u : FileTree) (wider : t.Extends u) (n : Nat) (here rest q : Route)
    (found : t.walk n here rest = some q) (present : t.get q ≠ none) :
    u.walk n here rest = some q := by
  induction n generalizing here rest q with
  | zero =>
    refine walkWith_extends t u wider _ _ ?_ rest here q found present
    intro here rest q nowhere
    cases nowhere
  | succ n ih => exact walkWith_extends t u wider _ _ ih rest here q found present

/-- A path that led to something still leads there. -/
theorem resolve_extends (t u : FileTree) (wider : t.Extends u) (p q : Route)
    (found : t.resolve p = some q) (present : t.get q ≠ none) : u.resolve p = some q :=
  walk_extends t u wider MAX_SYMLINKS [] p q found present

/-- The path leads to a file at the place, with this content. -/
def Leads (t : FileTree) (p q : Route) (content : List UInt8) : Prop :=
  t.resolve p = some q ∧ ∃ a n, t.look q = some (.file content a n)

theorem Leads.contentOf {t : FileTree} {p q : Route} {content : List UInt8}
    (leads : t.Leads p q content) : t.contentOf p = some content := by
  obtain ⟨resolved, a, n, seen⟩ := leads
  obtain ⟨i, found, inode, -⟩ := (t.look_file q content a n).mp seen
  rw [FileTree.contentOf, stat, resolved, Option.bind_some, found]
  simp only [inode]

theorem Leads.stat {t : FileTree} {p q : Route} {content : List UInt8}
    (leads : t.Leads p q content) : ∃ i, t.stat p = some (.file i) := by
  obtain ⟨resolved, a, n, seen⟩ := leads
  obtain ⟨i, found, -⟩ := (t.look_file q content a n).mp seen
  exact ⟨i, by rw [FileTree.stat, resolved, Option.bind_some, found]⟩

theorem regular_leads (t : FileTree) (p : Route) (regular : t.isRegular p = true) :
    ∃ q content, t.Leads p q content := by
  rw [isRegular] at regular
  split at regular
  · rename_i i found
    obtain ⟨q, resolved, entry⟩ := Option.bind_eq_some_iff.mp found
    exact ⟨q, _, resolved, _, _, (t.look_file q _ _ _).mpr ⟨i, entry, rfl, rfl⟩⟩
  · cases regular

theorem Leads.extends {t u : FileTree} {p q : Route} {content : List UInt8}
    (leads : t.Leads p q content) (wider : t.Extends u)
    (kept : ∀ a n, t.look q = some (.file content a n) →
      ∃ a n, u.look q = some (.file content a n)) : u.Leads p q content := by
  obtain ⟨resolved, a, n, seen⟩ := leads
  obtain ⟨i, found, -⟩ := (t.look_file q content a n).mp seen
  exact ⟨t.resolve_extends u wider p q resolved (by rw [found]; exact Option.some_ne_none _),
    kept a n seen⟩

/-- Over a path that leads to something lies a directory. -/
theorem walkWith_parent (t : FileTree) (follow : Route → Route → Option Route) (name : String)
    (below : ∀ here rest q, t.holdsDirectory here = true → follow here (rest ++ [name]) = some q →
      ∃ parent, follow here rest = some parent ∧ t.holdsDirectory parent = true)
    (rest here q : Route) (directory : t.holdsDirectory here = true)
    (found : t.walkWith follow here (rest ++ [name]) = some q) :
    ∃ parent, t.walkWith follow here rest = some parent ∧ t.holdsDirectory parent = true := by
  induction rest generalizing here with
  | nil => exact ⟨here, rfl, directory⟩
  | cons head rest ih =>
    have top : t.holdsDirectory [] = true := (t.holdsDirectory_iff []).mpr t.root
    rw [List.cons_append] at found
    unfold walkWith at found ⊢
    split at found
    · rename_i here_itself
      rw [if_pos here_itself]
      exact ih here directory found
    · rename_i not_here
      rw [if_neg not_here]
      split at found
      · rename_i above
        rw [if_pos above]
        refine ih here.dropLast ?_ found
        by_cases empty : here = []
        · rw [empty]
          exact top
        · exact t.parent_directory here empty (t.holds_present here directory)
      · rename_i not_above
        rw [if_neg not_above]
        cases entry : t.get (here ++ [head]) with
        | none => simp [entry] at found
        | some e =>
          rw [entry] at found
          cases e with
          | directory a => exact ih _ ((t.holdsDirectory_iff _).mpr ⟨a, entry⟩) found
          | symlink absolute target =>
            refine below _ (target ++ rest) q ?_ (by rwa [List.append_assoc])
            cases absolute
            · exact directory
            · exact top
          | file i => simp at found
          | special a => simp at found

theorem walk_parent (t : FileTree) (n : Nat) (name : String) (rest here q : Route)
    (directory : t.holdsDirectory here = true) (found : t.walk n here (rest ++ [name]) = some q) :
    ∃ parent, t.walk n here rest = some parent ∧ t.holdsDirectory parent = true := by
  induction n generalizing here rest q with
  | zero =>
    refine walkWith_parent t _ name ?_ rest here q directory found
    intro _ _ _ _ nowhere
    cases nowhere
  | succ n ih =>
    exact walkWith_parent t _ name (fun here rest q => ih rest here q) rest here q directory found

theorem locate_extends (t u : FileTree) (wider : t.Extends u) (p : Route)
    (present : t.stat p ≠ none) : ∃ q, t.locate p = some q ∧ u.locate p = some q := by
  obtain ⟨q, resolved⟩ : ∃ q, t.resolve p = some q := by
    rw [← Option.isSome_iff_exists, Option.isSome_iff_ne_none]
    intro nowhere
    rw [stat, nowhere] at present
    exact present rfl
  have at_end : t.get q ≠ none := by
    rwa [stat, resolved, Option.bind_some] at present
  rcases List.eq_nil_or_concat p with rfl | ⟨front, name, rfl⟩
  · exact ⟨[], rfl, rfl⟩
  · rw [List.concat_eq_append] at resolved ⊢
    rw [locate, locate, List.getLast?_concat, List.dropLast_concat]
    by_cases dots : name = "." ∨ name = ".."
    · simp only [dots, if_true]
      exact ⟨q, resolved, t.resolve_extends u wider _ q resolved at_end⟩
    · have top : t.holdsDirectory [] = true := (t.holdsDirectory_iff []).mpr t.root
      obtain ⟨parent, above, directory⟩ := t.walk_parent MAX_SYMLINKS name front [] q top resolved
      have still := t.resolve_extends u wider front parent above (t.holds_present parent directory)
      have here : t.resolve front = some parent := above
      refine ⟨parent ++ [name], ?_, ?_⟩
      · simp only [if_neg dots, here, Option.bind_some, if_pos directory]
      · simp only [if_neg dots, still, Option.bind_some,
          if_pos (wider.directory t u parent directory)]

theorem lstat_link_extends (t u : FileTree) (wider : t.Extends u) (p : Route)
    (present : t.stat p ≠ none) (absolute : Bool) (target : Route) :
    u.lstat p = some (.symlink absolute target) ↔ t.lstat p = some (.symlink absolute target) := by
  obtain ⟨q, before, after⟩ := locate_extends t u wider p present
  rw [lstat, lstat, before, after, Option.bind_some, Option.bind_some, ← look_symlink,
    ← look_symlink]
  constructor
  · exact wider.links q absolute target
  · intro found
    have kind := wider.kept q (.symlink absolute target) (by rw [found]; rfl)
    obtain ⟨seen, found', alike⟩ := Option.map_eq_some_iff.mp kind
    cases seen <;> cases alike
    exact found'

/-! Changes to one place. -/

def childless (t : FileTree) (p : Route) : Bool :=
  t.entries.keys.all (fun q => q.isEmpty || decide (q.dropLast ≠ p))

theorem childless_iff (t : FileTree) (p : Route) :
    t.childless p = true ↔ ∀ name, t.get (p ++ [name]) = none := by
  rw [childless, List.all_eq_true]
  constructor
  · intro all name
    by_contra present
    have member : p ++ [name] ∈ t.entries.keys := by
      rw [← AList.mem_keys, ← AList.lookup_isSome]
      exact Option.isSome_iff_ne_none.mpr present
    simpa using all _ member
  · intro none_below q member
    rcases List.eq_nil_or_concat q with rfl | ⟨front, name, rfl⟩
    · rfl
    · rw [List.concat_eq_append] at member ⊢
      have present : t.get (front ++ [name]) ≠ none := by
        rw [← AList.mem_keys, ← AList.lookup_isSome] at member
        exact Option.isSome_iff_ne_none.mp member
      simp only [List.dropLast_concat, Bool.or_eq_true, decide_eq_true_eq]
      right
      rintro rfl
      exact present (none_below name)

/-- Where an entry may stand: below a directory, and over nothing unless it is one. -/
def Fits (t : FileTree) (p : Route) (e : Entry) (next : Nat) : Prop :=
  (p = [] → e.isDirectory = true) ∧ (p ≠ [] → t.holdsDirectory p.dropLast = true) ∧
    (e.isDirectory = true ∨ t.childless p = true) ∧ e.uses next = true

instance (t : FileTree) (p : Route) (e : Entry) (next : Nat) : Decidable (t.Fits p e next) :=
  inferInstanceAs (Decidable (_ ∧ _))

theorem get_insert (t : FileTree) (p q : Route) (e : Entry) :
    (t.entries.insert p e).lookup q = if q = p then some e else t.get q := by
  by_cases same : q = p
  · rw [if_pos same, same, AList.lookup_insert]
  · rw [if_neg same, AList.lookup_insert_ne same, get]

theorem get_erase (t : FileTree) (p q : Route) :
    (t.entries.erase p).lookup q = if q = p then none else t.get q := by
  by_cases same : q = p
  · rw [if_pos same, same, AList.lookup_erase]
  · rw [if_neg same, AList.lookup_erase_ne same, get]

def put (t : FileTree) (p : Route) (e : Entry) (inodes : Nat → Inode) (next : Nat)
    (grown : t.next ≤ next) (fits : t.Fits p e next) : FileTree where
  entries := t.entries.insert p e
  inodes := inodes
  next := next
  root := by
    obtain ⟨a, directory⟩ := t.root
    rw [get_insert]
    split
    · rename_i top
      have := fits.1 top.symm
      cases e <;> simp_all [Entry.isDirectory]
    · exact ⟨a, directory⟩
  parents := by
    intro q name present
    rw [get_insert] at present ⊢
    by_cases here : q = p
    · subst here
      rw [if_pos rfl]
      rw [if_neg (by simp)] at present
      rcases fits.2.2.1 with directory | childless
      · cases e <;> simp_all [Entry.isDirectory]
      · exact absurd ((t.childless_iff q).mp childless name) present
    · rw [if_neg here]
      by_cases below : q ++ [name] = p
      · have above := fits.2.1 (by rw [← below]; simp)
        rw [← below, List.dropLast_concat, holdsDirectory_iff] at above
        exact above
      · rw [if_neg below] at present
        exact t.parents q name present
  allocated := by
    intro q i found
    rw [get_insert] at found
    split at found
    · rw [Option.some.inj found] at fits
      simpa [Entry.uses] using fits.2.2.2
    · exact Nat.lt_of_lt_of_le (t.allocated q i found) grown

/-- Nothing is left at the place. -/
def remove (t : FileTree) (p : Route) (below_root : p ≠ []) (childless : t.childless p = true) :
    FileTree where
  entries := t.entries.erase p
  inodes := t.inodes
  next := t.next
  root := by
    rw [get_erase, if_neg below_root.symm]
    exact t.root
  parents := by
    intro q name present
    rw [get_erase] at present ⊢
    by_cases here : q = p
    · subst here
      rw [if_neg (by simp)] at present
      exact absurd ((t.childless_iff q).mp childless name) present
    · rw [if_neg here]
      split at present
      · exact absurd rfl present
      · exact t.parents q name present
  allocated := by
    intro q i found
    rw [get_erase] at found
    split at found
    · cases found
    · exact t.allocated q i found

def rewrite (t : FileTree) (i : Nat) (inode : Inode) : FileTree :=
  { t with inodes := Function.update t.inodes i inode }

theorem rewrite_inodes (t : FileTree) (i j : Nat) (inode : Inode) :
    (t.rewrite i inode).inodes j = if j = i then inode else t.inodes j :=
  Function.update_apply t.inodes i inode j

/-- What stands at the place has no other name. -/
def Alone (t : FileTree) (p : Route) : Prop :=
  ∀ i, t.get p = some (.file i) → t.linkCount i = 1

theorem linkCount_elsewhere (t u : FileTree) (p q : Route) (alone : t.Alone p) (i : Nat)
    (other : q ≠ p) (named : t.get q = some (.file i)) (fresh : u.get p ≠ some (.file i))
    (same : ∀ q, q ≠ p → u.get q = t.get q) : u.linkCount i = t.linkCount i := by
  apply linkCount_congr
  intro r
  by_cases here : r = p
  · subst here
    constructor
    · intro found
      exact absurd found fresh
    · intro found
      exact absurd (t.single_name i q r (alone i found) named found) other
  · rw [same r here]

theorem look_put (t : FileTree) (p : Route) (e : Entry) (inodes : Nat → Inode) (next : Nat)
    (grown : t.next ≤ next) (fits : t.Fits p e next) (alone : t.Alone p)
    (own : ∀ i, e = .file i → ∀ q, q ≠ p → t.get q ≠ some (.file i))
    (kept : ∀ q i, q ≠ p → t.get q = some (.file i) → inodes i = t.inodes i) :
    (t.put p e inodes next grown fits).look =
      Function.update t.look p (some (e.seen inodes (fun _ => 1))) := by
  have gets : ∀ q, (t.put p e inodes next grown fits).get q = if q = p then some e else t.get q :=
    fun q => t.get_insert p q e
  funext q
  by_cases here : q = p
  · subst here
    rw [Function.update_self, look, gets, if_pos rfl, Option.map_some]
    congr 1
    cases e with
    | file i =>
      have single : (t.put q (.file i) inodes next grown fits).linkCount i = 1 := by
        apply linkCount_one _ i q
        intro r
        rw [gets]
        by_cases same : r = q
        · simp [same]
        · rw [if_neg same]
          exact ⟨fun found => absurd found (own i rfl r same), fun equal => absurd equal same⟩
      simp only [Entry.seen, single]
      rfl
    | _ => rfl
  · rw [Function.update_of_ne here]
    apply look_eq
    · rw [gets, if_neg here]
    · intro i named
      refine ⟨kept q i here named, linkCount_elsewhere t _ p q alone i here named ?_ ?_⟩
      · rw [gets, if_pos rfl]
        intro equal
        exact own i (Option.some.inj equal) q here named
      · intro r other
        rw [gets, if_neg other]

theorem look_remove (t : FileTree) (p : Route) (below_root : p ≠ [])
    (childless : t.childless p = true) (alone : t.Alone p) :
    (t.remove p below_root childless).look = Function.update t.look p none := by
  have gets : ∀ q, (t.remove p below_root childless).get q = if q = p then none else t.get q :=
    fun q => t.get_erase p q
  funext q
  by_cases here : q = p
  · subst here
    rw [Function.update_self, look_none, gets, if_pos rfl]
  · rw [Function.update_of_ne here]
    apply look_eq
    · rw [gets, if_neg here]
    · intro i named
      refine ⟨rfl, linkCount_elsewhere t _ p q alone i here named ?_ ?_⟩
      · rw [gets, if_pos rfl]
        exact nofun
      · intro r other
        rw [gets, if_neg other]

theorem look_rewrite (t : FileTree) (p : Route) (i : Nat) (inode : Inode) (alone : t.Alone p)
    (named : t.get p = some (.file i)) :
    (t.rewrite i inode).look = Function.update t.look p
      (some (.file inode.content inode.attributes 1)) := by
  funext q
  by_cases here : q = p
  · subst here
    rw [Function.update_self, look_file]
    exact ⟨i, named, by rw [rewrite_inodes, if_pos rfl], alone i named⟩
  · rw [Function.update_of_ne here]
    apply look_eq
    · rfl
    · intro j other
      refine ⟨?_, rfl⟩
      rw [rewrite_inodes, if_neg]
      rintro rfl
      exact here (t.single_name j q p (alone j named) other named)

end FileTree

/-! Ways of directories. -/

/-- At the place and above it lie directories or nothing. -/
def Clear (view : Route → Option View) (p : Route) : Prop :=
  ∀ front, front <+: p → view front = none ∨ ∃ a, view front = some (.directory a)

theorem Clear.above {view : Route → Option View} {p : Route} (clear : Clear view p) (front : Route)
    (above : front <+: p) : Clear view front :=
  fun higher upward => clear higher (upward.trans above)

theorem Clear.plain {t : FileTree} {p : Route} (clear : Clear t.look p.dropLast) (nonempty : p ≠ [])
    (ordinary : FileTree.Ordinary p) : t.Plain p where
  nonempty := nonempty
  ordinary := ordinary
  way front back split some_left := by
    obtain ⟨back, name, rfl⟩ := (List.eq_nil_or_concat back).resolve_left some_left
    have above : front <+: p.dropLast := by
      rw [split, List.concat_eq_append, ← List.append_assoc, List.dropLast_concat]
      exact List.prefix_append front back
    rcases clear front above with gone | ⟨a, directory⟩
    · exact .inr ((t.look_none front).mp gone)
    · exact .inl ((t.holdsDirectory_iff front).mpr ⟨a, (t.look_directory front a).mp directory⟩)

theorem Clear.update {view : Route → Option View} {p : Route} (clear : Clear view p) (q : Route)
    (seen : View) (as_directory : q <+: p → ∃ a, seen = .directory a) :
    Clear (Function.update view q (some seen)) p := by
  intro front above
  by_cases here : front = q
  · subst here
    obtain ⟨a, rfl⟩ := as_directory above
    exact .inr ⟨a, Function.update_self _ _ _⟩
  · rw [Function.update_of_ne here]
    exact clear front above

/-- One more name below a clear place. -/
theorem clear_snoc (view : Route → Option View) (p : Route) (name : String) :
    Clear view (p ++ [name]) ↔
      Clear view p ∧ (view (p ++ [name]) = none ∨ ∃ a, view (p ++ [name]) = some (.directory a)) := by
  constructor
  · intro clear
    exact ⟨clear.above p (List.prefix_append p [name]), clear _ List.prefix_rfl⟩
  · rintro ⟨above, last⟩ front upward
    rcases List.prefix_concat_iff.mp upward with rfl | upward
    · exact last
    · exact above front upward

theorem FileTree.extends_update (t u : FileTree) (p : Route) (seen : View)
    (changed : u.look = Function.update t.look p (some seen))
    (alike : ∀ old, t.look p = some old → old.kind = seen.kind)
    (no_link : ∀ absolute target, seen ≠ .symlink absolute target) : t.Extends u where
  kept q kind found := by
    by_cases here : q = p
    · subst here
      obtain ⟨old, before, rfl⟩ := Option.map_eq_some_iff.mp found
      rw [changed, Function.update_self, Option.map_some, alike old before]
    · rw [changed, Function.update_of_ne here]
      exact found
  links q absolute target found := by
    by_cases here : q = p
    · subst here
      rw [changed, Function.update_self, Option.some.injEq] at found
      exact absurd found (no_link absolute target)
    · rwa [changed, Function.update_of_ne here] at found

end Files
