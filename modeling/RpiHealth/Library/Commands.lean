import Mathlib.Logic.Function.Basic
import RpiHealth.Library.Files

/-! What the commands that change files do to a tree when their arguments allow it, run by
the superuser. -/
namespace Files.FileTree

def SET_ID : Nat := 0o6000
def SET_GROUP_ID : Nat := 0o2000
def SET_USER_ID : Nat := 0o4000
def GROUP_EXECUTE : Nat := 0o0010

/-- A change of owner takes these bits from a file that is no directory. -/
def withoutSetId (mode : Nat) : Nat :=
  if mode &&& GROUP_EXECUTE = 0 then mode - (mode &&& SET_USER_ID) else mode - (mode &&& SET_ID)

def replace (t : FileTree) (p : Route) (e : Entry) : Option FileTree :=
  if fits : t.Fits p e t.next then some (t.put p e t.inodes t.next (Nat.le_refl _) fits) else none

def setAttributes (t : FileTree) (p : Route) (ofDirectory ofOther : Attributes → Attributes) :
    Option FileTree :=
  (t.resolve p).bind (fun q => match t.get q with
    | some (.directory a) => t.replace q (.directory (ofDirectory a))
    | some (.special a) => t.replace q (.special (ofOther a))
    | some (.file i) =>
      some (t.rewrite i { t.inodes i with attributes := ofOther (t.inodes i).attributes })
    | _ => none)

/-- `chown owner:group -- p` -/
def chown (t : FileTree) (owner group : String) (p : Route) : Option FileTree :=
  t.setAttributes p (fun a => { a with owner, group })
    (fun a => { a with owner, group, mode := withoutSetId a.mode })

/-- `chmod mode -- p`, where four digits leave a directory its set-id bits. -/
def chmod (t : FileTree) (mode : Nat) (p : Route) : Option FileTree :=
  t.setAttributes p (fun a => { a with mode := (a.mode &&& SET_ID) ||| mode })
    (fun a => { a with mode })

/-- A directory below one with the set-group-id bit has that bit too. -/
def inherited (parent a : Attributes) : Attributes :=
  { a with mode := (parent.mode &&& SET_GROUP_ID) ||| a.mode }

/-- `install -d -o owner -g group -m mode -- p`, where nothing is yet, below a directory. -/
def installDirectory (t : FileTree) (a : Attributes) (p : Route) : Option FileTree :=
  (t.locate p).bind (fun q => match t.get q, t.get q.dropLast with
    | none, some (.directory parent) =>
      t.replace q (.directory (inherited parent a))
    | _, _ => none)

/-- What was at the place is unlinked, so other names of it keep what they had. -/
def create (t : FileTree) (p : Route) (inode : Inode) : Option FileTree :=
  if fits : t.Fits p (.file t.next) (t.next + 1) then
    some (t.put p (.file t.next) (Function.update t.inodes t.next inode) (t.next + 1)
      (Nat.le_succ _) fits)
  else none

/-- `install -o owner -g group -m mode -- source destination` -/
def install (t : FileTree) (a : Attributes) (source destination : Route) : Option FileTree :=
  match t.stat source with
  | some (.file i) =>
    let target := if t.isDirectory destination then destination ++ source.getLast?.toList
      else destination
    if t.stat target = some (.file i) then none
    else (t.locate target).bind (fun q =>
      if t.holdsDirectory q then none else t.create q ⟨(t.inodes i).content, a⟩)
  | _ => none

/-- `rm -- p` -/
def rm (t : FileTree) (p : Route) : Option FileTree :=
  (t.locate p).bind (fun q =>
    if fits : q ≠ [] ∧ t.childless q = true then
      match t.get q with
      | none | some (.directory _) => none
      | _ => some (t.remove q fits.1 fits.2)
    else none)

/-- `rmdir -- p` -/
def rmdir (t : FileTree) (p : Route) : Option FileTree :=
  (t.locate p).bind (fun q =>
    if fits : (q ≠ [] ∧ t.childless q = true) ∧ t.holdsDirectory q = true then
      some (t.remove q fits.1.1 fits.1.2)
    else none)

/-! Their effect, where the path is plain and a file has no other name. -/

theorem childless_leaf (t : FileTree) (p : Route) (leaf : t.holdsDirectory p = false) :
    t.childless p = true := by
  rw [childless_iff]
  intro name
  by_contra present
  have above := t.parent_directory (p ++ [name]) (by simp) present
  rw [List.dropLast_concat, leaf] at above
  cases above

theorem not_directory_none (t : FileTree) (p : Route) (gone : t.get p = none) :
    t.holdsDirectory p = false := by
  rw [holdsDirectory, gone]
  rfl

theorem not_directory_file (t : FileTree) (p : Route) (i : Nat) (found : t.get p = some (.file i)) :
    t.holdsDirectory p = false := by
  rw [holdsDirectory, found]
  rfl

theorem look_present (t : FileTree) (p : Route) (seen : View) (found : t.look p = some seen) :
    t.get p ≠ none := by
  intro gone
  rw [(t.look_none p).mpr gone] at found
  cases found

section Commands

variable {t : FileTree} {p : Route} (plain : t.Plain p)
include plain

theorem setAttributes_directory (f g : Attributes → Attributes) (a : Attributes)
    (found : t.look p = some (.directory a)) :
    ∃ u, t.setAttributes p f g = some u ∧
      u.look = Function.update t.look p (some (.directory (f a))) := by
  have parent := t.parent_directory p plain.nonempty (t.look_present p _ found)
  rw [look_directory] at found
  have fits : t.Fits p (.directory (f a)) t.next := by
    refine ⟨fun _ => rfl, fun _ => parent, .inl rfl, rfl⟩
  refine ⟨t.put p _ t.inodes t.next (Nat.le_refl _) fits, ?_, ?_⟩
  · rw [setAttributes, resolve_plain plain parent (by rw [found]; simp), Option.bind_some, found]
    exact dif_pos fits
  · refine look_put t p _ t.inodes t.next _ fits ?_ ?_ (fun _ _ _ _ => rfl)
    · intro i named
      rw [found] at named
      cases named
    · exact nofun

theorem setAttributes_file (f g : Attributes → Attributes) (content : List UInt8) (a : Attributes)
    (found : t.look p = some (.file content a 1)) :
    ∃ u, t.setAttributes p f g = some u ∧
      u.look = Function.update t.look p (some (.file content (g a) 1)) := by
  have parent := t.parent_directory p plain.nonempty (t.look_present p _ found)
  obtain ⟨i, named, inode, single⟩ := (t.look_file p content a 1).mp found
  have alone : t.Alone p := by
    intro j other
    rw [named] at other
    cases other
    exact single
  refine ⟨t.rewrite i ⟨content, g a⟩, ?_, look_rewrite t p i _ alone named⟩
  rw [setAttributes, resolve_plain plain parent (by rw [named]; simp), Option.bind_some, named]
  simp only [inode]

theorem installDirectory_plain (a : Attributes) (parent : t.holdsDirectory p.dropLast = true)
    (gone : t.look p = none) :
    ∃ u b, t.installDirectory a p = some u ∧ b.owner = a.owner ∧ b.group = a.group ∧
      u.look = Function.update t.look p (some (.directory b)) := by
  rw [look_none] at gone
  obtain ⟨above, found⟩ := (t.holdsDirectory_iff _).mp parent
  have fits (b : Attributes) : t.Fits p (.directory b) t.next :=
    ⟨fun _ => rfl, fun _ => parent, .inl rfl, rfl⟩
  refine ⟨t.put p _ t.inodes t.next (Nat.le_refl _) (fits (inherited above a)),
    inherited above a, ?_, rfl, rfl, ?_⟩
  · rw [installDirectory, locate_plain plain parent, Option.bind_some, gone, found]
    exact dif_pos (fits _)
  · refine look_put t p _ t.inodes t.next _ (fits _) ?_ ?_ (fun _ _ _ _ => rfl)
    · intro i named
      rw [gone] at named
      cases named
    · exact nofun

/-- The place a copy goes to holds nothing, or a file of one name that is not the source. -/
theorem install_plain (a : Attributes) (source q : Route) (content : List UInt8)
    (resolved : t.resolve source = some q)
    (copied : ∃ b n, t.look q = some (.file content b n)) (different : q ≠ p)
    (parent : t.holdsDirectory p.dropLast = true)
    (replaceable : t.look p = none ∨ ∃ old b, t.look p = some (.file old b 1)) :
    ∃ u, t.install a source p = some u ∧
      u.look = Function.update t.look p (some (.file content a 1)) := by
  obtain ⟨b, n, seen⟩ := copied
  obtain ⟨i, from_here, inode, -⟩ := (t.look_file q content b n).mp seen
  have alone : t.Alone p := by
    intro j named
    rcases replaceable with gone | ⟨old, b, seen⟩
    · rw [(t.look_none p).mp gone] at named
      cases named
    · obtain ⟨k, found, -, single⟩ := (t.look_file p old b 1).mp seen
      rw [found] at named
      cases named
      exact single
  have shape : t.get p = none ∨ ∃ j, t.get p = some (.file j) := by
    rcases replaceable with gone | ⟨old, b, seen⟩
    · exact .inl ((t.look_none p).mp gone)
    · obtain ⟨j, found, -⟩ := (t.look_file p old b 1).mp seen
      exact .inr ⟨j, found⟩
  have leaf : t.holdsDirectory p = false := by
    rcases shape with gone | ⟨j, found⟩
    · exact not_directory_none t p gone
    · exact not_directory_file t p j found
  have last : ∀ absolute target, t.get p ≠ some (.symlink absolute target) := by
    rcases shape with gone | ⟨j, found⟩
    · simp [gone]
    · simp [found]
  have unlike : t.get p ≠ some (.file i) := by
    intro same
    exact different (t.single_name i q p (alone i same) from_here same)
  have at_place := stat_plain plain last
  have fits : t.Fits p (.file t.next) (t.next + 1) :=
    ⟨fun top => absurd top plain.nonempty, fun _ => parent, .inr (childless_leaf t p leaf),
      by simp [Entry.uses]⟩
  refine ⟨_, ?_, look_put t p _ (Function.update t.inodes t.next ⟨content, a⟩) _ (Nat.le_succ _)
    fits alone ?_ ?_ |>.trans ?_⟩
  · have stat_source : t.stat source = some (.file i) := by
      rw [stat, resolved, Option.bind_some, from_here]
    have no_directory : t.isDirectory p = false := by
      rw [isDirectory, at_place]
      exact leaf
    simp only [install, stat_source, no_directory, at_place, unlike, if_false,
      locate_plain plain parent, Option.bind_some, leaf, inode, Bool.false_eq_true]
    exact dif_pos fits
  · intro j fresh r _ named
    cases fresh
    exact Nat.lt_irrefl _ (t.allocated r t.next named)
  · intro r j _ named
    exact Function.update_of_ne (Nat.ne_of_lt (t.allocated r j named)) _ _
  · rw [Entry.seen, Function.update_self]

theorem rm_plain (content : List UInt8) (a : Attributes)
    (found : t.look p = some (.file content a 1)) :
    ∃ u, t.rm p = some u ∧ u.look = Function.update t.look p none := by
  have parent := t.parent_directory p plain.nonempty (t.look_present p _ found)
  obtain ⟨i, named, -, single⟩ := (t.look_file p content a 1).mp found
  have fits : p ≠ [] ∧ t.childless p = true :=
    ⟨plain.nonempty, childless_leaf t p (not_directory_file t p i named)⟩
  refine ⟨t.remove p fits.1 fits.2, ?_, look_remove t p fits.1 fits.2 ?_⟩
  · rw [rm, locate_plain plain parent, Option.bind_some, dif_pos fits, named]
  · intro j other
    rw [named] at other
    cases other
    exact single

theorem rmdir_plain (a : Attributes) (found : t.look p = some (.directory a)) :
    ((∃ name, t.look (p ++ [name]) ≠ none) ∧ t.rmdir p = none) ∨
      (∀ name, t.look (p ++ [name]) = none) ∧
        ∃ u, t.rmdir p = some u ∧ u.look = Function.update t.look p none := by
  have parent := t.parent_directory p plain.nonempty (t.look_present p _ found)
  rw [look_directory] at found
  have directory : t.holdsDirectory p = true := (t.holdsDirectory_iff p).mpr ⟨a, found⟩
  have empty : t.childless p = true ↔ ∀ name, t.look (p ++ [name]) = none := by
    simp only [childless_iff, look_none]
  by_cases childless : t.childless p = true
  · right
    refine ⟨empty.mp childless, t.remove p plain.nonempty childless, ?_, ?_⟩
    · rw [rmdir, locate_plain plain parent, Option.bind_some,
        dif_pos ⟨⟨plain.nonempty, childless⟩, directory⟩]
    · apply look_remove
      intro i named
      rw [found] at named
      cases named
  · left
    constructor
    · rw [empty, not_forall] at childless
      exact childless
    · rw [rmdir, locate_plain plain parent, Option.bind_some, dif_neg]
      exact fun fits => childless fits.1.2

end Commands

end Files.FileTree
