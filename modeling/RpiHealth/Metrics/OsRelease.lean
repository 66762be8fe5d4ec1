import RpiHealth.Metrics.Metadata

/-! The operating system file as it is written: what is encoded line by line is
decoded again. -/
namespace RpiHealth

/-- An assignment that fits a line. -/
structure Assignment where
  key : String
  value : String
  valid : validKey key = true
  oneLine : '\n' ∉ value.toList

inductive OsReleaseText where
  | assignment (a : Assignment)
  | blank (spaces : List Char) (only : Text.Blank spaces) (oneLine : '\n' ∉ spaces)
  | comment (spaces text : List Char) (only : Text.Blank spaces) (oneLine : '\n' ∉ spaces ++ text)

/-- A backslash stands before a backslash and before a quotation mark. -/
def escapeChar (c : Char) : List Char := if c = '\\' ∨ c = '"' then ['\\', c] else [c]

def escaped (value : List Char) : List Char := value.flatMap escapeChar

def quoted (value : String) : List Char := '"' :: (escaped value.toList ++ ['"'])

namespace OsReleaseText

def text : OsReleaseText → List Char
  | .assignment a => a.key.toList ++ '=' :: quoted a.value
  | .blank spaces _ _ => spaces
  | .comment spaces text _ _ => spaces ++ '#' :: text

def assignment? : OsReleaseText → Option Assignment
  | .assignment a => some a
  | _ => none

end OsReleaseText

/-- Lines that end, and perhaps one that does not. -/
def written (lines : List OsReleaseText) (last : Option OsReleaseText) : List Char :=
  lines.flatMap (fun line => line.text ++ ['\n']) ++ (last.map OsReleaseText.text).getD []

def assignments (lines : List OsReleaseText) : List Assignment :=
  lines.filterMap OsReleaseText.assignment?

def lastValue (key : String) (assigned : List Assignment) : Option String :=
  (assigned.reverse.find? (fun a => a.key = key)).map Assignment.value

/-! One value. -/

theorem unescape_plain (lineNumber : Nat) (c : Char) (rest : List Char) (plain : c ≠ '\\') :
    unescape lineNumber (c :: rest) =
      (unescape lineNumber rest).map (fun output => c :: output) := by
  rw [unescape]
  · intro escape
    exact absurd escape plain
  · intro next tail escape
    exact absurd escape plain

theorem unescape_escaped (lineNumber : Nat) (value : List Char) :
    unescape lineNumber (escaped value) = .ok value := by
  induction value with
  | nil => rfl
  | cons c rest ih =>
    rw [escaped, List.flatMap_cons, ← escaped, escapeChar]
    split
    · rename_i marked
      rw [List.cons_append, List.singleton_append, unescape, ih]
      rfl
    · rename_i unmarked
      rw [List.singleton_append, unescape_plain _ _ _ (fun escape => unmarked (.inl escape)), ih]
      rfl

theorem escaped_clean (value : List Char) (clean : '\n' ∉ value) : '\n' ∉ escaped value := by
  intro member
  obtain ⟨c, inside, marked⟩ := List.mem_flatMap.mp member
  rw [escapeChar] at marked
  split at marked
  · rcases List.mem_cons.mp marked with escape | same
    · exact absurd escape (by decide)
    · rw [List.mem_singleton.mp same] at clean
      exact clean inside
  · rw [List.mem_singleton.mp marked] at clean
    exact clean inside

theorem quoted_trimmed (value : String) : Text.Trimmed (quoted value) := by
  have ends : (quoted value).getLast? = some '"' := by simp [quoted, List.getLast?_cons]
  constructor
  · intro c first
    obtain rfl : '"' = c := by simpa [quoted] using first
    decide
  · intro c last
    rw [ends] at last
    rw [← Option.some.inj last]
    decide

theorem parseAssignmentValue_quoted (value : String) (lineNumber : Nat) :
    parseAssignmentValue (String.ofList (quoted value)) lineNumber = .ok value := by
  have kept : (Text.trim (String.ofList (quoted value))).toList = quoted value := by
    rw [Text.toList_trim, String.toList_ofList, Text.trimList_of_trimmed _ (quoted_trimmed value)]
  rw [parseAssignmentValue, kept]
  simp only [quoted]
  rw [if_pos (.inr trivial), List.dropLast_concat, unescape_escaped]
  simp [ensure, bind, Except.bind, Except.map]

/-! One line. -/

theorem validKey_characters (key : String) (valid : validKey key = true) :
    key.toList ≠ [] ∧ ∀ c ∈ key.toList, Text.isWhitespace c = false ∧ c ≠ '#' ∧ c ≠ '=' ∧
      c ≠ '\n' := by
  rw [validKey, Bool.and_eq_true, bne_iff_ne, List.all_eq_true] at valid
  refine ⟨fun empty => valid.1 (String.toList_eq_nil_iff.mp empty), fun c member => ?_⟩
  have class_of := valid.2 c member
  simp only [Bool.or_eq_true, Bool.and_eq_true, decide_eq_true_eq, beq_iff_eq] at class_of
  have marks : '#'.toNat = 35 ∧ '='.toNat = 61 ∧ '\n'.toNat = 10 ∧ '_'.toNat = 95 := by decide
  have code : (65 ≤ c.toNat ∧ c.toNat ≤ 90 ∨ 48 ≤ c.toNat ∧ c.toNat ≤ 57) ∨ c.toNat = 95 := by
    apply class_of.imp_right
    rintro rfl
    exact marks.2.2.2
  refine ⟨?_, ?_, ?_, ?_⟩
  · simp only [Text.isWhitespace, Bool.or_eq_false_iff, Bool.and_eq_false_iff,
      decide_eq_false_iff_not, beq_eq_false_iff_ne]
    omega
  · rintro rfl
    omega
  · rintro rfl
    omega
  · rintro rfl
    omega

theorem assignment_line (release : OsRelease) (lineNumber : Nat) (a : Assignment) :
    osReleaseLine release lineNumber (String.ofList (OsReleaseText.assignment a).text) =
      .ok (release.assign a.key a.value) := by
  obtain ⟨filled, characters⟩ := validKey_characters a.key a.valid
  have ends : (a.key.toList ++ '=' :: quoted a.value).getLast? = (quoted a.value).getLast? := by
    simp [quoted, List.getLast?_cons]
  have trimmed : Text.Trimmed (a.key.toList ++ '=' :: quoted a.value) := by
    constructor
    · intro c first
      rw [List.head?_append_of_ne_nil _ filled] at first
      exact (characters c (List.mem_of_mem_head? first)).1
    · intro c last
      rw [ends] at last
      exact (quoted_trimmed a.value).2 c last
  have kept : Text.trim (String.ofList (OsReleaseText.assignment a).text) =
      String.ofList (a.key.toList ++ '=' :: quoted a.value) := by
    rw [← String.toList_inj, Text.toList_trim, String.toList_ofList, String.toList_ofList]
    exact Text.trimList_of_trimmed _ trimmed
  have read : ¬ (String.ofList (a.key.toList ++ '=' :: quoted a.value) = "" ∨
      Text.startsWith '#' (String.ofList (a.key.toList ++ '=' :: quoted a.value)) = true) := by
    rintro (empty | mark)
    · have none_left := congrArg String.toList empty
      simp at none_left
    · rw [Text.startsWith, String.toList_ofList, List.head?_append_of_ne_nil _ filled,
        beq_iff_eq] at mark
      exact (characters '#' (List.mem_of_mem_head? mark)).2.1 rfl
  have split : Text.splitOnce '=' (String.ofList (a.key.toList ++ '=' :: quoted a.value)) =
      some (a.key, String.ofList (quoted a.value)) := by
    rw [Text.splitOnce_eq_some_iff, String.toList_ofList, String.toList_ofList]
    exact ⟨rfl, fun member => (characters '=' member).2.2.1 rfl⟩
  simp only [osReleaseLine, kept, if_neg read, split, okOr_bind, ensure_bind]
  refine ⟨_, rfl, a.valid, ?_⟩
  rw [parseAssignmentValue_quoted]
  rfl

theorem blank_line (release : OsRelease) (lineNumber : Nat) (spaces : List Char)
    (only : Text.Blank spaces) :
    osReleaseLine release lineNumber (String.ofList spaces) = .ok release := by
  have empty : Text.trim (String.ofList spaces) = "" := by
    rw [← String.toList_inj, Text.toList_trim, String.toList_ofList]
    have none_left := Text.trimList_padded spaces [] [] only Text.blank_nil (by simp [Text.Trimmed])
    simpa using none_left
  simp only [osReleaseLine, empty, true_or, if_true]

theorem comment_line (release : OsRelease) (lineNumber : Nat) (spaces text : List Char)
    (only : Text.Blank spaces) :
    osReleaseLine release lineNumber (String.ofList (spaces ++ '#' :: text)) = .ok release := by
  have mark : ¬ Text.isWhitespace '#' = true := by decide
  have starts : (Text.trimList (spaces ++ '#' :: text)).head? = some '#' := by
    rw [Text.trimList, Text.dropWhile_blank _ _ only, List.dropWhile_cons_of_neg mark]
    have initial : List.rdropWhile Text.isWhitespace ('#' :: text) <+: '#' :: text :=
      List.rdropWhile_prefix _ _
    obtain ⟨back, whole⟩ := initial
    cases front : List.rdropWhile Text.isWhitespace ('#' :: text) with
    | nil =>
      rw [List.rdropWhile_eq_nil_iff] at front
      exact absurd (front '#' List.mem_cons_self) mark
    | cons c rest =>
      rw [front, List.cons_append] at whole
      rw [List.head?_cons, (List.cons.inj whole).1]
  have skipped : Text.startsWith '#' (Text.trim (String.ofList (spaces ++ '#' :: text))) = true := by
    rw [Text.startsWith, Text.toList_trim, String.toList_ofList, starts]
    rfl
  simp only [osReleaseLine, skipped, or_true, if_true]

/-! The whole file. -/

def OsReleaseText.read (release : OsRelease) : OsReleaseText → OsRelease
  | .assignment a => release.assign a.key a.value
  | _ => release

theorem text_clean (line : OsReleaseText) : '\n' ∉ line.text := by
  cases line with
  | assignment a =>
    obtain ⟨-, characters⟩ := validKey_characters a.key a.valid
    have value := escaped_clean a.value.toList a.oneLine
    intro member
    rcases List.mem_append.mp member with inside | after
    · exact (characters _ inside).2.2.2 rfl
    · simp [quoted, value] at after
  | blank spaces only oneLine => exact oneLine
  | comment spaces text only oneLine =>
    intro member
    rcases List.mem_append.mp member with inside | after
    · exact oneLine (List.mem_append_left _ inside)
    · rcases List.mem_cons.mp after with mark | inside
      · exact absurd mark (by decide)
      · exact oneLine (List.mem_append_right _ inside)

theorem line_read (release : OsRelease) (lineNumber : Nat) (line : OsReleaseText) :
    osReleaseLine release lineNumber (String.ofList line.text) = .ok (line.read release) := by
  cases line with
  | assignment a => exact assignment_line release lineNumber a
  | blank spaces only oneLine => exact blank_line release lineNumber spaces only
  | comment spaces text only oneLine => exact comment_line release lineNumber spaces text only

/-- What the end of a line takes along belongs to no assignment. -/
theorem stripped_line_read (release : OsRelease) (lineNumber : Nat) (line : OsReleaseText) :
    osReleaseLine release lineNumber (String.ofList (Text.stripCarriageReturn line.text)) =
      .ok (line.read release) := by
  unfold Text.stripCarriageReturn
  split
  · rename_i carriage
    cases line with
    | assignment a => simp [OsReleaseText.text, quoted, List.getLast?_cons] at carriage
    | blank spaces only oneLine =>
      exact blank_line release lineNumber spaces.dropLast
        (fun c member => only c (List.mem_of_mem_dropLast member))
    | comment spaces text only oneLine =>
      cases text with
      | nil => simp [OsReleaseText.text] at carriage
      | cons c rest =>
        have shorter : (OsReleaseText.comment spaces (c :: rest) only oneLine).text.dropLast =
            spaces ++ '#' :: (c :: rest).dropLast := by
          rw [OsReleaseText.text, List.dropLast_append_of_ne_nil (List.cons_ne_nil _ _),
            List.dropLast_cons_of_ne_nil (List.cons_ne_nil _ _)]
        rw [shorter]
        exact comment_line release lineNumber spaces _ only
  · exact line_read release lineNumber line

theorem lines_written (lines : List OsReleaseText) (last : Option OsReleaseText) :
    Text.linesFrom [] (written lines last) =
      lines.map (fun line => Text.stripCarriageReturn line.text) ++
        Text.linesFrom [] ((last.map OsReleaseText.text).getD []) := by
  induction lines with
  | nil => rfl
  | cons line rest ih =>
    have first : written (line :: rest) last = line.text ++ '\n' :: written rest last := by
      simp [written]
    rw [first, Text.linesFrom_terminated _ _ _ (text_clean line), ih]
    rfl

theorem last_line_read (release : OsRelease) (lineIndex : Nat) (last : Option OsReleaseText) :
    osReleaseLines release lineIndex
        ((Text.linesFrom [] ((last.map OsReleaseText.text).getD [])).map String.ofList) =
      .ok (last.toList.foldl OsReleaseText.read release) := by
  cases last with
  | none => rfl
  | some line =>
    by_cases empty : line.text = []
    · have kept := line_read release 0 line
      rw [empty] at kept
      have same : line.read release = release := by
        have skipped := blank_line release 0 [] (fun c member => absurd member List.not_mem_nil)
        exact Except.ok.inj (kept.symm.trans skipped)
      rw [Option.map_some, Option.getD_some, empty, Option.toList_some, List.foldl_cons, same]
      rfl
    · rw [Option.map_some, Option.getD_some,
        Text.linesFrom_last [] _ (text_clean line) empty, List.nil_append, List.map_singleton,
        osReleaseLines, line_read]
      rfl

theorem lines_read (release : OsRelease) (lineIndex : Nat) (lines : List OsReleaseText)
    (tail : List String) :
    osReleaseLines release lineIndex
        (lines.map (fun line => String.ofList (Text.stripCarriageReturn line.text)) ++ tail) =
      osReleaseLines (lines.foldl OsReleaseText.read release) (lineIndex + lines.length) tail := by
  induction lines generalizing release lineIndex with
  | nil => rfl
  | cons line rest ih =>
    have step := stripped_line_read release (lineIndex + 1) line
    rw [List.map_cons, List.cons_append, osReleaseLines, step]
    calc osReleaseLines (line.read release) (lineIndex + 1) (rest.map _ ++ tail)
        = osReleaseLines (rest.foldl OsReleaseText.read (line.read release))
            (lineIndex + 1 + rest.length) tail := ih _ _
      _ = _ := by rw [List.foldl_cons, List.length_cons, Nat.add_right_comm, Nat.add_assoc]

theorem foldl_read (lines : List OsReleaseText) (release : OsRelease) :
    lines.foldl OsReleaseText.read release =
      (assignments lines).foldl (fun release a => release.assign a.key a.value) release := by
  induction lines generalizing release with
  | nil => rfl
  | cons line rest ih =>
    rw [List.foldl_cons, ih, assignments, assignments]
    cases line with
    | assignment a => rfl
    | blank spaces only oneLine => rfl
    | comment spaces text only oneLine => rfl

theorem lastValue_cons (key : String) (a : Assignment) (rest : List Assignment) :
    lastValue key (a :: rest) =
      (lastValue key rest).or (if a.key = key then some a.value else none) := by
  rw [lastValue, lastValue, List.reverse_cons, List.find?_append]
  cases rest.reverse.find? (fun a => a.key = key) with
  | some b => rfl
  | none =>
    rw [Option.none_or, List.find?_singleton]
    by_cases same : a.key = key
    · simp [same]
    · simp [same]

/-- A field that one key assigns ends with the last value of that key. -/
theorem last_assigned (field : OsRelease → Option String) (key : String)
    (assigned : List Assignment) (release : OsRelease)
    (assigns : ∀ release (a : Assignment), field (release.assign a.key a.value) =
      if a.key = key then some a.value else field release) :
    field (assigned.foldl (fun release a => release.assign a.key a.value) release) =
      (lastValue key assigned).or (field release) := by
  induction assigned generalizing release with
  | nil => rfl
  | cons a rest ih =>
    rw [List.foldl_cons, ih, assigns, lastValue_cons, Option.or_assoc]
    congr 1
    split
    · rfl
    · rfl

/-- Each key assigns its own field and no other. -/
theorem assign_fields (release : OsRelease) (key value : String) :
    let next := release.assign key value
    next.prettyName = (if key = "PRETTY_NAME" then some value else release.prettyName) ∧
      next.name = (if key = "NAME" then some value else release.name) ∧
      next.version = (if key = "VERSION" then some value else release.version) ∧
      next.versionId = (if key = "VERSION_ID" then some value else release.versionId) ∧
      next.id = (if key = "ID" then some value else release.id) := by
  unfold OsRelease.assign
  by_cases pretty : key = "PRETTY_NAME"
  · subst pretty
    simp
  by_cases name : key = "NAME"
  · subst name
    simp
  by_cases version : key = "VERSION"
  · subst version
    simp
  by_cases versionId : key = "VERSION_ID"
  · subst versionId
    simp
  by_cases id : key = "ID"
  · subst id
    simp
  · simp [pretty, name, version, versionId, id]

theorem parseOsRelease_written (lines : List OsReleaseText) (last : Option OsReleaseText) :
    parseOsRelease (String.ofList (written lines last)) = .ok {
      prettyName := lastValue "PRETTY_NAME" (assignments (lines ++ last.toList))
      name := lastValue "NAME" (assignments (lines ++ last.toList))
      version := lastValue "VERSION" (assignments (lines ++ last.toList))
      versionId := lastValue "VERSION_ID" (assignments (lines ++ last.toList))
      id := lastValue "ID" (assignments (lines ++ last.toList)) } := by
  have parsed : parseOsRelease (String.ofList (written lines last)) = .ok
      ((assignments (lines ++ last.toList)).foldl
        (fun release a => release.assign a.key a.value) {}) := by
    rw [parseOsRelease, Text.lines, String.toList_ofList, lines_written, List.map_append,
      List.map_map]
    rw [← foldl_read, List.foldl_append]
    exact (lines_read {} 0 lines _).trans (last_line_read _ _ last)
  rw [parsed]
  generalize assignments (lines ++ last.toList) = assigned
  have fields (release : OsRelease) (a : Assignment) := assign_fields release a.key a.value
  have pretty := last_assigned OsRelease.prettyName _ assigned {} (fun r a => (fields r a).1)
  have name := last_assigned OsRelease.name _ assigned {} (fun r a => (fields r a).2.1)
  have version := last_assigned OsRelease.version _ assigned {} (fun r a => (fields r a).2.2.1)
  have versionId := last_assigned OsRelease.versionId _ assigned {} (fun r a => (fields r a).2.2.2.1)
  have id := last_assigned OsRelease.id _ assigned {} (fun r a => (fields r a).2.2.2.2)
  rw [Option.or_none] at pretty name version versionId id
  rw [← pretty, ← name, ← version, ← versionId, ← id]

end RpiHealth
