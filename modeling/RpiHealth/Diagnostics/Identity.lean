import RpiHealth.Collector.Metadata
import RpiHealth.Library.Ordered
import RpiHealth.Library.Printing

/-! The account that the diagnostic command runs as, read from what the kernel prints of
the process, and the check that refuses the superuser. -/
namespace RpiHealth
open Sorting

def IDENTITY_CHECK : String := "runtime identity"

structure ProcessIdentity where
  effectiveUid : Nat
  effectiveGid : Nat
  supplementaryGroups : List Nat
  deriving DecidableEq, Repr

/-- The numbers on the first line of a field. A process may be in no group at all. -/
def parseStatusNumbers (status field : String) : Option (List Nat) := do
  let line ← (Text.lines status).findSome? (Text.stripPrefix field)
  let values ← (Text.asciiWords line).mapM (Text.parseUnsigned 10 32)
  if field = "Groups:" ∨ values ≠ [] then some values else none

def parseProcessIdentity (status : String) : Option ProcessIdentity := do
  let uid ← parseStatusNumbers status "Uid:"
  let gid ← parseStatusNumbers status "Gid:"
  let supplementaryGroups ← parseStatusNumbers status "Groups:"
  let effectiveUid ← uid[1]?
  let effectiveGid ← gid[1]?
  return ⟨effectiveUid, effectiveGid, supplementaryGroups⟩

def ProcessIdentity.summary (identity : ProcessIdentity) : String :=
  "effective UID " ++ toString identity.effectiveUid ++ ", effective GID " ++
    toString identity.effectiveGid ++ ", supplementary groups [" ++
    String.intercalate ", " ((sortDedup identity.supplementaryGroups).map toString) ++ "]"

def identityCheck : Option ProcessIdentity → DiagnosticCheck
  | some identity =>
    if identity.effectiveUid = 0 then
      ⟨IDENTITY_CHECK, .failure,
        "process has effective UID 0; run it as the dedicated service account"⟩
    else if identity.effectiveGid = 0 ∨ 0 ∈ identity.supplementaryGroups then
      ⟨IDENTITY_CHECK, .warning, "process is non-root but retains membership in group 0"⟩
    else ⟨IDENTITY_CHECK, .pass, identity.summary⟩
  | none =>
    ⟨IDENTITY_CHECK, .failure, "effective UID, GID, and supplementary groups could not be read"⟩

/-! What the kernel prints. -/

/-- A field of the process status: its name, and numbers that tabs and spaces separate. -/
structure Prints (line field : String) (values : List Nat) : Prop where
  printed : ∃ (gaps : List (List Char)) (back : List Char), gaps.length = values.length ∧
    line.toList = field.toList ++
      Text.spread (gaps.zip (values.map (fun n => (toString n).toList))) ++ back ∧
    (∀ gap ∈ gaps, gap ≠ [] ∧ ∀ c ∈ gap, c = '\t' ∨ c = ' ') ∧ ∀ c ∈ back, c = '\t' ∨ c = ' '
  small : ∀ n ∈ values, n < 2 ^ 32

/-- The first line of that name carries these numbers. -/
def Carries (lines : List String) (field : String) (values : List Nat) : Prop :=
  ∃ before line after, lines = before ++ line :: after ∧
    (∀ other ∈ before, Text.stripPrefix field other = none) ∧ Prints line field values

theorem decimal_solid (n : Nat) : Text.Solid Text.isAsciiWhitespace (toString n).toList where
  nonempty := Text.toString_nonempty n
  unbroken c member := by
    have low := (Text.toString_visible n c member).1
    by_contra blank
    have among : c ∈ [' ', '\t', '\n', '\x0c', '\r'] := by
      simpa only [Text.isAsciiWhitespace, Bool.not_eq_false, List.contains_iff_mem] using blank
    have least : ∀ d ∈ [' ', '\t', '\n', '\x0c', '\r'], d.toNat < 48 := by simp
    have := least c among
    omega

theorem prints_words (line field : String) (values : List Nat) (prints : Prints line field values) :
    ∃ rest, Text.stripPrefix field line = some rest ∧
      Text.asciiWords rest = values.map toString := by
  obtain ⟨gaps, back, length, whole, apart, trailing⟩ := prints.printed
  let fields := gaps.zip (values.map (fun n => (toString n).toList))
  have blank : ∀ c, c = '\t' ∨ c = ' ' → Text.isAsciiWhitespace c = true := by
    rintro c (rfl | rfl) <;> decide
  have spaced : ∀ f ∈ fields, Text.Spaced Text.isAsciiWhitespace f := by
    rintro ⟨gap, word⟩ member
    obtain ⟨left, right⟩ := List.of_mem_zip member
    obtain ⟨n, -, rfl⟩ := List.mem_map.mp right
    exact ⟨(apart gap left).1, fun c inside => blank c ((apart gap left).2 c inside),
      decimal_solid n⟩
  refine ⟨String.ofList (Text.spread fields ++ back), ?_, ?_⟩
  · rw [Text.stripPrefix_eq_some_iff, String.toList_ofList, whole, List.append_assoc]
  · rw [Text.asciiWords, String.toList_ofList, Text.wordsBy_spread _ fields back spaced
      (fun c inside => blank c (trailing c inside))]
    have second : fields.map Prod.snd = values.map (fun n => (toString n).toList) :=
      List.map_snd_zip (by simp [length])
    rw [second, List.map_map]
    exact List.map_congr_left (fun n _ => String.ofList_toList)

theorem findSome_first {A B : Type} (f : A → Option B) (before after : List A) (a : A) (b : B)
    (none_before : ∀ x ∈ before, f x = none) (here : f a = some b) :
    (before ++ a :: after).findSome? f = some b := by
  rw [List.findSome?_append, List.findSome?_eq_none_iff.mpr none_before, Option.none_or,
    List.findSome?_cons, here]

theorem mapM_printed (values : List Nat) (small : ∀ n ∈ values, n < 2 ^ 32) :
    (values.map toString).mapM (Text.parseUnsigned 10 32) = some values := by
  induction values with
  | nil => rfl
  | cons n rest ih =>
    rw [List.map_cons, List.mapM_cons,
      Text.parseUnsigned_toString 32 n (small n List.mem_cons_self),
      ih (fun m member => small m (List.mem_cons_of_mem n member))]
    rfl

theorem parseStatusNumbers_described (lines : List String) (field : String) (values : List Nat)
    (each : ∀ line ∈ lines, Text.OneLine line.toList) (carries : Carries lines field values)
    (allowed : field = "Groups:" ∨ values ≠ []) :
    parseStatusNumbers (Text.printLines lines) field = some values := by
  obtain ⟨before, line, after, rfl, none_before, prints⟩ := carries
  obtain ⟨rest, stripped, words⟩ := prints_words line field values prints
  simp only [parseStatusNumbers, Text.lines_printLines _ each,
    findSome_first _ before after line rest none_before stripped, words,
    mapM_printed values prints.small, Option.bind_eq_bind, Option.bind_some, if_pos allowed]

/-- The process as the kernel prints it, among any other lines. -/
structure StatusOf (lines : List String) (uid gid : Fin 4 → Nat) (groups : List Nat) : Prop where
  each : ∀ line ∈ lines, Text.OneLine line.toList
  uid : Carries lines "Uid:" (List.ofFn uid)
  gid : Carries lines "Gid:" (List.ofFn gid)
  groups : Carries lines "Groups:" groups

theorem parseProcessIdentity_status (lines : List String) (uid gid : Fin 4 → Nat)
    (groups : List Nat) (status : StatusOf lines uid gid groups) :
    parseProcessIdentity (Text.printLines lines) = some ⟨uid 1, gid 1, groups⟩ := by
  have user := parseStatusNumbers_described lines "Uid:" _ status.each status.uid
    (.inr (by simp))
  have group := parseStatusNumbers_described lines "Gid:" _ status.each status.gid
    (.inr (by simp))
  have others := parseStatusNumbers_described lines "Groups:" groups status.each status.groups
    (.inl rfl)
  simp only [parseProcessIdentity, user, group, others, Option.bind_eq_bind, Option.bind_some]
  rfl

/-- What the kernel prints of a process decides the check: the effective user, then the
effective and the supplementary groups. An account that passes is named by its own numbers,
every group once and in increasing order. -/
theorem identity_reported (lines : List String) (uid gid : Fin 4 → Nat) (groups : List Nat)
    (status : StatusOf lines uid gid groups) :
    let check := identityCheck (parseProcessIdentity (Text.printLines lines))
    (check.status = .failure ↔ uid 1 = 0) ∧
      (check.status = .warning ↔ uid 1 ≠ 0 ∧ (gid 1 = 0 ∨ 0 ∈ groups)) ∧
      (uid 1 ≠ 0 → gid 1 ≠ 0 → 0 ∉ groups → check.status = .pass ∧
        ∃ named : List Nat, named.Pairwise (· < ·) ∧ (∀ g, g ∈ named ↔ g ∈ groups) ∧
          check.summary = "effective UID " ++ toString (uid 1) ++ ", effective GID " ++
            toString (gid 1) ++ ", supplementary groups [" ++
            String.intercalate ", " (named.map toString) ++ "]") := by
  simp only [parseProcessIdentity_status lines uid gid groups status, identityCheck]
  by_cases superuser : uid 1 = 0
  · simp [superuser]
  · by_cases grouped : gid 1 = 0 ∨ 0 ∈ groups
    · simp only [superuser, grouped, if_true, if_false]
      exact ⟨by simp, by simp [superuser], fun _ user others =>
        absurd grouped (by simp [user, others])⟩
    · simp only [superuser, grouped, if_false]
      exact ⟨by simp, by simp, fun _ _ _ => ⟨trivial, sortDedup groups,
        sortDedup_increasing groups, fun g => mem_sortDedup g groups, rfl⟩⟩

/-- A service account in two groups. -/
def serviceStatus : List String :=
  ["Name:\trpi-health-mqtt", "Uid:\t995\t995\t995\t995", "Gid:\t994\t994\t994\t994",
    "FDSize:\t64", "Groups:\t44 100 "]

theorem serviceStatus_of : StatusOf serviceStatus (fun _ => 995) (fun _ => 994) [44, 100] where
  each := by
    intro line member
    have plain : ∀ line ∈ serviceStatus, '\n' ∉ line.toList ∧ line.toList.getLast? ≠ some '\r' := by
      simp [serviceStatus]
    exact ⟨(plain line member).1, (plain line member).2⟩
  uid := ⟨["Name:\trpi-health-mqtt"], _, _, rfl, by decide,
    ⟨⟨[['\t'], ['\t'], ['\t'], ['\t']], [], rfl, rfl, by simp, by simp⟩, by decide⟩⟩
  gid := ⟨["Name:\trpi-health-mqtt", "Uid:\t995\t995\t995\t995"], _, _, rfl, by decide,
    ⟨⟨[['\t'], ['\t'], ['\t'], ['\t']], [], rfl, rfl, by simp, by simp⟩, by decide⟩⟩
  groups := ⟨serviceStatus.take 4, _, [], rfl, by decide,
    ⟨⟨[['\t'], [' ']], [' '], rfl, rfl, by simp, by simp⟩, by decide⟩⟩

theorem identity_reported_service :
    let check := identityCheck (parseProcessIdentity (Text.printLines serviceStatus))
    (check.status = .failure ↔ 995 = 0) ∧
      (check.status = .warning ↔ 995 ≠ 0 ∧ (994 = 0 ∨ 0 ∈ [44, 100])) ∧
      (995 ≠ 0 → 994 ≠ 0 → 0 ∉ [44, 100] → check.status = .pass ∧
        ∃ named : List Nat, named.Pairwise (· < ·) ∧ (∀ g, g ∈ named ↔ g ∈ [44, 100]) ∧
          check.summary = "effective UID " ++ toString 995 ++ ", effective GID " ++
            toString 994 ++ ", supplementary groups [" ++
            String.intercalate ", " (named.map toString) ++ "]") :=
  identity_reported serviceStatus (fun _ => 995) (fun _ => 994) [44, 100] serviceStatus_of

end RpiHealth
