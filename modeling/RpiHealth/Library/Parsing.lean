import RpiHealth.Library.Debug
import Mathlib.Data.Nat.Digits.Defs
import Mathlib.Tactic.Ring

/-! Splitting texts into lines, words and assignments, and reading numbers, in the
manner of a systems language's string library. -/
namespace Text

/-- A line feed ends a line and takes one carriage return before it along. -/
def stripCarriageReturn (line : List Char) : List Char :=
  if line.getLast? = some '\r' then line.dropLast else line

/-- The lines of what was read of the current line and of the characters after it. -/
def linesFrom (line : List Char) : List Char → List (List Char)
  | [] => if line = [] then [] else [line]
  | c :: rest =>
    if c = '\n' then stripCarriageReturn line :: linesFrom [] rest
    else linesFrom (line ++ [c]) rest

def lines (s : String) : List String := (linesFrom [] s.toList).map String.ofList

/-- The words of what was read of the current word and of the characters after it. -/
def wordsFrom (word : List Char) : List Char → List (List Char)
  | [] => if word = [] then [] else [word]
  | c :: rest =>
    if isWhitespace c then
      if word = [] then wordsFrom [] rest else word :: wordsFrom [] rest
    else wordsFrom (word ++ [c]) rest

def words (s : String) : List String := (wordsFrom [] s.toList).map String.ofList

def splitList (mark : Char) : List Char → Option (List Char × List Char)
  | [] => none
  | c :: rest =>
    if c = mark then some ([], rest)
    else (splitList mark rest).map (fun parts => (c :: parts.1, parts.2))

/-- The text before and after the first mark. -/
def splitOnce (mark : Char) (s : String) : Option (String × String) :=
  (splitList mark s.toList).map (fun parts => (String.ofList parts.1, String.ofList parts.2))

def stripPrefix (front s : String) : Option String :=
  if front.toList.isPrefixOf s.toList then
    some (String.ofList (s.toList.drop front.toList.length))
  else none

def stripSuffix (back s : String) : Option String :=
  if back.toList.isSuffixOf s.toList then
    some (String.ofList (s.toList.take (s.toList.length - back.toList.length)))
  else none

/-- The value of a digit, in bases up to 36 and in either case. -/
def toDigit (radix : Nat) (c : Char) : Option Nat :=
  let n := c.toNat
  let digit :=
    if 48 ≤ n ∧ n ≤ 57 then some (n - 48)
    else if 97 ≤ n ∧ n ≤ 122 then some (n - 87)
    else if 65 ≤ n ∧ n ≤ 90 then some (n - 55)
    else none
  digit.filter (fun d => d < radix)

/-- The number that digits denote after those already read. -/
def digitsFrom (radix : Nat) (value : Nat) : List Char → Option Nat
  | [] => some value
  | c :: rest =>
    match toDigit radix c with
    | none => none
    | some d => digitsFrom radix (radix * value + d) rest

/-- One digit or more. -/
def digits (radix : Nat) : List Char → Option Nat
  | [] => none
  | c :: rest => digitsFrom radix 0 (c :: rest)

/-- An unsigned number of so many bits, with an optional plus sign. -/
def parseUnsigned (radix bits : Nat) (s : String) : Option Nat :=
  let number :=
    match s.toList with
    | '+' :: rest => digits radix rest
    | cs => digits radix cs
  number.filter (fun n => n < 2 ^ bits)

/-- A signed number of so many bits. -/
def parseSigned (radix bits : Nat) (s : String) : Option Int :=
  match s.toList with
  | '-' :: rest => ((digits radix rest).filter (fun n => n ≤ 2 ^ (bits - 1))).map (fun n => -(n : Int))
  | '+' :: rest => ((digits radix rest).filter (fun n => n < 2 ^ (bits - 1))).map Int.ofNat
  | cs => ((digits radix cs).filter (fun n => n < 2 ^ (bits - 1))).map Int.ofNat

/-! Lines. -/

theorem linesFrom_terminated (line cs rest : List Char) (clean : '\n' ∉ cs) :
    linesFrom line (cs ++ '\n' :: rest) = stripCarriageReturn (line ++ cs) :: linesFrom [] rest := by
  induction cs generalizing line with
  | nil => simp [linesFrom]
  | cons c cs ih =>
    have other : c ≠ '\n' := (List.ne_of_not_mem_cons clean).symm
    rw [List.cons_append, linesFrom, if_neg other, ih _ (List.not_mem_of_not_mem_cons clean),
      List.append_assoc, List.singleton_append]

theorem linesFrom_last (line cs : List Char) (clean : '\n' ∉ cs) (some_left : line ++ cs ≠ []) :
    linesFrom line cs = [line ++ cs] := by
  induction cs generalizing line with
  | nil => simp_all [linesFrom]
  | cons c cs ih =>
    have other : c ≠ '\n' := (List.ne_of_not_mem_cons clean).symm
    rw [linesFrom, if_neg other, ih _ (List.not_mem_of_not_mem_cons clean) (by simp)]
    simp

/-! Trimming. -/

/-- No whitespace at either end. -/
def Trimmed (cs : List Char) : Prop :=
  (∀ c ∈ cs.head?, isWhitespace c = false) ∧ ∀ c ∈ cs.getLast?, isWhitespace c = false

/-- Nothing but whitespace. -/
def Blank (cs : List Char) : Prop := ∀ c ∈ cs, isWhitespace c = true

def trimList (cs : List Char) : List Char :=
  (cs.dropWhile isWhitespace).rdropWhile isWhitespace

theorem toList_trim (s : String) : (trim s).toList = trimList s.toList := by
  simp [trim, trimList]

theorem blank_nil : Blank [] := by
  intro c member
  cases member

theorem blank_append (front back : List Char) (before : Blank front) (after : Blank back) :
    Blank (front ++ back) := by
  intro c member
  exact (List.mem_append.mp member).elim (before c) (after c)

theorem dropWhile_blank (front rest : List Char) (blank : Blank front) :
    (front ++ rest).dropWhile isWhitespace = rest.dropWhile isWhitespace := by
  induction front with
  | nil => rfl
  | cons c front ih =>
    have first : isWhitespace c = true := blank c (by simp)
    rw [List.cons_append, List.dropWhile_cons_of_pos first]
    exact ih (fun d member => blank d (by simp [member]))

theorem rdropWhile_blank (front back : List Char) (blank : Blank back) :
    (front ++ back).rdropWhile isWhitespace = front.rdropWhile isWhitespace := by
  have reversed : Blank back.reverse := fun c member => blank c (List.mem_reverse.mp member)
  rw [List.rdropWhile, List.rdropWhile, List.reverse_append, dropWhile_blank _ _ reversed]

theorem trimList_of_trimmed (cs : List Char) (trimmed : Trimmed cs) : trimList cs = cs := by
  have front : cs.dropWhile isWhitespace = cs := by
    cases cs with
    | nil => rfl
    | cons c rest => exact List.dropWhile_cons_of_neg (by simp [trimmed.1 c (by simp)])
  rw [trimList, front, List.rdropWhile_eq_self_iff]
  intro nonempty last
  have clean := trimmed.2 (cs.getLast nonempty) (List.getLast?_eq_getLast_of_ne_nil nonempty)
  rw [clean] at last
  contradiction

/-- Whitespace around a trimmed text goes, and the text stays. -/
theorem trimList_padded (front core back : List Char) (before : Blank front) (after : Blank back)
    (trimmed : Trimmed core) : trimList (front ++ core ++ back) = core := by
  rw [trimList, List.append_assoc, dropWhile_blank front _ before]
  cases core with
  | nil =>
    have all : back.dropWhile isWhitespace = [] := by
      have := dropWhile_blank back [] after
      simpa using this
    rw [List.nil_append, all]
    rfl
  | cons c core =>
    have first : ¬ isWhitespace c = true := by simp [trimmed.1 c (by simp)]
    have kept := trimList_of_trimmed (c :: core) trimmed
    rw [List.cons_append, List.dropWhile_cons_of_neg first, ← List.cons_append,
      rdropWhile_blank _ _ after]
    rwa [trimList, List.dropWhile_cons_of_neg first] at kept

theorem exists_padding (cs : List Char) :
    ∃ front back, Blank front ∧ Blank back ∧ cs = front ++ trimList cs ++ back := by
  let inner := cs.dropWhile isWhitespace
  refine ⟨cs.takeWhile isWhitespace, inner.rtakeWhile isWhitespace, ?_, ?_, ?_⟩
  · intro c member
    exact List.mem_takeWhile_imp member
  · intro c member
    exact List.mem_rtakeWhile_imp member
  · have ends : trimList cs ++ inner.rtakeWhile isWhitespace = inner :=
      List.rdropWhile_append_rtakeWhile
    rw [List.append_assoc, ends]
    exact (List.takeWhile_append_dropWhile).symm

/-! Splitting. -/

theorem splitList_eq_some_iff (mark : Char) (cs front back : List Char) :
    splitList mark cs = some (front, back) ↔ cs = front ++ mark :: back ∧ mark ∉ front := by
  induction cs generalizing front with
  | nil => simp [splitList]
  | cons c rest ih =>
    by_cases first : c = mark
    · subst first
      cases front with
      | nil => simp [splitList, eq_comm]
      | cons d front =>
        simp only [splitList, if_true, List.cons_append, List.cons.injEq, List.mem_cons]
        constructor
        · intro same
          simp at same
        · rintro ⟨⟨rfl, -⟩, absent⟩
          exact absurd (.inl rfl) absent
    · cases front with
      | nil =>
        simp only [splitList, if_neg first, Option.map_eq_some_iff, List.nil_append]
        constructor
        · rintro ⟨parts, -, same⟩
          simp at same
        · rintro ⟨same, -⟩
          exact absurd (List.cons.inj same).1 first
      | cons d front =>
        simp only [splitList, if_neg first, Option.map_eq_some_iff, Prod.exists, Prod.mk.injEq,
          List.cons.injEq, List.cons_append, List.mem_cons, not_or]
        constructor
        · rintro ⟨xs, ys, split, ⟨rfl, rfl⟩, rfl⟩
          obtain ⟨same, absent⟩ := (ih xs).mp split
          exact ⟨⟨rfl, same⟩, Ne.symm first, absent⟩
        · rintro ⟨⟨rfl, same⟩, -, absent⟩
          exact ⟨front, back, (ih front).mpr ⟨same, absent⟩, ⟨rfl, rfl⟩, rfl⟩

theorem splitOnce_eq_some_iff (mark : Char) (s front back : String) :
    splitOnce mark s = some (front, back) ↔
      s.toList = front.toList ++ mark :: back.toList ∧ mark ∉ front.toList := by
  rw [← splitList_eq_some_iff, splitOnce, Option.map_eq_some_iff]
  constructor
  · rintro ⟨parts, split, same⟩
    obtain ⟨rfl, rfl⟩ := Prod.mk.inj same
    simpa using split
  · intro split
    exact ⟨_, split, by simp⟩

/-! Numbers. -/

/-- The number that a list of digits denotes. -/
def denoted (radix : Nat) (cs : List Char) : Nat :=
  Nat.ofDigits radix (cs.reverse.map (fun c => (toDigit radix c).getD 0))

theorem denoted_cons (radix : Nat) (c : Char) (cs : List Char) :
    denoted radix (c :: cs) =
      denoted radix cs + radix ^ cs.length * (toDigit radix c).getD 0 := by
  simp [denoted, Nat.ofDigits_append]

theorem digitsFrom_eq_some_iff (radix value n : Nat) (cs : List Char) :
    digitsFrom radix value cs = some n ↔
      (∀ c ∈ cs, (toDigit radix c).isSome) ∧ n = radix ^ cs.length * value + denoted radix cs := by
  induction cs generalizing value with
  | nil =>
    have none_left : radix ^ ([] : List Char).length * value + denoted radix [] = value := by
      simp [denoted]
    rw [none_left, digitsFrom, Option.some.injEq]
    constructor
    · intro same
      exact ⟨fun c member => absurd member List.not_mem_nil, same.symm⟩
    · intro given
      exact given.2.symm
  | cons c rest ih =>
    rw [digitsFrom]
    cases read : toDigit radix c with
    | none => simp [read]
    | some d =>
      simp only [ih, List.mem_cons, forall_eq_or_imp, read, Option.isSome_some, true_and,
        denoted_cons, Option.getD_some, List.length_cons]
      have shift : radix ^ rest.length * (radix * value + d) + denoted radix rest =
          radix ^ (rest.length + 1) * value + (denoted radix rest + radix ^ rest.length * d) := by
        ring
      rw [shift]

theorem digits_eq_some_iff (radix n : Nat) (cs : List Char) :
    digits radix cs = some n ↔
      cs ≠ [] ∧ (∀ c ∈ cs, (toDigit radix c).isSome) ∧ n = denoted radix cs := by
  cases cs with
  | nil => simp [digits]
  | cons c rest => simp [digits, digitsFrom_eq_some_iff]

theorem stripPrefix_eq_some_iff (front s rest : String) :
    stripPrefix front s = some rest ↔ s.toList = front.toList ++ rest.toList := by
  unfold stripPrefix
  split
  · rename_i starts
    obtain ⟨tail, whole⟩ := List.isPrefixOf_iff_prefix.mp starts
    rw [← whole, List.drop_left]
    constructor
    · intro same
      rw [← Option.some.inj same, String.toList_ofList]
    · intro same
      rw [List.append_cancel_left same, String.ofList_toList]
  · rename_i other
    simp only [reduceCtorEq, false_iff]
    intro whole
    exact other (List.isPrefixOf_iff_prefix.mpr ⟨rest.toList, whole.symm⟩)

theorem digits_plus (radix : Nat) (cs : List Char) :
    digits radix ('+' :: cs) = none := by
  have foreign : toDigit radix '+' = none := rfl
  rw [digits, digitsFrom, foreign]

/-- One plus sign may stand before the digits. -/
theorem parseUnsigned_eq_some_iff (radix bits n : Nat) (s : String) :
    parseUnsigned radix bits s = some n ↔ n < 2 ^ bits ∧
      (digits radix s.toList = some n ∨ ∃ ds, s.toList = '+' :: ds ∧ digits radix ds = some n) := by
  have within (number : Option Nat) :
      number.filter (fun n => n < 2 ^ bits) = some n ↔ n < 2 ^ bits ∧ number = some n := by
    cases number with
    | none => simp
    | some m =>
      simp only [Option.filter_some, Option.ite_none_right_eq_some, decide_eq_true_eq,
        Option.some.injEq]
      constructor
      · rintro ⟨small, rfl⟩
        exact ⟨small, rfl⟩
      · rintro ⟨small, rfl⟩
        exact ⟨small, rfl⟩
  simp only [parseUnsigned]
  split
  · rename_i rest signed
    rw [within, signed, digits_plus]
    simp
  · rename_i unsigned
    rw [within]
    constructor
    · rintro ⟨small, read⟩
      exact ⟨small, .inl read⟩
    · rintro ⟨small, read | ⟨ds, signed, -⟩⟩
      · exact ⟨small, read⟩
      · exact absurd signed (unsigned ds)

theorem parseSigned_natAbs (radix bits : Nat) (s : String) (n : Int)
    (read : parseSigned radix bits s = some n) : n.natAbs ≤ 2 ^ (bits - 1) := by
  unfold parseSigned at read
  split at read
  · rename_i rest signed
    cases number : digits radix rest with
    | none =>
      rw [number] at read
      cases read
    | some m =>
      rw [number, Option.filter_some] at read
      split at read
      · rename_i small
        have value : -(m : Int) = n := Option.some.inj read
        have bounded : m ≤ 2 ^ (bits - 1) := of_decide_eq_true small
        omega
      · cases read
  · obtain ⟨m, kept, rfl⟩ := Option.map_eq_some_iff.mp read
    have small := (Option.filter_eq_some_iff.mp kept).2
    exact (of_decide_eq_true small).le
  · obtain ⟨m, kept, rfl⟩ := Option.map_eq_some_iff.mp read
    have small := (Option.filter_eq_some_iff.mp kept).2
    exact (of_decide_eq_true small).le

/-! Printed numbers are read back. -/

theorem digitsFrom_append (radix value : Nat) (xs ys : List Char) :
    digitsFrom radix value (xs ++ ys) =
      (digitsFrom radix value xs).bind (fun read => digitsFrom radix read ys) := by
  induction xs generalizing value with
  | nil => rfl
  | cons c xs ih =>
    rw [List.cons_append, digitsFrom, digitsFrom]
    cases toDigit radix c with
    | none => rfl
    | some d => exact ih _

theorem toDigit_digitChar (d : Nat) (small : d < 16) : toDigit 16 d.digitChar = some d := by
  have all : ∀ d < 16, toDigit 16 (Nat.digitChar d) = some d := by decide
  exact all d small

theorem digits_hex (n : Nat) : digits 16 (Debug.hex n) = some n := by
  suffices read : digitsFrom 16 0 (Debug.hex n) = some n by
    cases printed : Debug.hex n with
    | nil => exact absurd printed (Debug.hex_ne_nil n)
    | cons c rest => rwa [digits, ← printed]
  induction n using Nat.strong_induction_on with
  | _ n ih =>
    rw [Debug.hex_eq]
    split
    · rename_i small
      simp [digitsFrom, toDigit_digitChar n small]
    · rename_i large
      have quotient : n / 16 < n := by omega
      rw [digitsFrom_append, ih (n / 16) quotient, Option.bind_some, digitsFrom,
        toDigit_digitChar (n % 16) (by omega)]
      simp only [digitsFrom, Option.some.injEq]
      omega

/-- No sign, no capital letter. -/
theorem hex_characters (n : Nat) : ∀ c ∈ Debug.hex n, c ∈ "0123456789abcdef".toList := by
  have digit : ∀ d < 16, Nat.digitChar d ∈ "0123456789abcdef".toList := by decide
  induction n using Nat.strong_induction_on with
  | _ n ih =>
    intro c member
    rw [Debug.hex_eq] at member
    split at member
    · rename_i small
      rw [List.mem_singleton.mp member]
      exact digit n small
    · rename_i large
      rcases List.mem_append.mp member with front | last
      · exact ih (n / 16) (by omega) c front
      · rw [List.mem_singleton.mp last]
        exact digit (n % 16) (by omega)

/-- No leading zero, but for zero itself. -/
theorem hex_head (n : Nat) (zero : (Debug.hex n).head? = some '0') : Debug.hex n = ['0'] := by
  have digit : ∀ d < 16, Nat.digitChar d = '0' → d = 0 := by decide
  suffices only : n = 0 by rw [only]; rfl
  induction n using Nat.strong_induction_on with
  | _ n ih =>
    rw [Debug.hex_eq] at zero
    split at zero
    · rename_i small
      exact digit n small (Option.some.inj zero)
    · rename_i large
      rw [List.head?_append_of_ne_nil _ (Debug.hex_ne_nil _)] at zero
      have quotient := ih (n / 16) (by omega) zero
      omega

end Text
