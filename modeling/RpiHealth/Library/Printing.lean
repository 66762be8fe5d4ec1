import RpiHealth.Library.Parsing

/-! What a text printed line by line and field by field is read back as. Fields are
runs of characters without a blank; a blank is whatever the reader takes for one. -/
namespace Text

/-- The words of what was read of the current word and of the characters after it. -/
def wordsByFrom (blank : Char → Bool) (word : List Char) : List Char → List (List Char)
  | [] => if word = [] then [] else [word]
  | c :: rest =>
    if blank c then
      if word = [] then wordsByFrom blank [] rest else word :: wordsByFrom blank [] rest
    else wordsByFrom blank (word ++ [c]) rest

def isAsciiWhitespace (c : Char) : Bool := [' ', '\t', '\n', '\x0c', '\r'].contains c

def asciiWords (s : String) : List String :=
  (wordsByFrom isAsciiWhitespace [] s.toList).map String.ofList

theorem wordsFrom_eq (word cs : List Char) :
    wordsFrom word cs = wordsByFrom isWhitespace word cs := by
  induction cs generalizing word with
  | nil => rfl
  | cons c rest ih => simp only [wordsFrom, wordsByFrom, ih]

section

variable (blank : Char → Bool)

/-- A field that a reader finds whole. -/
structure Solid (word : List Char) : Prop where
  nonempty : word ≠ []
  unbroken : ∀ c ∈ word, blank c = false

theorem wordsBy_blank (front rest : List Char) (all : ∀ c ∈ front, blank c = true) :
    wordsByFrom blank [] (front ++ rest) = wordsByFrom blank [] rest := by
  induction front with
  | nil => rfl
  | cons c front ih =>
    rw [List.cons_append, wordsByFrom, if_pos (all c List.mem_cons_self), if_pos rfl]
    exact ih (fun d member => all d (List.mem_cons_of_mem c member))

theorem wordsBy_unbroken (word begun rest : List Char)
    (unbroken : ∀ c ∈ begun, blank c = false) :
    wordsByFrom blank word (begun ++ rest) = wordsByFrom blank (word ++ begun) rest := by
  induction begun generalizing word with
  | nil => simp
  | cons c begun ih =>
    rw [List.cons_append, wordsByFrom, unbroken c List.mem_cons_self,
      if_neg Bool.false_ne_true, ih _ (fun d member => unbroken d (List.mem_cons_of_mem c member)),
      List.append_assoc, List.singleton_append]

/-- A field at the front, with a blank or nothing behind it. -/
theorem wordsBy_word (word rest : List Char) (solid : Solid blank word)
    (apart : ∀ c ∈ rest.head?, blank c = true) :
    wordsByFrom blank [] (word ++ rest) = word :: wordsByFrom blank [] rest := by
  rw [wordsBy_unbroken blank [] word rest solid.unbroken, List.nil_append]
  cases rest with
  | nil => simp [wordsByFrom, solid.nonempty]
  | cons c rest => simp [wordsByFrom, solid.nonempty, apart c (by simp)]

/-- A list of fields, each behind one blank or more. -/
def spread (fields : List (List Char × List Char)) : List Char :=
  fields.flatMap (fun field => field.1 ++ field.2)

structure Spaced (field : List Char × List Char) : Prop where
  apart : field.1 ≠ []
  blanks : ∀ c ∈ field.1, blank c = true
  solid : Solid blank field.2

theorem wordsBy_spread (fields : List (List Char × List Char)) (back : List Char)
    (spaced : ∀ field ∈ fields, Spaced blank field) (trailing : ∀ c ∈ back, blank c = true) :
    wordsByFrom blank [] (spread fields ++ back) = fields.map Prod.snd := by
  induction fields with
  | nil =>
    have nothing := wordsBy_blank blank back [] trailing
    rwa [List.append_nil] at nothing
  | cons field rest ih =>
    have here := spaced field List.mem_cons_self
    have others := ih (fun other member => spaced other (List.mem_cons_of_mem field member))
    rw [spread, List.flatMap_cons, List.append_assoc, List.append_assoc,
      wordsBy_blank blank _ _ here.blanks, wordsBy_word blank _ _ here.solid ?_, List.map_cons]
    · exact congrArg (field.2 :: ·) others
    · intro c first
      cases rest with
      | nil =>
        rw [List.flatMap_nil, List.nil_append] at first
        exact trailing c (List.mem_of_mem_head? first)
      | cons next later =>
        have there := spaced next (by simp)
        obtain ⟨d, separator, split⟩ := List.exists_cons_of_ne_nil there.apart
        rw [List.flatMap_cons, split] at first
        obtain rfl : d = c := by simpa using first
        exact there.blanks d (by simp [split])

end

/-! Words of a text. -/

/-- What can be seen of ASCII is no whitespace. -/
theorem solid_visible (word : List Char) (filled : word ≠ [])
    (visible : ∀ c ∈ word, 33 ≤ c.toNat ∧ c.toNat ≤ 126) : Solid isWhitespace word where
  nonempty := filled
  unbroken c member := by
    have code := visible c member
    simp only [isWhitespace, Bool.or_eq_false_iff, Bool.and_eq_false_iff, decide_eq_false_iff_not,
      beq_eq_false_iff_ne]
    omega

theorem words_cons (word rest : List Char) (solid : Solid isWhitespace word)
    (apart : ∀ c ∈ rest.head?, isWhitespace c = true) :
    words (String.ofList (word ++ rest)) = String.ofList word :: words (String.ofList rest) := by
  rw [words, words, String.toList_ofList, String.toList_ofList, wordsFrom_eq, wordsFrom_eq,
    wordsBy_word isWhitespace word rest solid apart, List.map_cons]

theorem words_blank (front rest : List Char) (blank : Blank front) :
    words (String.ofList (front ++ rest)) = words (String.ofList rest) := by
  rw [words, words, String.toList_ofList, String.toList_ofList, wordsFrom_eq, wordsFrom_eq,
    wordsBy_blank isWhitespace front rest blank]

/-- A word at the front of a text. -/
theorem words_field (word rest : String) (solid : Solid isWhitespace word.toList) :
    words (word ++ " " ++ rest) = word :: words rest := by
  have split : word ++ " " ++ rest = String.ofList (word.toList ++ ([' '] ++ rest.toList)) := by
    rw [← String.toList_inj]
    simp
  rw [split, words_cons _ _ solid (by simp [isWhitespace]), String.ofList_toList,
    words_blank [' '] _ (by simp [Blank, isWhitespace]), String.ofList_toList]

/-- A word on a line of its own. -/
theorem words_line (word : String) (solid : Solid isWhitespace word.toList) :
    words (word ++ "\n") = [word] := by
  have split : word ++ "\n" = String.ofList (word.toList ++ ['\n']) := by
    rw [← String.toList_inj]
    simp
  rw [split, words_cons _ _ solid (by simp [isWhitespace]), String.ofList_toList]
  rfl

theorem words_spread (fields : List (List Char × List Char)) (back : List Char)
    (spaced : ∀ field ∈ fields, Spaced isWhitespace field) (trailing : Blank back) :
    words (String.ofList (spread fields ++ back)) =
      fields.map (fun field => String.ofList field.2) := by
  rw [words, String.toList_ofList, wordsFrom_eq,
    wordsBy_spread isWhitespace fields back spaced trailing, List.map_map]
  rfl

/-! Lines. -/

/-- A line that is read back as it was printed. -/
structure OneLine (line : List Char) : Prop where
  unbroken : '\n' ∉ line
  plain : line.getLast? ≠ some '\r'

theorem oneLine_printable (line : List Char) (printable : ∀ c ∈ line, 32 ≤ c.toNat) :
    OneLine line where
  unbroken inside := absurd (printable _ inside) (by decide)
  plain last := absurd (printable _ (List.mem_of_getLast? last)) (by decide)

def printLines (lines : List String) : String :=
  String.ofList (lines.flatMap (fun line => line.toList ++ ['\n']))

theorem lines_printLines (printed : List String) (each : ∀ line ∈ printed, OneLine line.toList) :
    lines (printLines printed) = printed := by
  rw [lines, printLines, String.toList_ofList]
  induction printed with
  | nil => rfl
  | cons line rest ih =>
    have here := each line List.mem_cons_self
    rw [List.flatMap_cons, List.append_assoc, List.singleton_append,
      linesFrom_terminated _ _ _ here.unbroken, List.nil_append, stripCarriageReturn,
      if_neg here.plain, List.map_cons, String.ofList_toList,
      ih (fun other member => each other (List.mem_cons_of_mem line member))]

/-! Decimal numbers. -/

theorem digit_code (c : Char) (digit : c.isDigit = true) : 48 ≤ c.toNat ∧ c.toNat ≤ 57 := by
  simp only [Char.isDigit, Bool.and_eq_true, decide_eq_true_eq, UInt32.le_iff_toNat_le] at digit
  exact digit

theorem digitsFrom_decimal (cs : List Char) (value : Nat) (all : ∀ c ∈ cs, c.isDigit = true) :
    digitsFrom 10 value cs = some (Nat.ofDigitChars 10 cs value) := by
  induction cs generalizing value with
  | nil => rw [digitsFrom, Nat.ofDigitChars_nil]
  | cons c cs ih =>
    obtain ⟨low, high⟩ := digit_code c (all c List.mem_cons_self)
    have read : toDigit 10 c = some (c.toNat - 48) := by
      simp only [toDigit, if_pos (And.intro low high), Option.filter_some,
        Option.ite_none_right_eq_some, decide_eq_true_eq, and_true]
      omega
    rw [digitsFrom, read, Nat.ofDigitChars_cons]
    exact ih _ (fun d member => all d (List.mem_cons_of_mem c member))

theorem toString_digits (n : Nat) : ∀ c ∈ (toString n).toList, c.isDigit = true := by
  intro c member
  rw [Nat.toString_eq_ofList_toDigits, String.toList_ofList] at member
  exact Nat.isDigit_of_mem_toDigits (by decide) (by decide) member

theorem toString_nonempty (n : Nat) : (toString n).toList ≠ [] := by
  rw [Nat.toString_eq_ofList_toDigits, String.toList_ofList]
  exact Nat.toDigits_ne_nil

theorem toString_visible (n : Nat) : ∀ c ∈ (toString n).toList, 48 ≤ c.toNat ∧ c.toNat ≤ 57 :=
  fun c member => digit_code c (toString_digits n c member)

theorem solid_toString (n : Nat) : Solid isWhitespace (toString n).toList :=
  solid_visible _ (toString_nonempty n) (fun c member => by
    have := toString_visible n c member
    omega)

theorem digits_toString (n : Nat) : digits 10 (toString n).toList = some n := by
  obtain ⟨c, rest, whole⟩ := List.exists_cons_of_ne_nil (toString_nonempty n)
  have read := digitsFrom_decimal (toString n).toList 0 (toString_digits n)
  have shown : (toString n).toList = Nat.toDigits 10 n := by
    rw [Nat.toString_eq_ofList_toDigits, String.toList_ofList]
  rw [shown, Nat.ofDigitChars_ten_toDigits, ← shown, whole] at read
  rw [whole]
  exact read

theorem parseUnsigned_toString (bits n : Nat) (fits : n < 2 ^ bits) :
    parseUnsigned 10 bits (toString n) = some n :=
  (parseUnsigned_eq_some_iff 10 bits n (toString n)).mpr ⟨fits, .inl (digits_toString n)⟩

def signed (n : Int) : String :=
  if n < 0 then "-" ++ toString n.natAbs else toString n.natAbs

theorem solid_signed (n : Int) : Solid isWhitespace (signed n).toList := by
  apply solid_visible
  · unfold signed
    split
    · simp
    · exact toString_nonempty _
  · intro c member
    have digit (inside : c ∈ (toString n.natAbs).toList) : 33 ≤ c.toNat ∧ c.toNat ≤ 126 := by
      have := toString_visible n.natAbs c inside
      omega
    unfold signed at member
    split at member
    · rw [String.toList_append, List.mem_append] at member
      rcases member with sign | inside
      · obtain rfl : c = '-' := by simpa using sign
        decide
      · exact digit inside
    · exact digit member

theorem parseSigned_signed (bits : Nat) (n : Int) (low : -2 ^ (bits - 1) ≤ n)
    (high : n < 2 ^ (bits - 1)) : parseSigned 10 bits (signed n) = some n := by
  have read := digits_toString n.natAbs
  by_cases negative : n < 0
  · have small : n.natAbs ≤ 2 ^ (bits - 1) := by
      zify
      rw [abs_of_neg negative]
      omega
    have shown : (signed n).toList = '-' :: (toString n.natAbs).toList := by
      simp [signed, negative]
    have value : -(n.natAbs : Int) = n := by omega
    simp only [parseSigned, shown, read, Option.filter_some, small, decide_true, if_true]
    exact congrArg some value
  · have small : n.natAbs < 2 ^ (bits - 1) := by
      zify
      rw [abs_of_nonneg (Int.not_lt.mp negative)]
      exact high
    have shown : (signed n).toList = (toString n.natAbs).toList := by
      rw [signed, if_neg negative]
    obtain ⟨c, rest, first⟩ := List.exists_cons_of_ne_nil (toString_nonempty n.natAbs)
    have code := toString_visible n.natAbs c (first ▸ List.mem_cons_self)
    rw [first] at read
    unfold parseSigned
    rw [shown, first]
    split
    · rename_i same
      rw [(List.cons.inj same).1] at code
      exact absurd code.1 (by decide)
    · rename_i same
      rw [(List.cons.inj same).1] at code
      exact absurd code.1 (by decide)
    · have value : (n.natAbs : Int) = n := by omega
      simp only [read, Option.filter_some, small, decide_true, if_true]
      exact congrArg some value

end Text
