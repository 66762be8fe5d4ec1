import Mathlib.Algebra.Order.Ring.Nat
import Mathlib.Data.List.DropRight
import Mathlib.Data.List.Infix

/-! Text operations in the manner of a systems language's string library: the
Unicode classes they test and the byte lengths they measure. -/
namespace Text

/-- The White_Space property. -/
def isWhitespace (c : Char) : Bool :=
  let n := c.toNat
  (9 ≤ n && n ≤ 13) || n == 32 || n == 0x85 || n == 0xA0 || n == 0x1680 ||
    (0x2000 ≤ n && n ≤ 0x200A) || n == 0x2028 || n == 0x2029 || n == 0x202F || n == 0x205F ||
    n == 0x3000

/-- General category Cc. -/
def isControl (c : Char) : Bool :=
  let n := c.toNat
  n ≤ 0x1F || (0x7F ≤ n && n ≤ 0x9F)

def isAsciiAlphanumeric (c : Char) : Bool :=
  let n := c.toNat
  (48 ≤ n && n ≤ 57) || (65 ≤ n && n ≤ 90) || (97 ≤ n && n ≤ 122)

def trim (s : String) : String :=
  String.ofList ((s.toList.dropWhile isWhitespace).rdropWhile isWhitespace)

def trimEndMatches (c : Char) (s : String) : String :=
  String.ofList (s.toList.rdropWhile (· == c))

def startsWith (c : Char) (s : String) : Bool := s.toList.head? == some c

def endsWith (c : Char) (s : String) : Bool := s.toList.getLast? == some c

def contains (pattern s : String) : Bool := decide (pattern.toList <:+: s.toList)

/-- Bytes of the UTF-8 encoding. -/
def size (s : String) : Nat := s.utf8ByteSize

@[simp] theorem size_append (s t : String) : size (s ++ t) = size s + size t :=
  String.utf8ByteSize_append

@[simp] theorem size_empty : size "" = 0 := rfl

theorem size_ofList (cs : List Char) : size (String.ofList cs) = (cs.map Char.utf8Size).sum := by
  induction cs with
  | nil => rfl
  | cons c rest ih =>
    have first : String.ofList (c :: rest) = String.singleton c ++ String.ofList rest := by
      rw [← String.toList_inj]
      simp
    rw [first, size_append, ih]
    simp [size, String.utf8ByteSize_singleton]

theorem size_eq_sum (s : String) : size s = (s.toList.map Char.utf8Size).sum := by
  rw [← size_ofList, String.ofList_toList]

theorem trimEndMatches_of_not_endsWith (c : Char) (s : String) (clean : endsWith c s = false) :
    trimEndMatches c s = s := by
  have kept : s.toList.rdropWhile (· == c) = s.toList := by
    rw [List.rdropWhile_eq_self_iff]
    intro nonempty last
    have same : s.toList.getLast nonempty = c := by simpa using last
    simp [endsWith, List.getLast?_eq_getLast_of_ne_nil nonempty, same] at clean
  rw [trimEndMatches, kept, String.ofList_toList]

/-- A join can be read in one way only where no second part ends in the separator and the
other. -/
theorem join_unique {A : Type} (separator : A) (first second key other : List A)
    (forward : ¬ separator :: key <:+ other) (backward : ¬ separator :: other <:+ key)
    (same : first ++ separator :: key = second ++ separator :: other) :
    first = second ∧ key = other := by
  have left : separator :: key <:+ second ++ separator :: other :=
    same ▸ List.suffix_append first (separator :: key)
  have right : separator :: other <:+ second ++ separator :: other :=
    List.suffix_append second (separator :: other)
  have tails : separator :: key = separator :: other := by
    -- both end the same list, so the shorter one ends the longer one
    rcases List.suffix_or_suffix_of_suffix left right with shorter | longer
    · exact (List.suffix_cons_iff.mp shorter).resolve_right forward
    · exact ((List.suffix_cons_iff.mp longer).resolve_right backward).symm
  rw [tails] at same
  exact ⟨List.append_cancel_right same, (List.cons.inj tails).2⟩

theorem join_unique_last {A : Type} (separator : A) (first second key other : List A)
    (absent : separator ∉ key) (absent_other : separator ∉ other)
    (same : first ++ separator :: key = second ++ separator :: other) :
    first = second ∧ key = other :=
  join_unique separator first second key other
    (fun ends => absent_other (ends.subset List.mem_cons_self))
    (fun ends => absent (ends.subset List.mem_cons_self)) same

/-- The first bytes of a text, where the cut falls between two characters. -/
def sliceTo : List Char → Nat → Option (List Char)
  | _, 0 => some []
  | [], _ + 1 => none
  | c :: rest, n + 1 =>
    if c.utf8Size ≤ n + 1 then (sliceTo rest (n + 1 - c.utf8Size)).map (c :: ·) else none

theorem sliceTo_ascii (cs : List Char) (ascii : ∀ c ∈ cs, c.utf8Size = 1) (n : Nat)
    (inside : n ≤ cs.length) : sliceTo cs n = some (cs.take n) := by
  induction cs generalizing n with
  | nil =>
    cases n with
    | zero => rfl
    | succ n => simp at inside
  | cons c rest ih =>
    cases n with
    | zero => rfl
    | succ n =>
      have here := ascii c List.mem_cons_self
      have later := ih (fun d member => ascii d (List.mem_cons_of_mem c member)) n
        (Nat.le_of_succ_le_succ inside)
      simp [sliceTo, here, later]

/-! The bytes of a text. -/

theorem bytes_ofList (cs : List Char) :
    (String.ofList cs).toUTF8.data.toList = cs.flatMap String.utf8EncodeChar := by
  simp [List.utf8Encode]

theorem encode_ascii (c : Char) (ascii : c.toNat < 128) :
    String.utf8EncodeChar c = [UInt8.ofNat c.toNat] := by
  have all : ∀ n < 128, String.utf8EncodeChar (Char.ofNat n) = [UInt8.ofNat n] := by
    decide +kernel
  simpa using all c.toNat ascii

/-- No byte of a character beyond ASCII is an ASCII byte. -/
theorem encode_high (c : Char) (high : 128 ≤ c.toNat) :
    ∀ b ∈ String.utf8EncodeChar c, 128 ≤ b.toNat := by
  intro b member
  have beyond : ¬ c.val.toNat ≤ 127 := by
    have : c.val.toNat = c.toNat := rfl
    omega
  have byte (n : Nat) (low : 128 ≤ n) (small : n < 256) : 128 ≤ (UInt8.ofNat n).toNat := by
    rw [UInt8.toNat_ofNat', Nat.mod_eq_of_lt small]
    exact low
  unfold String.utf8EncodeChar at member
  simp only [beyond, if_false] at member
  split at member
  · simp only [List.mem_cons, List.not_mem_nil, or_false] at member
    rcases member with rfl | rfl <;> exact byte _ (by omega) (by omega)
  · split at member
    · simp only [List.mem_cons, List.not_mem_nil, or_false] at member
      rcases member with rfl | rfl | rfl <;> exact byte _ (by omega) (by omega)
    · simp only [List.mem_cons, List.not_mem_nil, or_false] at member
      rcases member with rfl | rfl | rfl | rfl <;> exact byte _ (by omega) (by omega)

/-- The bytes end in an ASCII byte exactly where the text ends in that character. -/
theorem ends_ascii (cs : List Char) (a : Char) (ascii : a.toNat < 128) :
    [UInt8.ofNat a.toNat] <:+ cs.flatMap String.utf8EncodeChar ↔ [a] <:+ cs := by
  cases cs using List.reverseRecOn with
  | nil => simp
  | append_singleton front c =>
    rw [List.flatMap_append, List.flatMap_singleton, List.singleton_suffix_append_singleton_iff]
    by_cases plain : c.toNat < 128
    · rw [encode_ascii c plain, List.singleton_suffix_append_singleton_iff]
      constructor
      · intro same
        have numbers := congrArg UInt8.toNat same
        rw [UInt8.toNat_ofNat', UInt8.toNat_ofNat', Nat.mod_eq_of_lt (by omega),
          Nat.mod_eq_of_lt (by omega)] at numbers
        exact Char.toNat_inj.mp numbers
      · rintro rfl
        rfl
    · constructor
      · intro ends
        rw [List.singleton_suffix_iff_getLast?_eq_some, List.getLast?_append_of_ne_nil _
          String.utf8EncodeChar_ne_nil] at ends
        have large := encode_high c (by omega) _ (List.mem_of_getLast? ends)
        rw [UInt8.toNat_ofNat', Nat.mod_eq_of_lt (by omega)] at large
        omega
      · rintro rfl
        omega

end Text
