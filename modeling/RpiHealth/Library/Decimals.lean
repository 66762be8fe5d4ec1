import RpiHealth.Library.F64
import RpiHealth.Library.Printing

/-! Numbers with a fixed number of decimal places, as a program prints them, and the
number that is read back. -/
namespace Text

/-- The decimal digits with zeros before them, up to a width. -/
def padded (width n : Nat) : List Char :=
  List.replicate (width - (toString n).toList.length) '0' ++ (toString n).toList

/-- So many units, of which `10 ^ places` make one. -/
def fixedPoint (places units : Nat) : String :=
  toString (units / 10 ^ places) ++ "." ++ String.ofList (padded places (units % 10 ^ places))

theorem toString_toDigits (n : Nat) : (toString n).toList = Nat.toDigits 10 n := by
  rw [Nat.toString_eq_ofList_toDigits, String.toList_ofList]

theorem toString_length (width n : Nat) (positive : 0 < width) (small : n < 10 ^ width) :
    (toString n).toList.length ≤ width := by
  rw [toString_toDigits]
  exact (Nat.length_toDigits_le_iff (by decide) positive).mpr small

theorem padded_length (width n : Nat) (positive : 0 < width) (small : n < 10 ^ width) :
    (padded width n).length = width := by
  have short := toString_length width n positive small
  rw [padded, List.length_append, List.length_replicate]
  omega

theorem padded_digits (width n : Nat) : ∀ c ∈ padded width n, c.isDigit = true := by
  intro c member
  rcases List.mem_append.mp member with zero | digit
  · rw [(List.mem_replicate.mp zero).2]
    rfl
  · exact toString_digits n c digit

/-- Digits after those of another number. -/
theorem ofDigitChars_padded (width value n : Nat) (positive : 0 < width)
    (small : n < 10 ^ width) :
    Nat.ofDigitChars 10 (padded width n) value = 10 ^ width * value + n := by
  have short := toString_length width n positive small
  rw [padded, Nat.ofDigitChars_append, Nat.ofDigitChars_replicate_zero,
    Nat.ofDigitChars_eq_ofDigitChars_zero, toString_toDigits, Nat.ofDigitChars_ten_toDigits,
    ← mul_assoc, ← pow_add]
  rw [toString_toDigits] at short
  rw [Nat.add_sub_cancel' short]

theorem digits_decimal (cs : List Char) (filled : cs ≠ []) (all : ∀ c ∈ cs, c.isDigit = true) :
    digits 10 cs = some (Nat.ofDigitChars 10 cs 0) := by
  obtain ⟨c, rest, rfl⟩ := List.exists_cons_of_ne_nil filled
  rw [digits]
  exact digitsFrom_decimal (c :: rest) 0 all

/-- The digits before and after the point are those of all units. -/
theorem digits_fixedPoint (places units : Nat) (positive : 0 < places) :
    digits 10 ((toString (units / 10 ^ places)).toList ++ padded places (units % 10 ^ places)) =
      some units := by
  have small : units % 10 ^ places < 10 ^ places := Nat.mod_lt _ (Nat.pow_pos (by decide))
  rw [digits_decimal _ (by simp)]
  · rw [Nat.ofDigitChars_append, toString_toDigits, Nat.ofDigitChars_ten_toDigits,
      ofDigitChars_padded _ _ _ positive small, Nat.div_add_mod]
  · intro c member
    exact (List.mem_append.mp member).elim (toString_digits _ c) (padded_digits _ _ c)

theorem fixedPoint_toList (places units : Nat) :
    (fixedPoint places units).toList =
      (toString (units / 10 ^ places)).toList ++ '.' :: padded places (units % 10 ^ places) := by
  simp [fixedPoint]

theorem fixedPoint_characters (places units : Nat) :
    ∀ c ∈ (fixedPoint places units).toList, c.isDigit = true ∨ c = '.' := by
  intro c member
  rw [fixedPoint_toList, List.mem_append, List.mem_cons] at member
  rcases member with digit | point | digit
  · exact .inl (toString_digits _ c digit)
  · exact .inr point
  · exact .inl (padded_digits _ _ c digit)

end Text

namespace F64
open Text

/-- A text that starts with a digit is no sign and no name. -/
theorem parse_digit (cs : List Char) (c : Char) (rest : List Char) (split : cs = c :: rest)
    (digit : c.isDigit = true) :
    parse (String.ofList cs) = (decimal cs).map (ofMagnitude false) := by
  obtain ⟨low, high⟩ := digit_code c digit
  have same : lower c = c := by
    rw [lower, if_neg (by omega)]
  have named (word : List Char) (first : Char) (letter : 57 < first.toNat) :
      String.ofList ((c :: rest).map lower) ≠ String.ofList (first :: word) := by
    intro equal
    rw [String.ofList_inj, List.map_cons, same] at equal
    have heads := (List.cons.inj equal).1
    rw [heads] at high
    omega
  have minus : c ≠ '-' := by
    rintro rfl
    exact absurd low (by decide)
  have plus : c ≠ '+' := by
    rintro rfl
    exact absurd low (by decide)
  subst split
  have unsigned_eq : unsigned false (c :: rest) = (decimal (c :: rest)).map (ofMagnitude false) := by
    simp only [unsigned]
    rw [if_neg, if_neg]
    · exact named _ 'n' (by decide)
    · rintro (short | long)
      · exact named _ 'i' (by decide) short
      · exact named _ 'i' (by decide) long
  rw [parse, String.toList_ofList, ← unsigned_eq]
  split
  · rename_i equal
    exact absurd (List.cons.inj equal).1 minus
  · rename_i equal
    exact absurd (List.cons.inj equal).1 plus
  · rfl

theorem decimal_plain (cs : List Char) (plain : ∀ c ∈ cs, c.isDigit = true ∨ c = '.') :
    decimal cs = mantissa cs := by
  have unexponed : ∀ c ∈ cs, (!(c == 'e' || c == 'E')) = true := by
    intro c member
    rcases plain c member with digit | rfl
    · have := digit_code c digit
      have small : c ≠ 'e' := by
        rintro rfl
        exact absurd this.2 (by decide)
      have capital : c ≠ 'E' := by
        rintro rfl
        exact absurd this.2 (by decide)
      simp [small, capital]
    · decide
  have whole : cs.span (fun c => !(c == 'e' || c == 'E')) = (cs, []) := by
    rw [List.span_eq_takeWhile_dropWhile, List.takeWhile_eq_self_iff.mpr unexponed,
      List.dropWhile_eq_nil_iff.mpr unexponed]
  rw [decimal, whole]

/-- What is printed with decimal places is read as the number of units over their size. -/
theorem parse_fixedPoint (places units : Nat) (positive : 0 < places) :
    parse (fixedPoint places units) = some (ofMagnitude false ((units : ℚ≥0) / 10 ^ places)) := by
  have printed := fixedPoint_toList places units
  obtain ⟨c, rest, first⟩ := List.exists_cons_of_ne_nil (toString_nonempty (units / 10 ^ places))
  have digit : c.isDigit = true := 
    toString_digits (units / 10 ^ places) c (first ▸ List.mem_cons_self)
  have small : units % 10 ^ places < 10 ^ places := Nat.mod_lt _ (Nat.pow_pos (by decide))
  have split : splitList '.' (fixedPoint places units).toList =
      some ((toString (units / 10 ^ places)).toList, padded places (units % 10 ^ places)) := by
    rw [splitList_eq_some_iff]
    refine ⟨printed, fun point => ?_⟩
    exact absurd (toString_digits _ _ point) (by decide)
  have parsed := parse_digit (fixedPoint places units).toList c
    (rest ++ '.' :: padded places (units % 10 ^ places)) (by rw [printed, first]; rfl) digit
  rw [String.ofList_toList] at parsed
  rw [parsed, decimal_plain _ (fixedPoint_characters places units), mantissa, split]
  simp only [digits_fixedPoint places units positive, padded_length _ _ positive small]
  rfl

end F64
