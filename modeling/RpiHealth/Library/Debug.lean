import RpiHealth.Library.Text
import Mathlib.Data.List.Basic

/-! The quoted form in which a text is shown to a developer. It shows the whole
text: different texts look different. -/
namespace Debug

def hex (n : Nat) : List Char := Nat.toDigits 16 n

/-- Which characters are printable is a table of the Unicode version in use. -/
def escape (printable : Char → Bool) (c : Char) : List Char :=
  if c.toNat = 0 then ['\\', '0']
  else if c = '\t' then ['\\', 't']
  else if c = '\r' then ['\\', 'r']
  else if c = '\n' then ['\\', 'n']
  else if c = '"' then ['\\', '"']
  else if c = '\\' then ['\\', '\\']
  else if printable c then [c]
  else ['\\', 'u', '\x7b'] ++ hex c.toNat ++ ['\x7d']

def quote (printable : Char → Bool) (s : String) : String :=
  String.ofList ('"' :: (s.toList.flatMap (escape printable) ++ ['"']))

theorem digitChar_injective (m n : Nat) (small : m < 16) (other : n < 16)
    (same : Nat.digitChar m = Nat.digitChar n) : m = n := by
  have all : ∀ m < 16, ∀ n < 16, Nat.digitChar m = Nat.digitChar n → m = n := by decide
  exact all m small n other same

theorem hex_eq (n : Nat) :
    hex n = if n < 16 then [n.digitChar] else hex (n / 16) ++ [(n % 16).digitChar] :=
  Nat.toDigits_eq_if (by decide)

theorem hex_ne_nil (n : Nat) : hex n ≠ [] := by
  rw [hex_eq]
  split <;> simp

theorem hex_injective (m n : Nat) (same : hex m = hex n) : m = n := by
  induction m using Nat.strong_induction_on generalizing n with
  | _ m ih =>
    rw [hex_eq m, hex_eq n] at same
    split at same <;> split at same
    · exact digitChar_injective m n ‹_› ‹_› (List.cons.inj same).1
    · have lengths := congrArg List.length same
      have := List.length_pos_of_ne_nil (hex_ne_nil (n / 16))
      simp only [List.length_append, List.length_singleton] at lengths
      omega
    · have lengths := congrArg List.length same
      have := List.length_pos_of_ne_nil (hex_ne_nil (m / 16))
      simp only [List.length_append, List.length_singleton] at lengths
      omega
    · obtain ⟨front, last⟩ := List.append_inj' same rfl
      have quotient := ih (m / 16) (by omega) (n / 16) front
      have digit := digitChar_injective _ _ (Nat.mod_lt m (by decide)) (Nat.mod_lt n (by decide))
        (List.cons.inj last).1
      omega

theorem brace_not_in_hex (n : Nat) : '\x7d' ∉ hex n := by
  have digit : ∀ d < 16, '\x7d' ≠ Nat.digitChar d := by decide
  induction n using Nat.strong_induction_on with
  | _ n ih =>
    rw [hex_eq]
    split
    · simp [digit n ‹_›]
    · simp only [List.mem_append, List.mem_singleton, not_or]
      exact ⟨ih (n / 16) (by omega), digit _ (Nat.mod_lt n (by decide))⟩

/-- Two lists agree up to the first mark and after it. -/
theorem first_split (mark : Char) (xs ys rest other : List Char) (absent : mark ∉ xs)
    (missing : mark ∉ ys) (same : xs ++ mark :: rest = ys ++ mark :: other) :
    xs = ys ∧ rest = other := by
  induction xs generalizing ys with
  | nil =>
    cases ys with
    | nil => exact ⟨rfl, (List.cons.inj same).2⟩
    | cons y ys => exact absurd (List.cons.inj same).1 (List.ne_of_not_mem_cons missing)
  | cons x xs ih =>
    cases ys with
    | nil => exact absurd (List.cons.inj same).1.symm (List.ne_of_not_mem_cons absent)
    | cons y ys =>
      obtain ⟨rfl, tails⟩ := List.cons.inj same
      obtain ⟨rfl, rests⟩ := ih ys (List.not_mem_of_not_mem_cons absent)
        (List.not_mem_of_not_mem_cons missing) tails
      exact ⟨rfl, rests⟩

/-- The character that a letter after a backslash stands for. -/
def named (letter : Char) : Char :=
  if letter = '0' then Char.ofNat 0
  else if letter = 't' then '\t'
  else if letter = 'r' then '\r'
  else if letter = 'n' then '\n'
  else letter

theorem escape_cases (printable : Char → Bool) (c : Char) :
    (∃ letter, letter ≠ 'u' ∧ escape printable c = ['\\', letter] ∧ c = named letter) ∨
      (c ≠ '\\' ∧ c ≠ '"' ∧ escape printable c = [c]) ∨
      escape printable c = ['\\', 'u', '\x7b'] ++ hex c.toNat ++ ['\x7d'] := by
  unfold escape
  split
  · rename_i zero
    exact .inl ⟨'0', by decide, rfl, by rw [← Char.ofNat_toNat c, zero]; rfl⟩
  split
  · exact .inl ⟨'t', by decide, rfl, ‹_›⟩
  split
  · exact .inl ⟨'r', by decide, rfl, ‹_›⟩
  split
  · exact .inl ⟨'n', by decide, rfl, ‹_›⟩
  split
  · exact .inl ⟨'"', by decide, rfl, ‹_›⟩
  split
  · exact .inl ⟨'\\', by decide, rfl, ‹_›⟩
  split
  · exact .inr (.inl ⟨‹_›, ‹_›, rfl⟩)
  · exact .inr (.inr rfl)

/-- Whatever follows, an escaped character can be told from every other. -/
theorem escape_prefix (printable : Char → Bool) (c d : Char) (rest other : List Char)
    (same : escape printable c ++ rest = escape printable d ++ other) : c = d ∧ rest = other := by
  rcases escape_cases printable c with ⟨m, notU, short, is⟩ | ⟨plain, -, self⟩ | long <;>
    rcases escape_cases printable d with ⟨m', notU', short', is'⟩ | ⟨plain', -, self'⟩ | long'
  · rw [short, short'] at same
    simp only [List.cons_append, List.nil_append, List.cons.injEq, true_and] at same
    exact ⟨by rw [is, is', same.1], same.2⟩
  · rw [short, self'] at same
    exact absurd (List.cons.inj same).1.symm plain'
  · rw [short, long'] at same
    simp only [List.cons_append, List.nil_append, List.cons.injEq, true_and] at same
    exact absurd same.1 notU
  · rw [self, short'] at same
    exact absurd (List.cons.inj same).1 plain
  · rw [self, self'] at same
    exact List.cons.inj same
  · rw [self, long'] at same
    exact absurd (List.cons.inj same).1 plain
  · rw [long, short'] at same
    simp only [List.cons_append, List.nil_append, List.cons.injEq, true_and] at same
    exact absurd same.1.symm notU'
  · rw [long, self'] at same
    exact absurd (List.cons.inj same).1.symm plain'
  · rw [long, long'] at same
    simp only [List.append_assoc, List.cons_append, List.nil_append, List.cons.injEq, true_and]
      at same
    obtain ⟨codes, rests⟩ := first_split '\x7d' _ _ rest other (brace_not_in_hex _)
      (brace_not_in_hex _) same
    exact ⟨Char.toNat_inj.mp (hex_injective _ _ codes), rests⟩

theorem escape_ne_quote (printable : Char → Bool) (c : Char) (rest other : List Char) :
    escape printable c ++ rest ≠ '"' :: other := by
  rcases escape_cases printable c with ⟨m, -, short, -⟩ | ⟨-, notQuote, self⟩ | long
  · simp [short]
  · simp [self, notQuote]
  · simp [long]

theorem quote_injective (printable : Char → Bool) (s t : String)
    (same : quote printable s = quote printable t) : s = t := by
  suffices general : ∀ cs ds : List Char,
      cs.flatMap (escape printable) ++ ['"'] = ds.flatMap (escape printable) ++ ['"'] →
      cs = ds by
    rw [← String.toList_inj]
    refine general _ _ ?_
    have lists := congrArg String.toList same
    simpa [quote] using lists
  intro cs
  induction cs with
  | nil =>
    intro ds same
    cases ds with
    | nil => rfl
    | cons d ds =>
      rw [List.flatMap_cons, List.append_assoc] at same
      exact absurd same.symm (escape_ne_quote printable d _ _)
  | cons c cs ih =>
    intro ds same
    rw [List.flatMap_cons, List.append_assoc] at same
    cases ds with
    | nil => exact absurd same (escape_ne_quote printable c _ _)
    | cons d ds =>
      rw [List.flatMap_cons, List.append_assoc] at same
      obtain ⟨rfl, rest⟩ := escape_prefix printable c d _ _ same
      rw [ih ds rest]

end Debug
