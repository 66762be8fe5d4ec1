import RpiHealth.Metrics.Cpu
import RpiHealth.Telemetry.State
import Mathlib.Data.Nat.Bitwise

/-! The throttling mask of the firmware: its text, its number and its flags. -/
namespace RpiHealth

def THROTTLED_OUTPUT : String := "vcgencmd get_throttled"

structure ThrottledStatus where
  raw : Nat
  undervoltageNow : Bool
  armFrequencyCappedNow : Bool
  throttledNow : Bool
  softTemperatureLimitNow : Bool
  undervoltageSinceBoot : Bool
  armFrequencyCappedSinceBoot : Bool
  throttledSinceBoot : Bool
  softTemperatureLimitSinceBoot : Bool
  deriving DecidableEq, Repr

def ThrottledStatus.rawHex (s : ThrottledStatus) : String :=
  "0x" ++ String.ofList (Debug.hex s.raw)

def hasBit (value bit : Nat) : Bool := value &&& (1 <<< bit) != 0

def parseThrottled (input : String) : Except ParseError ThrottledStatus := do
  let (key, rawValue) ← okOr (Text.splitOnce '=' (Text.trim input))
    ⟨THROTTLED_OUTPUT, "the assignment is missing"⟩
  ensure (Text.trim key = "throttled")
    ⟨THROTTLED_OUTPUT, "the expected throttled key is missing"⟩
  let rawValue := Text.trim rawValue
  let hexadecimal ← okOr
    ((Text.stripPrefix "0x" rawValue).orElse (fun _ => Text.stripPrefix "0X" rawValue))
    ⟨THROTTLED_OUTPUT, "the value must have a 0x prefix"⟩
  ensure (hexadecimal ≠ "") ⟨THROTTLED_OUTPUT, "the hexadecimal value is empty"⟩
  -- the radix parser takes a plus sign, too
  let raw ← okOr (Text.parseUnsigned 16 32 hexadecimal)
    ⟨THROTTLED_OUTPUT, "the value is not a 32-bit hexadecimal mask"⟩
  return {
    raw := raw
    undervoltageNow := hasBit raw 0
    armFrequencyCappedNow := hasBit raw 1
    throttledNow := hasBit raw 2
    softTemperatureLimitNow := hasBit raw 3
    undervoltageSinceBoot := hasBit raw 16
    armFrequencyCappedSinceBoot := hasBit raw 17
    throttledSinceBoot := hasBit raw 18
    softTemperatureLimitSinceBoot := hasBit raw 19 }

def powerMetrics (status : ThrottledStatus) : PowerMetrics where
  throttledRaw := some status.rawHex
  undervoltageNow := some status.undervoltageNow
  armFrequencyCappedNow := some status.armFrequencyCappedNow
  throttledNow := some status.throttledNow
  softTemperatureLimitNow := some status.softTemperatureLimitNow
  undervoltageSinceBoot := some status.undervoltageSinceBoot
  armFrequencyCappedSinceBoot := some status.armFrequencyCappedSinceBoot
  throttledSinceBoot := some status.throttledSinceBoot
  softTemperatureLimitSinceBoot := some status.softTemperatureLimitSinceBoot

/-! The grammar of the firmware's answer. -/

def isHexDigit (c : Char) : Bool :=
  let n := c.toNat
  (48 ≤ n && n ≤ 57) || (97 ≤ n && n ≤ 102) || (65 ≤ n && n ≤ 70)

/-- The input assigns this value to `throttled`, with whitespace around the parts. -/
def Assigns (input : String) (value : List Char) : Prop :=
  ∃ before around around' after, Text.Blank before ∧ Text.Blank around ∧ Text.Blank around' ∧
    Text.Blank after ∧ input.toList =
      before ++ "throttled".toList ++ around ++ '=' :: (around' ++ value ++ after)

/-- A prefix and one hexadecimal digit or more, of a number of 32 bits. -/
def IsMask (sign : List Char) (value : List Char) (n : Nat) : Prop :=
  ∃ x ds, (x = 'x' ∨ x = 'X') ∧ value = '0' :: x :: (sign ++ ds) ∧ ds ≠ [] ∧
    (∀ c ∈ ds, isHexDigit c = true) ∧ n = Text.denoted 16 ds ∧ n < 2 ^ 32

/-- The flags that a mask stands for. -/
def statusOf (n : Nat) : ThrottledStatus where
  raw := n
  undervoltageNow := n.testBit 0
  armFrequencyCappedNow := n.testBit 1
  throttledNow := n.testBit 2
  softTemperatureLimitNow := n.testBit 3
  undervoltageSinceBoot := n.testBit 16
  armFrequencyCappedSinceBoot := n.testBit 17
  throttledSinceBoot := n.testBit 18
  softTemperatureLimitSinceBoot := n.testBit 19

theorem hasBit_eq (value bit : Nat) : hasBit value bit = value.testBit bit := by
  rw [hasBit, Nat.shiftLeft_eq, Nat.one_mul, Nat.and_two_pow]
  cases value.testBit bit <;> simp

theorem isHexDigit_iff (c : Char) : (Text.toDigit 16 c).isSome = isHexDigit c := by
  rw [Bool.eq_iff_iff]
  simp only [Text.toDigit, isHexDigit, Bool.or_eq_true, Bool.and_eq_true, decide_eq_true_eq]
  split
  · simp only [Option.filter_some, decide_eq_true_eq, Option.isSome_ite]
    omega
  split
  · simp only [Option.filter_some, decide_eq_true_eq, Option.isSome_ite]
    omega
  split
  · simp only [Option.filter_some, decide_eq_true_eq, Option.isSome_ite]
    omega
  · simp only [Option.filter_none, Option.isSome_none, Bool.false_eq_true, false_iff]
    omega

theorem hexDigit_not_whitespace (c : Char) (digit : isHexDigit c = true) :
    Text.isWhitespace c = false := by
  simp only [isHexDigit, Bool.or_eq_true, Bool.and_eq_true, decide_eq_true_eq] at digit
  simp only [Text.isWhitespace, Bool.or_eq_false_iff, Bool.and_eq_false_iff,
    decide_eq_false_iff_not, beq_eq_false_iff_ne]
  omega

theorem trimmed_mask (sign value : List Char) (n : Nat) (mask : IsMask sign value n) :
    Text.Trimmed value ∧ value ≠ [] := by
  obtain ⟨x, ds, -, rfl, filled, all, -, -⟩ := mask
  refine ⟨⟨?_, ?_⟩, List.cons_ne_nil _ _⟩
  · intro c first
    obtain rfl : '0' = c := by simpa using first
    decide
  · intro c last
    have digits : c ∈ ds := by
      rw [List.getLast?_cons_of_ne_nil (List.cons_ne_nil _ _),
        List.getLast?_cons_of_ne_nil (by simp [filled]),
        List.getLast?_append_of_ne_nil _ filled] at last
      exact List.mem_of_getLast? last
    exact hexDigit_not_whitespace c (all c digits)

theorem throttled_trimmed : Text.Trimmed "throttled".toList := by
  constructor
  · intro c first
    obtain rfl : 't' = c := by simpa using first
    decide
  · intro c last
    obtain rfl : 'd' = c := by simpa using last
    decide

/-- An assignment is split at its mark. -/
theorem assigns_split (input : String) (value : List Char) (trimmed : Text.Trimmed value)
    (filled : value ≠ []) (assigns : Assigns input value) :
    ∃ key raw, Text.splitOnce '=' (Text.trim input) = some (key, raw) ∧
      Text.trim key = "throttled" ∧ Text.trim raw = String.ofList value := by
  obtain ⟨before, around, around', after, b, a, a', e, whole⟩ := assigns
  let key := "throttled".toList ++ around
  let raw := around' ++ value
  have core : Text.Trimmed (key ++ '=' :: raw) := by
    constructor
    · intro c first
      obtain rfl : 't' = c := by simpa [key] using first
      decide
    · intro c last
      rw [List.getLast?_append_of_ne_nil _ (List.cons_ne_nil _ _),
        List.getLast?_cons_of_ne_nil (by simp [raw, filled]),
        List.getLast?_append_of_ne_nil _ filled] at last
      exact trimmed.2 c last
  have outer : (Text.trim input).toList = key ++ '=' :: raw := by
    rw [Text.toList_trim, whole]
    have padded := Text.trimList_padded before (key ++ '=' :: raw) after b e core
    simpa [key, raw] using padded
  have mark : Text.isWhitespace '=' = false := by decide
  have unmarked : '=' ∉ key := by
    intro member
    rcases List.mem_append.mp member with word | blank
    · revert word
      decide
    · exact Bool.false_ne_true (mark.symm.trans (a '=' blank))
  refine ⟨String.ofList key, String.ofList raw, ?_, ?_, ?_⟩
  · rw [Text.splitOnce_eq_some_iff, String.toList_ofList, String.toList_ofList]
    exact ⟨outer, unmarked⟩
  · rw [← String.toList_inj, Text.toList_trim, String.toList_ofList]
    exact Text.trimList_padded [] _ around Text.blank_nil a throttled_trimmed
  · rw [← String.toList_inj, Text.toList_trim, String.toList_ofList, String.toList_ofList]
    have padded := Text.trimList_padded around' value [] a' Text.blank_nil trimmed
    simpa [raw] using padded

/-- What is split at its mark was an assignment. -/
theorem split_assigns (input key raw : String) (value : List Char)
    (split : Text.splitOnce '=' (Text.trim input) = some (key, raw))
    (key_is : Text.trim key = "throttled") (raw_is : Text.trim raw = String.ofList value) :
    Assigns input value := by
  obtain ⟨before, after, b, e, outer⟩ := Text.exists_padding input.toList
  obtain ⟨left, around, l, a, key_list⟩ := Text.exists_padding key.toList
  obtain ⟨around', right, a', r, raw_list⟩ := Text.exists_padding raw.toList
  rw [← Text.toList_trim, key_is] at key_list
  rw [← Text.toList_trim, raw_is, String.toList_ofList] at raw_list
  rw [← Text.toList_trim, ((Text.splitOnce_eq_some_iff _ _ _ _).mp split).1, key_list,
    raw_list] at outer
  refine ⟨before ++ left, around, around', right ++ after, ?_, a, a', ?_, ?_⟩
  · exact Text.blank_append before left b l
  · exact Text.blank_append right after r e
  · rw [outer]
    simp

/-- What the text before the number comes down to. -/
theorem assigns_iff (input : String) (value : List Char) (trimmed : Text.Trimmed value)
    (filled : value ≠ []) :
    Assigns input value ↔ ∃ key raw, Text.splitOnce '=' (Text.trim input) = some (key, raw) ∧
      Text.trim key = "throttled" ∧ Text.trim raw = String.ofList value := by
  constructor
  · exact assigns_split input value trimmed filled
  · rintro ⟨key, raw, split, key_is, raw_is⟩
    exact split_assigns input key raw value split key_is raw_is

theorem digits_mask_iff (ds : List Char) (n : Nat) :
    Text.digits 16 ds = some n ↔
      ds ≠ [] ∧ (∀ c ∈ ds, isHexDigit c = true) ∧ n = Text.denoted 16 ds := by
  rw [Text.digits_eq_some_iff]
  simp only [isHexDigit_iff]

theorem unprefixed_iff (value hexadecimal : String) :
    (Text.stripPrefix "0x" value).orElse (fun _ => Text.stripPrefix "0X" value) =
        some hexadecimal ↔
      ∃ x, (x = 'x' ∨ x = 'X') ∧ value.toList = '0' :: x :: hexadecimal.toList := by
  have small := Text.stripPrefix_eq_some_iff "0x" value
  have capital := Text.stripPrefix_eq_some_iff "0X" value
  cases first : Text.stripPrefix "0x" value with
  | some rest =>
    have whole := (small rest).mp first
    constructor
    · intro same
      refine ⟨'x', .inl rfl, ?_⟩
      rw [← Option.some.inj same]
      exact whole
    · rintro ⟨x, -, other⟩
      obtain ⟨-, tails⟩ := List.cons.inj (whole.symm.trans other)
      obtain ⟨-, tails⟩ := List.cons.inj tails
      exact congrArg some (String.toList_inj.mp tails)
  | none =>
    rw [Option.orElse_none, capital hexadecimal]
    constructor
    · intro whole
      exact ⟨'X', .inr rfl, whole⟩
    · rintro ⟨x, rfl | rfl, whole⟩
      · rw [(small hexadecimal).mpr whole] at first
        cases first
      · exact whole

/-- What is read after the assignment: digits, or a plus sign and digits. -/
theorem mask_iff (value : String) (n : Nat) :
    (∃ hexadecimal, (Text.stripPrefix "0x" value).orElse (fun _ => Text.stripPrefix "0X" value) =
        some hexadecimal ∧ hexadecimal ≠ "" ∧ Text.parseUnsigned 16 32 hexadecimal = some n) ↔
      IsMask [] value.toList n ∨ IsMask ['+'] value.toList n := by
  have enough (sign ds : List Char) (x : Char) (cases : x = 'x' ∨ x = 'X') (filled : ds ≠ [])
      (read : Text.parseUnsigned 16 32 (String.ofList (sign ++ ds)) = some n)
      (whole : value.toList = '0' :: x :: (sign ++ ds)) :
      ∃ hexadecimal, (Text.stripPrefix "0x" value).orElse
          (fun _ => Text.stripPrefix "0X" value) = some hexadecimal ∧
        hexadecimal ≠ "" ∧ Text.parseUnsigned 16 32 hexadecimal = some n := by
    refine ⟨String.ofList (sign ++ ds), ?_, ?_, read⟩
    · rw [unprefixed_iff, String.toList_ofList]
      exact ⟨x, cases, whole⟩
    · intro empty
      have none_left := congrArg String.toList empty
      simp [filled] at none_left
  constructor
  · rintro ⟨hexadecimal, start, -, number⟩
    obtain ⟨x, cases, whole⟩ := (unprefixed_iff value hexadecimal).mp start
    obtain ⟨small, unsigned | ⟨ds, signed, read⟩⟩ :=
      (Text.parseUnsigned_eq_some_iff 16 32 n hexadecimal).mp number
    · left
      obtain ⟨filled, all, same⟩ := (digits_mask_iff _ n).mp unsigned
      exact ⟨x, hexadecimal.toList, cases, whole, filled, all, same, small⟩
    · right
      obtain ⟨filled, all, same⟩ := (digits_mask_iff _ n).mp read
      rw [signed] at whole
      exact ⟨x, ds, cases, whole, filled, all, same, small⟩
  · rintro (⟨x, ds, cases, whole, filled, all, same, small⟩ |
      ⟨x, ds, cases, whole, filled, all, same, small⟩)
    · have read := (digits_mask_iff ds n).mpr ⟨filled, all, same⟩
      apply enough [] ds x cases filled _ whole
      rw [Text.parseUnsigned_eq_some_iff, String.toList_ofList]
      exact ⟨small, .inl read⟩
    · have read := (digits_mask_iff ds n).mpr ⟨filled, all, same⟩
      apply enough ['+'] ds x cases filled _ whole
      rw [Text.parseUnsigned_eq_some_iff, String.toList_ofList]
      exact ⟨small, .inr ⟨ds, rfl, read⟩⟩

/-- The number that an input assigns, with or without the plus sign. -/
def Denotes (input : String) (n : Nat) : Prop :=
  ∃ value, Assigns input value ∧ (IsMask [] value n ∨ IsMask ['+'] value n)

theorem parseThrottled_iff (input : String) (status : ThrottledStatus) :
    parseThrottled input = .ok status ↔ ∃ n, Denotes input n ∧ status = statusOf n := by
  have built (n : Nat) : (pure (statusOf n) : Except ParseError ThrottledStatus) = .ok status ↔
      status = statusOf n := by
    constructor
    · intro same
      exact (Except.ok.inj same).symm
    · rintro rfl
      rfl
  simp only [parseThrottled, okOr_bind, ensure_bind, hasBit_eq]
  constructor
  · rintro ⟨⟨key, raw⟩, split, key_is, hexadecimal, start, filled, n, number, same⟩
    have mask := (mask_iff (Text.trim raw) n).mp ⟨hexadecimal, start, filled, number⟩
    have trimmed : Text.Trimmed (Text.trim raw).toList ∧ (Text.trim raw).toList ≠ [] :=
      mask.elim (trimmed_mask _ _ n) (trimmed_mask _ _ n)
    have assigned := (assigns_iff input _ trimmed.1 trimmed.2).mpr
      ⟨key, raw, split, key_is, String.ofList_toList.symm⟩
    exact ⟨n, ⟨_, assigned, mask⟩, (built n).mp same⟩
  · rintro ⟨n, ⟨value, assigned, mask⟩, same⟩
    have trimmed := mask.elim (trimmed_mask _ value n) (trimmed_mask _ value n)
    obtain ⟨key, raw, split, key_is, raw_is⟩ :=
      (assigns_iff input value trimmed.1 trimmed.2).mp assigned
    rw [← String.toList_ofList (l := value), ← raw_is] at mask
    obtain ⟨hexadecimal, start, filled, number⟩ := (mask_iff (Text.trim raw) n).mpr mask
    exact ⟨(key, raw), split, key_is, hexadecimal, start, filled, n, number, (built n).mpr same⟩

theorem assigned_unique (input : String) (value other : List Char) (assigned : Assigns input value)
    (again : Assigns input other) (trimmed : Text.Trimmed value ∧ value ≠ [])
    (too : Text.Trimmed other ∧ other ≠ []) : value = other := by
  obtain ⟨key, raw, split, -, raw_is⟩ := (assigns_iff input value trimmed.1 trimmed.2).mp assigned
  obtain ⟨key', raw', split', -, raw_is'⟩ := (assigns_iff input other too.1 too.2).mp again
  have parts := Option.some.inj (split.symm.trans split')
  have right : raw = raw' := congrArg Prod.snd parts
  rw [right, raw_is'] at raw_is
  exact (String.ofList_inj.mp raw_is).symm

/-- A plus sign is no hexadecimal digit. -/
theorem mask_unsigned (value : List Char) (m n : Nat) (unsigned : IsMask [] value m)
    (signed : IsMask ['+'] value n) : False := by
  obtain ⟨x, ds, -, whole, -, all, -, -⟩ := unsigned
  obtain ⟨y, es, -, rfl, -, -, -, -⟩ := signed
  obtain ⟨-, tails⟩ := List.cons.inj whole
  obtain ⟨-, tails⟩ := List.cons.inj tails
  have plus : isHexDigit '+' = true := by
    apply all
    rw [List.nil_append] at tails
    rw [← tails]
    exact List.mem_cons_self
  exact absurd plus (by decide)

theorem denotes_unique (input : String) (m n : Nat) (first : Denotes input m)
    (second : Denotes input n) : m = n := by
  have one := (parseThrottled_iff input (statusOf m)).mpr ⟨m, first, rfl⟩
  have two := (parseThrottled_iff input (statusOf n)).mpr ⟨n, second, rfl⟩
  have same := Except.ok.inj (one.symm.trans two)
  exact congrArg ThrottledStatus.raw same

/-- What is accepted is the mask of the grammar, unless a plus sign stands before
its digits. -/
theorem throttled_grammar_iff (input : String) :
    (((∃ status, parseThrottled input = .ok status) ↔
        ∃ value n, Assigns input value ∧ IsMask [] value n) ∧
      ∀ status, parseThrottled input = .ok status →
        ∃ value, Assigns input value ∧ IsMask [] value status.raw) ↔
    ¬ ∃ value n, Assigns input value ∧ IsMask ['+'] value n := by
  constructor
  · rintro ⟨accepted, -⟩ ⟨value, n, assigned, signed⟩
    have parsed := (parseThrottled_iff input (statusOf n)).mpr
      ⟨n, ⟨value, assigned, .inr signed⟩, rfl⟩
    obtain ⟨other, m, again, unsigned⟩ := accepted.mp ⟨_, parsed⟩
    have same := assigned_unique input value other assigned again (trimmed_mask _ _ n signed)
      (trimmed_mask _ _ m unsigned)
    rw [← same] at unsigned
    exact mask_unsigned value m n unsigned signed
  · intro unsigned
    have grammar (status : ThrottledStatus) (parsed : parseThrottled input = .ok status) :
        ∃ value, Assigns input value ∧ IsMask [] value status.raw := by
      obtain ⟨n, ⟨value, assigned, mask | signed⟩, rfl⟩ :=
        (parseThrottled_iff input status).mp parsed
      · exact ⟨value, assigned, mask⟩
      · exact absurd ⟨value, n, assigned, signed⟩ unsigned
    refine ⟨⟨?_, ?_⟩, grammar⟩
    · rintro ⟨status, parsed⟩
      obtain ⟨value, assigned, mask⟩ := grammar status parsed
      exact ⟨value, status.raw, assigned, mask⟩
    · rintro ⟨value, n, assigned, mask⟩
      exact ⟨statusOf n, (parseThrottled_iff input _).mpr ⟨n, ⟨value, assigned, .inl mask⟩, rfl⟩⟩

theorem throttled_plus_accepted :
    ¬ ∀ input : String, (((∃ status, parseThrottled input = .ok status) ↔
        ∃ value n, Assigns input value ∧ IsMask [] value n) ∧
      ∀ status, parseThrottled input = .ok status →
        ∃ value, Assigns input value ∧ IsMask [] value status.raw) := by
  intro grammar
  have parsed : parseThrottled "throttled=0x+5" = .ok (statusOf 5) := by decide +kernel
  obtain ⟨value, assigned, mask⟩ := (grammar "throttled=0x+5").2 _ parsed
  have blank := Text.blank_nil
  have again : Assigns "throttled=0x+5" ['0', 'x', '+', '5'] :=
    ⟨[], [], [], [], blank, blank, blank, blank, rfl⟩
  have signed : IsMask ['+'] ['0', 'x', '+', '5'] 5 :=
    ⟨'x', ['5'], .inl rfl, rfl, by decide, List.forall_mem_singleton.mpr rfl, by decide, by decide⟩
  have same := assigned_unique _ _ _ again assigned (trimmed_mask _ _ _ signed)
    (trimmed_mask _ _ _ mask)
  rw [← same] at mask
  exact mask_unsigned _ _ _ mask signed

/-! What is published of an accepted answer. -/

/-- Small letters, and no zero in front but for zero itself. -/
def IsCanonical (ds : List Char) : Prop :=
  ds ≠ [] ∧ (∀ c ∈ ds, c ∈ "0123456789abcdef".toList) ∧ (ds.head? = some '0' → ds = ['0'])

/-- The eight flags are the named bits of a number. -/
def Flags (power : PowerMetrics) (n : Nat) : Prop :=
  power.undervoltageNow = some (n.testBit 0) ∧
    power.armFrequencyCappedNow = some (n.testBit 1) ∧
    power.throttledNow = some (n.testBit 2) ∧
    power.softTemperatureLimitNow = some (n.testBit 3) ∧
    power.undervoltageSinceBoot = some (n.testBit 16) ∧
    power.armFrequencyCappedSinceBoot = some (n.testBit 17) ∧
    power.throttledSinceBoot = some (n.testBit 18) ∧
    power.softTemperatureLimitSinceBoot = some (n.testBit 19)

theorem hex_canonical (n : Nat) : IsCanonical (Debug.hex n) :=
  ⟨Debug.hex_ne_nil n, Text.hex_characters n, Text.hex_head n⟩

theorem denoted_hex (n : Nat) : Text.denoted 16 (Debug.hex n) = n := by
  obtain ⟨-, -, same⟩ := (Text.digits_eq_some_iff 16 n (Debug.hex n)).mp (Text.digits_hex n)
  exact same.symm

theorem rawHex_inj (s t : ThrottledStatus) : s.rawHex = t.rawHex ↔ s.raw = t.raw := by
  constructor
  · intro same
    have lists := congrArg String.toList same
    simp only [ThrottledStatus.rawHex, String.toList_append, String.toList_ofList] at lists
    exact Debug.hex_injective _ _ (List.append_cancel_left lists)
  · intro same
    rw [ThrottledStatus.rawHex, ThrottledStatus.rawHex, same]

/-- The published mask is read back as the number it was printed from. -/
theorem denotes_rawHex (s : ThrottledStatus) (small : s.raw < 2 ^ 32) :
    Denotes ("throttled=" ++ s.rawHex) s.raw := by
  obtain ⟨filled, all, same⟩ := (digits_mask_iff _ _).mp (Text.digits_hex s.raw)
  have blank := Text.blank_nil
  refine ⟨'0' :: 'x' :: Debug.hex s.raw, ?_, .inl ?_⟩
  · refine ⟨[], [], [], [], blank, blank, blank, blank, ?_⟩
    simp [ThrottledStatus.rawHex]
  · exact ⟨'x', Debug.hex s.raw, .inl rfl, rfl, filled, all, same, small⟩

theorem denotes_small (input : String) (n : Nat) (denotes : Denotes input n) : n < 2 ^ 32 := by
  obtain ⟨value, -, ⟨x, ds, -, -, -, -, -, small⟩ | ⟨x, ds, -, -, -, -, -, small⟩⟩ := denotes
  · exact small
  · exact small

theorem published_mask_canonical (input : String) (status : ThrottledStatus)
    (accepted : parseThrottled input = .ok status) :
    ∃ ds, (powerMetrics status).throttledRaw = some ("0x" ++ String.ofList ds) ∧
      IsCanonical ds ∧ Flags (powerMetrics status) (Text.denoted 16 ds) ∧
      parseThrottled ("throttled=" ++ ("0x" ++ String.ofList ds)) = .ok status ∧
      ∀ input' status', parseThrottled input' = .ok status' →
        ((powerMetrics status').throttledRaw = (powerMetrics status).throttledRaw ↔
          ∃ n, Denotes input n ∧ Denotes input' n) := by
  obtain ⟨n, denotes, rfl⟩ := (parseThrottled_iff input status).mp accepted
  refine ⟨Debug.hex n, rfl, hex_canonical n, ?_, ?_, ?_⟩
  · rw [denoted_hex]
    exact ⟨rfl, rfl, rfl, rfl, rfl, rfl, rfl, rfl⟩
  · rw [parseThrottled_iff]
    exact ⟨n, denotes_rawHex (statusOf n) (denotes_small input n denotes), rfl⟩
  · intro input' status' accepted'
    obtain ⟨m, denotes', rfl⟩ := (parseThrottled_iff input' status').mp accepted'
    simp only [powerMetrics, Option.some.injEq, rawHex_inj]
    constructor
    · intro same
      change m = n at same
      rw [same] at denotes'
      exact ⟨n, denotes, denotes'⟩
    · rintro ⟨k, first, second⟩
      change m = n
      rw [denotes_unique input n k denotes first, denotes_unique input' m k denotes' second]

theorem published_mask_spaced :
    ∃ ds, (powerMetrics (statusOf 0x50005)).throttledRaw = some ("0x" ++ String.ofList ds) ∧
      IsCanonical ds ∧ Flags (powerMetrics (statusOf 0x50005)) (Text.denoted 16 ds) ∧
      parseThrottled ("throttled=" ++ ("0x" ++ String.ofList ds)) = .ok (statusOf 0x50005) ∧
      ∀ input' status', parseThrottled input' = .ok status' →
        ((powerMetrics status').throttledRaw = (powerMetrics (statusOf 0x50005)).throttledRaw ↔
          ∃ n, Denotes "  throttled = 0X50005  \n" n ∧ Denotes input' n) :=
  published_mask_canonical "  throttled = 0X50005  \n" (statusOf 0x50005) (by decide +kernel)

end RpiHealth
