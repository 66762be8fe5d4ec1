import RpiHealth.Library.Decimals
import RpiHealth.Metrics.Memory
import RpiHealth.Metrics.Power
import RpiHealth.Metrics.Temperature

/-! What the kernel and the firmware print of their numbers, and that each parser reads
these numbers back. What stands behind the part that is read is left open. -/
namespace RpiHealth

theorem U64.parse_toString (n : U64) : U64.parse (toString n.toNat) = some n := by
  rw [U64.parse, Text.parseUnsigned_toString 64 n.toNat n.small, Option.bind_some]
  exact (U64.ofNat?_eq_some _ _).mpr rfl

/-! Processor counters. -/

/-- Newer kernels count the time of guests, too. -/
def statLine (times : CpuTimes) (guests : List Nat) : List Char :=
  "cpu ".toList ++ Text.spread ((times.counters.map U64.toNat ++ guests).map
    (fun n => ([' '], (toString n).toList)))

/-- The line of all processors comes first. -/
def procStat (times : CpuTimes) (guests : List Nat) (rest : String) : String :=
  String.ofList (statLine times guests ++ '\n' :: rest.toList)

theorem statLine_characters (times : CpuTimes) (guests : List Nat) :
    ∀ c ∈ statLine times guests, 32 ≤ c.toNat := by
  intro c member
  rcases List.mem_append.mp member with front | number
  · have each : ∀ c ∈ "cpu ".toList, 32 ≤ c.toNat := by simp
    exact each c front
  · obtain ⟨field, among, inside⟩ := List.mem_flatMap.mp number
    obtain ⟨n, -, rfl⟩ := List.mem_map.mp among
    rcases List.mem_append.mp inside with blank | digit
    · obtain rfl : c = ' ' := by simpa using blank
      decide
    · have := Text.toString_visible n c digit
      omega

theorem statLine_words (times : CpuTimes) (guests : List Nat) :
    Text.words (String.ofList (statLine times guests)) =
      "cpu" :: (times.counters.map U64.toNat ++ guests).map toString := by
  have front : "cpu ".toList = "cpu".toList ++ [' '] := rfl
  rw [statLine, front, List.append_assoc, Text.words_cons _ _ ?_ (by simp [Text.isWhitespace]),
    Text.words_blank [' '] _ (by simp [Text.Blank, Text.isWhitespace]), String.ofList_toList]
  · have fields := Text.words_spread ((times.counters.map U64.toNat ++ guests).map
      (fun n => ([' '], (toString n).toList))) [] ?_ Text.blank_nil
    · rw [List.append_nil, List.map_map] at fields
      rw [fields]
      refine congrArg (List.cons "cpu") (List.map_congr_left (fun n _ => ?_))
      exact String.ofList_toList
    · intro field member
      obtain ⟨n, -, rfl⟩ := List.mem_map.mp member
      exact ⟨by simp, by simp [Text.isWhitespace], Text.solid_toString n⟩
  · exact Text.solid_visible _ (by simp) (by simp)

theorem counter_printed (name : String) (n : U64) (fields : List String) :
    counter name (toString n.toNat :: fields) = .ok (n, fields) := by
  rw [counter, U64.parse_toString]
  rfl

theorem parseProcStat_printed (times : CpuTimes) (guests : List Nat) (rest : String) :
    parseProcStat (procStat times guests rest) = .ok times := by
  have whole := Text.oneLine_printable _ (statLine_characters times guests)
  have words := statLine_words times guests
  have found : (Text.lines (procStat times guests rest)).find?
      (fun line => (Text.words line).head? == some "cpu") =
        some (String.ofList (statLine times guests)) := by
    rw [Text.lines, procStat, String.toList_ofList, Text.linesFrom_terminated _ _ _ whole.unbroken,
      List.nil_append, Text.stripCarriageReturn, if_neg whole.plain, List.map_cons]
    exact List.find?_cons_of_pos (by rw [words]; rfl)
  rw [parseProcStat, okOr_bind]
  refine ⟨_, found, ?_⟩
  rw [words]
  simp only [CpuTimes.counters, List.map_cons, List.map_nil, List.cons_append, List.tail_cons,
    List.nil_append, counter_printed, bind, Except.bind, pure, Except.pure]

/-! Numbers in hundredths: load averages and the uptime. -/

def procLoadavg (oneMinute fiveMinutes fifteenMinutes : Nat) (rest : String) : String :=
  Text.fixedPoint 2 oneMinute ++ " " ++ (Text.fixedPoint 2 fiveMinutes ++ " " ++
    (Text.fixedPoint 2 fifteenMinutes ++ " " ++ rest))

def procUptime (hundredths : Nat) (rest : String) : String :=
  Text.fixedPoint 2 hundredths ++ " " ++ rest

theorem fixedPoint_visible (places units : Nat) :
    ∀ c ∈ (Text.fixedPoint places units).toList, 33 ≤ c.toNat ∧ c.toNat ≤ 126 := by
  intro c member
  rcases Text.fixedPoint_characters places units c member with digit | rfl
  · have := Text.digit_code c digit
    omega
  · decide

theorem solid_fixedPoint (places units : Nat) :
    Text.Solid Text.isWhitespace (Text.fixedPoint places units).toList :=
  Text.solid_visible _ (by simp [Text.fixedPoint_toList]) (fixedPoint_visible places units)

/-- Units of a power of ten as a number. -/
theorem fixedPoint_reads (places units : Nat) (positive : 0 < places) (small : units ≤ 2 ^ 100) :
    ∃ within : (units : ℚ≥0) / 10 ^ places ≤ F64.MAX,
      F64.parse (Text.fixedPoint places units) =
        some (.finite false ((units : ℚ≥0) / 10 ^ places) within) := by
  have within : (units : ℚ≥0) / 10 ^ places ≤ F64.MAX :=
    (div_le_self zero_le (one_le_pow₀ (by norm_num))).trans (F64.natCast_le_max units small)
  exact ⟨within, by rw [F64.parse_fixedPoint places units positive, F64.ofMagnitude_of_le]⟩

theorem parseNonNegativeFloat_printed (name : String) (hundredths : Nat)
    (small : hundredths ≤ 2 ^ 100) :
    ∃ v, parseNonNegativeFloat (some (Text.fixedPoint 2 hundredths)) name = .ok v ∧
      v.value? = some ((hundredths : ℚ) / 100) := by
  obtain ⟨within, read⟩ := fixedPoint_reads 2 hundredths (by decide) small
  refine ⟨.finite false ((hundredths : ℚ≥0) / 10 ^ 2) within, ?_, ?_⟩
  · rw [parseNonNegativeFloat, okOr_bind]
    refine ⟨_, rfl, ?_⟩
    rw [okOr_bind]
    exact ⟨_, read, rfl⟩
  simp only [F64.value?]
  push_cast
  norm_num

theorem parseLoadavg_printed (oneMinute fiveMinutes fifteenMinutes : Nat) (rest : String)
    (first : oneMinute ≤ 2 ^ 100) (second : fiveMinutes ≤ 2 ^ 100)
    (third : fifteenMinutes ≤ 2 ^ 100) :
    ∃ load, parseLoadavg (procLoadavg oneMinute fiveMinutes fifteenMinutes rest) = .ok load ∧
      load.oneMinute.value? = some ((oneMinute : ℚ) / 100) ∧
      load.fiveMinutes.value? = some ((fiveMinutes : ℚ) / 100) ∧
      load.fifteenMinutes.value? = some ((fifteenMinutes : ℚ) / 100) := by
  obtain ⟨a, read_a, value_a⟩ := parseNonNegativeFloat_printed "one-minute load" _ first
  obtain ⟨b, read_b, value_b⟩ := parseNonNegativeFloat_printed "five-minute load" _ second
  obtain ⟨c, read_c, value_c⟩ := parseNonNegativeFloat_printed "fifteen-minute load" _ third
  refine ⟨⟨a, b, c⟩, ?_, value_a, value_b, value_c⟩
  simp only [parseLoadavg, procLoadavg, Text.words_field _ _ (solid_fixedPoint _ _)]
  rw [bind_eq_ok]
  refine ⟨a, read_a, ?_⟩
  rw [bind_eq_ok]
  refine ⟨b, read_b, ?_⟩
  rw [bind_eq_ok]
  exact ⟨c, read_c, rfl⟩

theorem num_div_den (n d : Nat) (positive : 0 < d) :
    ((n : ℚ≥0) / d).num / ((n : ℚ≥0) / d).den = n / d := by
  let x : ℚ≥0 := (n : ℚ≥0) / d
  have den : 0 < x.den := x.den_pos
  have cross : x.num * d = n * x.den := by
    have same : (x.num : ℚ≥0) / x.den = n / d := NNRat.num_div_den x
    rw [div_eq_div_iff (by exact_mod_cast den.ne') (by exact_mod_cast positive.ne')] at same
    exact_mod_cast same
  calc x.num / x.den = x.num * d / (x.den * d) := (Nat.mul_div_mul_right _ _ positive).symm
    _ = n * x.den / (d * x.den) := by rw [cross, mul_comm x.den d]
    _ = n / d := Nat.mul_div_mul_right _ _ den

/-- The hundredths are cut off. -/
theorem parseUptimeSeconds_printed (hundredths : Nat) (rest : String) (seconds : U64)
    (whole : seconds.toNat = hundredths / 100) :
    parseUptimeSeconds (procUptime hundredths rest) = .ok seconds := by
  have small : hundredths ≤ 2 ^ 100 := by
    have := seconds.small
    omega
  obtain ⟨within, read⟩ := fixedPoint_reads 2 hundredths (by decide) small
  have cut : ((hundredths : ℚ≥0) / 10 ^ 2).num / ((hundredths : ℚ≥0) / 10 ^ 2).den =
      seconds.toNat := by
    have := num_div_den hundredths 100 (by decide)
    rw [whole, ← this]
    norm_num
  rw [parseUptimeSeconds, procUptime, Text.words_field _ _ (solid_fixedPoint _ _), List.head?_cons,
    okOr_bind]
  refine ⟨_, rfl, ?_⟩
  rw [okOr_bind]
  refine ⟨_, read, ?_⟩
  rw [ensure_bind]
  refine ⟨⟨rfl, rfl⟩, ?_⟩
  rw [F64.whole, cut, (U64.ofNat?_eq_some seconds.toNat seconds).mpr rfl]
  rfl

/-! Temperatures and frequencies. -/

def thermalZone (millidegrees : Int) : String := Text.signed millidegrees ++ "\n"

/-- The firmware answers in tenths of a degree. -/
def measureTemp (tenths : Nat) : String := "temp=" ++ Text.fixedPoint 1 tenths ++ "'C\n"

def cpufreq (kilohertz : U64) : String := toString kilohertz.toNat ++ "\n"

theorem ofInt_quotient_value (part : Int) (whole : Nat) (positive : 0 < whole)
    (part_small : part.natAbs ≤ 2 ^ 100) (whole_small : whole ≤ 2 ^ 100) :
    (F64.ofInt part / F64.ofNat whole).value? = some ((part : ℚ) / whole) := by
  have nonzero : (whole : ℚ≥0) ≠ 0 := by exact_mod_cast positive.ne'
  have numerator := F64.natCast_le_max part.natAbs part_small
  have quotient : (part.natAbs : ℚ≥0) / whole ≤ F64.MAX :=
    (div_le_self zero_le (by exact_mod_cast positive)).trans numerator
  have absolute : ((part.natAbs : ℚ≥0) : ℚ) = |(part : ℚ)| := by
    rw [NNRat.cast_natCast, Nat.cast_natAbs, Int.cast_abs]
  rw [F64.ofInt, F64.ofNat, F64.ofMagnitude_of_le _ _ numerator,
    F64.ofMagnitude_of_le _ _ (F64.natCast_le_max whole whole_small),
    F64.finite_div _ _ _ _ _ _ nonzero, F64.ofMagnitude_of_le _ _ quotient]
  simp only [F64.value?, Bool.xor_false, decide_eq_true_eq, NNRat.cast_div, absolute]
  by_cases negative : part < 0
  · rw [if_pos negative, abs_of_neg (by exact_mod_cast negative)]
    simp [neg_div]
  · rw [if_neg negative, abs_of_nonneg (by exact_mod_cast Int.not_lt.mp negative)]
    simp

theorem parseMillidegrees_printed (millidegrees : Int) (low : -2 ^ 63 ≤ millidegrees)
    (high : millidegrees < 2 ^ 63) :
    ∃ v, parseMillidegreesCelsius (thermalZone millidegrees) = .ok v ∧
      v.value? = some ((millidegrees : ℚ) / 1000) := by
  refine ⟨F64.ofInt millidegrees / F64.ofNat 1000, ?_,
    ofInt_quotient_value millidegrees 1000 (by decide) (by omega) (by decide)⟩
  rw [parseMillidegreesCelsius, thermalZone, Text.words_line _ (Text.solid_signed _)]
  simp only [okOr_bind]
  exact ⟨millidegrees, Text.parseSigned_signed 64 millidegrees low high, rfl⟩

theorem parseFrequencyKhz_printed (kilohertz : U64) :
    ∃ v, parseFrequencyKhz (cpufreq kilohertz) = .ok v ∧
      v.value? = some ((kilohertz.toNat : ℚ) / 1000) := by
  have small := kilohertz.small
  refine ⟨F64.ofNat kilohertz.toNat / F64.ofNat 1000, ?_,
    F64.quotient_value kilohertz.toNat 1000 (by decide) (by omega) (by decide)⟩
  rw [parseFrequencyKhz, cpufreq, Text.words_line _ (Text.solid_toString _)]
  simp only [okOr_bind]
  exact ⟨kilohertz, U64.parse_toString kilohertz, rfl⟩

theorem stripSuffix_append (back front : List Char) :
    Text.stripSuffix (String.ofList back) (String.ofList (front ++ back)) =
      some (String.ofList front) := by
  have ends : back.isSuffixOf (front ++ back) = true :=
    List.isSuffixOf_iff_suffix.mpr (List.suffix_append front back)
  rw [Text.stripSuffix, String.toList_ofList, String.toList_ofList, if_pos ends,
    List.length_append, Nat.add_sub_cancel, List.take_left']
  rfl

theorem trimmed_solid (word : List Char) (solid : Text.Solid Text.isWhitespace word) :
    Text.trimList word = word :=
  Text.trimList_of_trimmed word ⟨fun c first => solid.unbroken c (List.mem_of_mem_head? first),
    fun c last => solid.unbroken c (List.mem_of_getLast? last)⟩

/-- An answer of the firmware: a name and a value on a line. -/
theorem answer_split (name value : List Char) (named : '=' ∉ name)
    (solid : Text.Solid Text.isWhitespace (name ++ '=' :: value)) :
    Text.splitOnce '=' (Text.trim (String.ofList (name ++ '=' :: value ++ ['\n']))) =
      some (String.ofList name, String.ofList value) := by
  have trimmed : Text.Trimmed (name ++ '=' :: value) :=
    ⟨fun c first => solid.unbroken c (List.mem_of_mem_head? first),
      fun c last => solid.unbroken c (List.mem_of_getLast? last)⟩
  have padded := Text.trimList_padded [] (name ++ '=' :: value) ['\n'] Text.blank_nil
    (by simp [Text.Blank, Text.isWhitespace]) trimmed
  rw [Text.splitOnce_eq_some_iff, Text.toList_trim, String.toList_ofList, String.toList_ofList,
    String.toList_ofList]
  exact ⟨by simpa using padded, named⟩

theorem parseVcgencmdTemperature_printed (tenths : Nat) (small : tenths ≤ 2 ^ 100) :
    ∃ v, parseVcgencmdTemperature (measureTemp tenths) = .ok v ∧
      v.value? = some ((tenths : ℚ) / 10) := by
  let value := (Text.fixedPoint 1 tenths).toList ++ "'C".toList
  have number := solid_fixedPoint 1 tenths
  have visible : ∀ c ∈ value, 33 ≤ c.toNat ∧ c.toNat ≤ 126 := by
    intro c member
    rcases List.mem_append.mp member with digit | unit
    · exact fixedPoint_visible 1 tenths c digit
    · have each : ∀ c ∈ "'C".toList, 33 ≤ c.toNat ∧ c.toNat ≤ 126 := by simp
      exact each c unit
  have solid : Text.Solid Text.isWhitespace ("temp".toList ++ '=' :: value) := by
    refine Text.solid_visible _ (by simp) (fun c member => ?_)
    rcases List.mem_append.mp member with front | rest
    · have each : ∀ c ∈ "temp".toList, 33 ≤ c.toNat ∧ c.toNat ≤ 126 := by simp
      exact each c front
    · rcases List.mem_cons.mp rest with rfl | inside
      · decide
      · exact visible c inside
  have split : Text.splitOnce '=' (Text.trim (measureTemp tenths)) =
      some ("temp", String.ofList value) := by
    have printed : measureTemp tenths =
        String.ofList ("temp".toList ++ '=' :: value ++ ['\n']) := by
      rw [← String.toList_inj]
      simp [measureTemp, value]
    rw [printed, answer_split "temp".toList value (by decide) solid, String.ofList_toList]
  have key : Text.trim "temp" = "temp" := by decide
  have raw : Text.trim (String.ofList value) = String.ofList value := by
    rw [← String.toList_inj, Text.toList_trim, String.toList_ofList]
    exact trimmed_solid value (Text.solid_visible value (by simp [value]) visible)
  have unit : Text.stripSuffix "'C" (String.ofList value) = some (Text.fixedPoint 1 tenths) := by
    have stripped := stripSuffix_append "'C".toList (Text.fixedPoint 1 tenths).toList
    rwa [String.ofList_toList, String.ofList_toList] at stripped
  have numeric : Text.trim (Text.fixedPoint 1 tenths) = Text.fixedPoint 1 tenths := by
    rw [← String.toList_inj, Text.toList_trim]
    exact trimmed_solid _ number
  obtain ⟨within, read⟩ := fixedPoint_reads 1 tenths (by decide) small
  refine ⟨.finite false ((tenths : ℚ≥0) / 10 ^ 1) within, ?_, ?_⟩
  · rw [parseVcgencmdTemperature, okOr_bind]
    refine ⟨_, split, ?_⟩
    rw [ensure_bind]
    refine ⟨key, ?_⟩
    simp only [raw, unit]
    rw [okOr_bind]
    refine ⟨_, rfl, ?_⟩
    rw [numeric, okOr_bind]
    refine ⟨_, read, ?_⟩
    rw [ensure_bind]
    exact ⟨rfl, rfl⟩
  · simp only [F64.value?]
    push_cast
    norm_num

/-! The throttling mask. -/

def getThrottled (mask : Nat) : String := "throttled=" ++ (statusOf mask).rawHex ++ "\n"

theorem parseThrottled_printed (mask : Nat) (small : mask < 2 ^ 32) :
    parseThrottled (getThrottled mask) = .ok (statusOf mask) := by
  obtain ⟨filled, all, same⟩ := (digits_mask_iff _ _).mp (Text.digits_hex mask)
  rw [parseThrottled_iff]
  refine ⟨mask, ⟨'0' :: 'x' :: Debug.hex mask, ?_, .inl ?_⟩, rfl⟩
  · refine ⟨[], [], [], ['\n'], Text.blank_nil, Text.blank_nil, Text.blank_nil,
      by simp [Text.Blank, Text.isWhitespace], ?_⟩
    simp [getThrottled, ThrottledStatus.rawHex, statusOf]
  · exact ⟨'x', Debug.hex mask, .inl rfl, rfl, filled, all, same, small⟩

/-! Memory. -/

/-- A name that matters with its kibibytes, or a line that does not. -/
inductive MeminfoLine where
  | known (key : MemoryKey) (blanks : Nat) (kib : U64)
  | other (text : String)

namespace MeminfoLine

/-- What stands behind the colon. -/
def amount (blanks : Nat) (kib : U64) : String :=
  String.ofList (List.replicate blanks ' ' ++ ((toString kib.toNat).toList ++ " kB".toList))

def text : MeminfoLine → String
  | .known key blanks kib => key.name ++ ":" ++ amount blanks kib
  | .other text => text

def entry? : MeminfoLine → Option (MemoryKey × U64)
  | .known key _ kib => some (key, kib)
  | .other _ => none

def Printable : MeminfoLine → Prop
  | .known _ _ _ => True
  | .other text => Text.OneLine text.toList ∧ recognised text = none

end MeminfoLine

def procMeminfo (lines : List MeminfoLine) : String :=
  Text.printLines (lines.map MeminfoLine.text)

theorem kibValue_amount (blanks : Nat) (kib : U64) :
    kibValue (MeminfoLine.amount blanks kib) = some kib := by
  have words : Text.words (MeminfoLine.amount blanks kib) = [toString kib.toNat, "kB"] := by
    rw [MeminfoLine.amount, Text.words_blank _ _ (by simp [Text.Blank, Text.isWhitespace]),
      Text.words_cons _ _ (Text.solid_toString _) (by simp [Text.isWhitespace]),
      String.ofList_toList]
    exact congrArg (List.cons _) (by decide)
  rw [kibValue, words]
  exact U64.parse_toString kib

theorem recognised_known (key : MemoryKey) (blanks : Nat) (kib : U64) :
    recognised (MeminfoLine.known key blanks kib).text =
      some (key, MeminfoLine.amount blanks kib) := by
  have named : ':' ∉ key.name.toList ∧ Text.trim key.name = key.name ∧
      canonicalKey key.name = some key := by
    cases key <;> decide
  have split : Text.splitOnce ':' (MeminfoLine.known key blanks kib).text =
      some (key.name, MeminfoLine.amount blanks kib) := by
    rw [Text.splitOnce_eq_some_iff]
    exact ⟨by simp [MeminfoLine.text], named.1⟩
  simp only [recognised, split, Option.bind_some, named.2.1, named.2.2, Option.map_some]

theorem meminfoLine_printed (line : MeminfoLine) (printable : line.Printable) :
    Text.OneLine line.text.toList := by
  cases line with
  | other text => exact printable.1
  | known key blanks kib =>
    apply Text.oneLine_printable
    intro c member
    have name : ∀ c ∈ key.name.toList, 32 ≤ c.toNat := by
      cases key <;> simp [MemoryKey.name]
    simp only [MeminfoLine.text, MeminfoLine.amount, String.toList_append, String.toList_ofList,
      List.mem_append] at member
    rcases member with (front | colon) | (blank | (digit | unit))
    · exact name c front
    · obtain rfl : c = ':' := by simpa using colon
      decide
    · rw [(List.mem_replicate.mp blank).2]
      decide
    · have := Text.toString_visible _ c digit
      omega
    · have each : ∀ c ∈ " kB".toList, 32 ≤ c.toNat := by simp
      exact each c unit

section

variable (lines : List MeminfoLine) (printable : ∀ line ∈ lines, line.Printable)
include printable

theorem recognisedLines_printed :
    recognisedLines (procMeminfo lines) = lines.filterMap (fun line => recognised line.text) := by
  rw [recognisedLines, procMeminfo, Text.lines_printLines, List.filterMap_map]
  · rfl
  · intro text member
    obtain ⟨line, among, rfl⟩ := List.mem_map.mp member
    exact meminfoLine_printed line (printable line among)

theorem reports_printed (key : MemoryKey) (value : U64) :
    Reports (recognisedLines (procMeminfo lines)) key value ↔
      (key, value) ∈ lines.filterMap MeminfoLine.entry? := by
  rw [recognisedLines_printed lines printable]
  simp only [Reports, List.mem_filterMap]
  constructor
  · rintro ⟨raw, ⟨line, among, read⟩, worth⟩
    refine ⟨line, among, ?_⟩
    cases line with
    | other text =>
      rw [MeminfoLine.text, (printable _ among).2] at read
      cases read
    | known name blanks kib =>
      rw [recognised_known] at read
      obtain ⟨rfl, rfl⟩ := Prod.mk.inj (Option.some.inj read)
      rw [kibValue_amount] at worth
      rw [MeminfoLine.entry?, Option.some.inj worth]
  · rintro ⟨line, among, is⟩
    cases line with
    | other text => cases is
    | known name blanks kib =>
      obtain ⟨rfl, rfl⟩ := Prod.mk.inj (Option.some.inj is)
      exact ⟨_, ⟨_, among, recognised_known name blanks kib⟩, kibValue_amount blanks kib⟩

theorem wellFormed_printed (once : ((lines.filterMap MeminfoLine.entry?).map Prod.fst).Nodup) :
    WellFormed (recognisedLines (procMeminfo lines)) := by
  have names : (recognisedLines (procMeminfo lines)).map Prod.fst =
      (lines.filterMap MeminfoLine.entry?).map Prod.fst := by
    rw [recognisedLines_printed lines printable, List.map_filterMap, List.map_filterMap]
    refine List.filterMap_congr (fun line among => ?_)
    cases line with
    | other text => rw [MeminfoLine.text, (printable _ among).2]; rfl
    | known name blanks kib => rw [recognised_known]; rfl
  refine ⟨names ▸ once, fun entry member => ?_⟩
  rw [recognisedLines_printed lines printable, List.mem_filterMap] at member
  obtain ⟨line, among, read⟩ := member
  cases line with
  | other text =>
    rw [MeminfoLine.text, (printable _ among).2] at read
    cases read
  | known name blanks kib =>
    rw [recognised_known] at read
    rw [← Option.some.inj read, kibValue_amount]
    rfl

/-- The figures are those of the lines, wherever they stand. -/
theorem parseMeminfo_printed (once : ((lines.filterMap MeminfoLine.entry?).map Prod.fst).Nodup)
    (f : MemoryFigures)
    (described : Describes (fun key value => (key, value) ∈ lines.filterMap MeminfoLine.entry?) f) :
    ∃ m, parseMeminfo (procMeminfo lines) = .ok m ∧ MemoryReading m f := by
  have same : Reports (recognisedLines (procMeminfo lines)) =
      fun key value => (key, value) ∈ lines.filterMap MeminfoLine.entry? := by
    funext key value
    exact propext (reports_printed lines printable key value)
  obtain ⟨m, reading⟩ := reading_exists f described.totalFits described.swapFits
  exact ⟨m, (parseMeminfo_eq_ok _ m).mpr ⟨wellFormed_printed lines printable once, f,
    same ▸ described, reading⟩, reading⟩

end

end RpiHealth
