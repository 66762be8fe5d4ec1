import RpiHealth.Config.Config

/-! The client id of a connection check. It must differ from the daemon's and from those
of other checks, or the broker closes their sessions. -/
namespace RpiHealth

def MQTT_PROBE_CLIENT_ID_LIMIT : Nat := 128

def probeSuffix (processId : UInt32) (sequence : UInt64) : String :=
  "-check-" ++ toString processId.toNat ++ "-" ++ toString sequence.toNat

/-- The id, unless the cut misses the base, and the next sequence number. -/
def uniqueProbeClientId (base : String) (processId : UInt32) (sequence : UInt64) :
    Option String × UInt64 :=
  let suffix := probeSuffix processId sequence
  let prefixLength := MQTT_PROBE_CLIENT_ID_LIMIT - Text.size suffix
  let front := Text.sliceTo base.toList (min (Text.size base) prefixLength)
  (front.map (fun front => String.ofList front ++ suffix), sequence + 1)

theorem identifierCharacter_size (c : Char)
    (allowed : (Text.isAsciiAlphanumeric c || ['.', '_', '-'].contains c) = true) :
    c.utf8Size = 1 := by
  simp only [Text.isAsciiAlphanumeric, List.contains_cons, List.contains_nil, Bool.or_false,
    Bool.or_eq_true, Bool.and_eq_true, decide_eq_true_eq, beq_iff_eq] at allowed
  rw [Char.utf8Size_eq_one_iff, UInt32.le_iff_toNat_le]
  change c.toNat ≤ 127
  rcases allowed with range | rfl | rfl | rfl
  · omega
  · decide
  · decide
  · decide

theorem digit_allowed (c : Char) (digit : c.isDigit = true) :
    (Text.isAsciiAlphanumeric c || ['.', '_', '-'].contains c) = true := by
  simp only [Char.isDigit, Bool.and_eq_true, decide_eq_true_eq, UInt32.le_iff_toNat_le] at digit
  have low : 48 ≤ c.toNat := digit.1
  have high : c.toNat ≤ 57 := digit.2
  simp only [Text.isAsciiAlphanumeric, Bool.or_eq_true, Bool.and_eq_true, decide_eq_true_eq]
  omega

theorem decimal_digits (n : Nat) : ∀ c ∈ (toString n).toList, c.isDigit = true := by
  intro c member
  rw [Nat.toString_eq_ofList_toDigits, String.toList_ofList] at member
  exact Nat.isDigit_of_mem_toDigits (by decide) (by decide) member

theorem decimal_no_hyphen (n : Nat) : '-' ∉ (toString n).toList := fun member =>
  absurd (decimal_digits n '-' member) (by decide)

theorem decimal_injective (n m : Nat) (same : (toString n).toList = (toString m).toList) :
    n = m := by
  rw [Nat.toString_eq_ofList_toDigits, Nat.toString_eq_ofList_toDigits, String.toList_ofList,
    String.toList_ofList] at same
  have values := congrArg (fun digits => Nat.ofDigitChars 10 digits 0) same
  simpa [Nat.ofDigitChars_ten_toDigits] using values

theorem decimal_length (n k : Nat) (positive : 0 < k) (small : n < 10 ^ k) :
    (toString n).toList.length ≤ k := by
  rw [Nat.toString_eq_ofList_toDigits, String.toList_ofList]
  exact (Nat.length_toDigits_le_iff (by decide) positive).mpr small

theorem probeSuffix_toList (processId : UInt32) (sequence : UInt64) :
    (probeSuffix processId sequence).toList = ("-check".toList ++
      '-' :: (toString processId.toNat).toList) ++ '-' :: (toString sequence.toNat).toList := by
  simp [probeSuffix]

theorem probeSuffix_allowed (processId : UInt32) (sequence : UInt64) :
    ∀ c ∈ (probeSuffix processId sequence).toList,
      (Text.isAsciiAlphanumeric c || ['.', '_', '-'].contains c) = true := by
  have fixed : "-check".toList.all
      (fun c => Text.isAsciiAlphanumeric c || ['.', '_', '-'].contains c) = true := rfl
  intro c member
  rw [probeSuffix_toList, List.mem_append, List.mem_append, List.mem_cons, List.mem_cons] at member
  rcases member with (mark | rfl | process) | rfl | digit
  · exact List.all_eq_true.mp fixed c mark
  · decide
  · exact digit_allowed c (decimal_digits _ c process)
  · decide
  · exact digit_allowed c (decimal_digits _ c digit)

theorem probeSuffix_length (processId : UInt32) (sequence : UInt64) :
    7 < (probeSuffix processId sequence).toList.length ∧
      (probeSuffix processId sequence).toList.length ≤ 38 := by
  have process := decimal_length processId.toNat 10 (by decide)
    (Nat.lt_trans processId.toNat_lt (by decide))
  have digits := decimal_length sequence.toNat 20 (by decide)
    (Nat.lt_trans sequence.toNat_lt (by decide))
  have mark : "-check".toList.length = 6 := by decide
  rw [probeSuffix_toList, List.length_append, List.length_append, List.length_cons,
    List.length_cons, mark]
  omega

theorem size_allowed (s : String) (allowed : ∀ c ∈ s.toList,
    (Text.isAsciiAlphanumeric c || ['.', '_', '-'].contains c) = true) :
    Text.size s = s.toList.length := by
  have ones : s.toList.map Char.utf8Size = s.toList.map (fun _ => 1) :=
    List.map_congr_left (fun c member => identifierCharacter_size c (allowed c member))
  rw [Text.size_eq_sum, ones, List.map_const', List.sum_replicate_nat, Nat.mul_one]

/-- The numbers are behind the last two hyphens, wherever the base was cut. -/
theorem probeSuffix_injective (front other : List Char) (processId otherId : UInt32)
    (sequence otherSequence : UInt64)
    (same : front ++ (probeSuffix processId sequence).toList =
      other ++ (probeSuffix otherId otherSequence).toList) :
    processId = otherId ∧ sequence = otherSequence := by
  rw [probeSuffix_toList, probeSuffix_toList, ← List.append_assoc, ← List.append_assoc other]
    at same
  obtain ⟨fronts, sequences⟩ := Text.join_unique_last '-' _ _ _ _
    (decimal_no_hyphen _) (decimal_no_hyphen _) same
  rw [← List.append_assoc, ← List.append_assoc other] at fronts
  obtain ⟨-, processes⟩ := Text.join_unique_last '-' _ _ _ _
    (decimal_no_hyphen _) (decimal_no_hyphen _) fronts
  exact ⟨UInt32.toNat_inj.mp (decimal_injective _ _ processes),
    UInt64.toNat_inj.mp (decimal_injective _ _ sequences)⟩

/-- The id in closed form: what fits of the base, and the suffix. -/
theorem uniqueProbeClientId_eq (base : String) (processId : UInt32) (sequence : UInt64)
    (valid : validIdentifier base 128 ['.', '_', '-'] = true) :
    (uniqueProbeClientId base processId sequence).1 = some (String.ofList
      (base.toList.take (128 - (probeSuffix processId sequence).toList.length) ++
        (probeSuffix processId sequence).toList)) := by
  simp only [validIdentifier, Bool.and_eq_true, List.all_eq_true] at valid
  have sizes : ∀ c ∈ base.toList, c.utf8Size = 1 := fun c member =>
    identifierCharacter_size c (valid.2 c member)
  have inside : min base.toList.length (128 - (probeSuffix processId sequence).toList.length) ≤
      base.toList.length := Nat.min_le_left _ _
  simp only [uniqueProbeClientId, MQTT_PROBE_CLIENT_ID_LIMIT, size_allowed base valid.2,
    size_allowed _ (probeSuffix_allowed processId sequence), Text.sliceTo_ascii _ sizes _ inside,
    Option.map_some, Option.some.injEq]
  rw [String.ofList_append, String.ofList_toList, Nat.min_comm,
    ← List.take_eq_take_min]

theorem probe_valid (base : List Char) (processId : UInt32) (sequence : UInt64)
    (allowed : ∀ c ∈ base, (Text.isAsciiAlphanumeric c || ['.', '_', '-'].contains c) = true) :
    validIdentifier (String.ofList
      (base.take (128 - (probeSuffix processId sequence).toList.length) ++
        (probeSuffix processId sequence).toList)) 128 ['.', '_', '-'] = true := by
  have sizes := probeSuffix_length processId sequence
  have characters : ∀ c ∈ (String.ofList
      (base.take (128 - (probeSuffix processId sequence).toList.length) ++
        (probeSuffix processId sequence).toList)).toList,
      (Text.isAsciiAlphanumeric c || ['.', '_', '-'].contains c) = true := by
    intro c member
    rw [String.toList_ofList, List.mem_append] at member
    rcases member with front | suffix
    · exact allowed c (List.mem_of_mem_take front)
    · exact probeSuffix_allowed processId sequence c suffix
  have length := size_allowed _ characters
  rw [String.toList_ofList, List.length_append, List.length_take] at length
  simp only [validIdentifier, Bool.and_eq_true, decide_eq_true_eq, List.all_eq_true,
    Bool.not_eq_true']
  refine ⟨⟨?_, by omega⟩, characters⟩
  rw [String.isEmpty_eq_false_iff]
  intro empty
  rw [empty, Text.size_empty] at length
  omega

/-- The check takes over the daemon's session only where the base leaves no room for
another id. -/
theorem probe_own_id (base : List Char) (suffix : List Char) (nonempty : 0 < suffix.length)
    (short : suffix.length ≤ 128) :
    base.take (128 - suffix.length) ++ suffix = base ↔ base.length = 128 ∧ suffix <:+ base := by
  constructor
  · intro same
    refine ⟨?_, same ▸ List.suffix_append _ _⟩
    have length := congrArg List.length same
    rw [List.length_append, List.length_take] at length
    omega
  · rintro ⟨full, front, rfl⟩
    rw [List.length_append] at full
    rw [← full, Nat.add_sub_cancel, List.take_left]

/-- A connection check has an acceptable id of its own, cut from the configured one. -/
theorem probe_client_ids (base : String) (processId : UInt32) (sequence : UInt64)
    (valid : validIdentifier base 128 ['.', '_', '-'] = true) :
    ∃ id, (uniqueProbeClientId base processId sequence).1 = some id ∧
      validIdentifier id 128 ['.', '_', '-'] = true ∧
      (∀ otherId otherSequence, (uniqueProbeClientId base otherId otherSequence).1 = some id →
        processId = otherId ∧ sequence = otherSequence) ∧
      (id = base ↔ Text.size base = 128 ∧
        (probeSuffix processId sequence).toList <:+ base.toList) := by
  have characters := valid
  simp only [validIdentifier, Bool.and_eq_true, List.all_eq_true] at characters
  refine ⟨_, uniqueProbeClientId_eq base processId sequence valid,
    probe_valid base.toList processId sequence characters.2, ?_, ?_⟩
  · intro otherId otherSequence again
    rw [uniqueProbeClientId_eq base otherId otherSequence valid, Option.some.injEq] at again
    have lists := congrArg String.toList again
    rw [String.toList_ofList, String.toList_ofList] at lists
    exact probeSuffix_injective _ _ _ _ _ _ lists.symm
  · have sizes := probeSuffix_length processId sequence
    rw [size_allowed base characters.2, ← String.toList_inj, String.toList_ofList]
    exact probe_own_id base.toList _ (by omega) (by omega)

theorem probe_client_ids_sample :
    ∃ id, (uniqueProbeClientId "rpi-health-pi-check-7" 71 3).1 = some id ∧
      validIdentifier id 128 ['.', '_', '-'] = true ∧
      (∀ otherId otherSequence,
        (uniqueProbeClientId "rpi-health-pi-check-7" otherId otherSequence).1 = some id →
        71 = otherId ∧ 3 = otherSequence) ∧
      (id = "rpi-health-pi-check-7" ↔ Text.size "rpi-health-pi-check-7" = 128 ∧
        (probeSuffix 71 3).toList <:+ "rpi-health-pi-check-7".toList) :=
  probe_client_ids "rpi-health-pi-check-7" 71 3 (by decide)

end RpiHealth
