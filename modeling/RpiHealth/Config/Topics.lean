import RpiHealth.Config.Config
import Mathlib.Data.List.Nodup

/-! The topics derived from an accepted configuration. Validation looks at the base
topic, the Discovery prefix and the device id one by one; what is used are three
joins of them. -/
namespace RpiHealth

/-- The levels of a topic, as a broker reads them. -/
def levels (topic : String) : List (List Char) := topic.toList.splitOn '/'

/-- A topic that a client may publish to without surprises. -/
structure UsableTopic (topic : String) : Prop where
  nonempty : topic ≠ ""
  size : Text.size topic ≤ 65535
  start : Text.startsWith '/' topic = false
  finish : Text.endsWith '/' topic = false
  levels : ∀ level ∈ levels topic, level ≠ []
  concrete : '+' ∉ topic.toList ∧ '#' ∉ topic.toList
  printable : ∀ c ∈ topic.toList, Text.isControl c = false

def Config.topics (c : Config) : List String :=
  [c.mqtt.stateTopic, c.mqtt.availabilityTopic, c.mqtt.discoveryTopic c.device.id]

/-- An empty level after the first one shows as two slashes in a row, or at the end. -/
theorem empty_level (cs : List Char) (empty : [] ∈ (cs.splitOn '/').tail) :
    cs.getLast? = some '/' ∨ ['/', '/'] <:+: cs := by
  induction cs with
  | nil => simp at empty
  | cons c rest ih =>
    obtain ⟨level, later, split⟩ := List.exists_cons_of_ne_nil (List.splitOn_ne_nil '/' rest)
    have later_empty (found : [] ∈ later) :
        (c :: rest).getLast? = some '/' ∨ ['/', '/'] <:+: c :: rest := by
      rcases ih (by simpa [split] using found) with last | inside
      · left
        rw [List.getLast?_cons_of_ne_nil (by rintro rfl; simp at last)]
        exact last
      · right
        exact inside.trans (List.suffix_cons c rest).isInfix
    rw [List.splitOn_cons_eq_if_modifyHead, split] at empty
    by_cases slash : c = '/'
    · subst slash
      rw [if_pos (by simp), List.tail_cons, List.mem_cons] at empty
      rcases empty with here | found
      · -- the rest starts with an empty level: it is empty, or it starts with a slash
        cases rest with
        | nil => simp
        | cons d rest =>
          right
          rw [List.splitOn_cons_eq_if_modifyHead] at split
          split at split
          · rename_i again
            have : d = '/' := by simpa using again
            subst this
            exact ⟨[], rest, rfl⟩
          · obtain ⟨next, others, rest_split⟩ :=
              List.exists_cons_of_ne_nil (List.splitOn_ne_nil '/' rest)
            rw [rest_split, List.modifyHead_cons, List.cons.injEq] at split
            rw [← here] at split
            exact absurd split.1 (List.cons_ne_nil d next)
      · exact later_empty found
    · rw [if_neg (by simpa using slash), List.modifyHead_cons, List.tail_cons] at empty
      exact later_empty empty

theorem levels_of_valid (topic : String) (valid : validTopic topic = true) :
    ∀ level ∈ levels topic, level ≠ [] := by
  simp only [validTopic, Bool.and_eq_true, Bool.not_eq_true', Text.startsWith, Text.endsWith,
    Text.contains, decide_eq_false_iff_not] at valid
  obtain ⟨⟨⟨⟨⟨⟨⟨nonempty, -⟩, -⟩, start⟩, finish⟩, double⟩, -⟩, -⟩ := valid
  intro level member empty
  subst empty
  obtain ⟨first, later, split⟩ := List.exists_cons_of_ne_nil (List.splitOn_ne_nil '/' topic.toList)
  rw [levels, split, List.mem_cons] at member
  rcases member with here | found
  · cases chars : topic.toList with
    | nil =>
      have : topic = "" := String.toList_eq_nil_iff.mp chars
      simp [this] at nonempty
    | cons c rest =>
      rw [chars, List.splitOn_cons_eq_if_modifyHead] at split
      split at split
      · rename_i slash
        rw [chars] at start
        simp_all
      · obtain ⟨next, others, rest_split⟩ :=
          List.exists_cons_of_ne_nil (List.splitOn_ne_nil '/' rest)
        rw [rest_split, List.modifyHead_cons, List.cons.injEq, ← here] at split
        exact absurd split.1 (List.cons_ne_nil c next)
  · rcases empty_level topic.toList (by simpa [split] using found) with last | inside
    · simp [last] at finish
    · exact double inside

theorem usable_of_valid (topic : String) (valid : validTopic topic = true) : UsableTopic topic := by
  have full := levels_of_valid topic valid
  simp only [validTopic, Bool.and_eq_true, Bool.not_eq_true', decide_eq_true_eq, List.any_eq_false,
    Bool.or_eq_true, beq_iff_eq, not_or] at valid
  obtain ⟨⟨⟨⟨⟨⟨⟨nonempty, size⟩, -⟩, start⟩, finish⟩, -⟩, concrete⟩, printable⟩ := valid
  refine ⟨?_, size, start, finish, full, ⟨?_, ?_⟩, ?_⟩
  · rintro rfl
    simp at nonempty
  · intro member
    exact (concrete '+' member).1 rfl
  · intro member
    exact (concrete '#' member).2 rfl
  · intro c member
    simpa using printable c member

/-- A device id is a level of its own. -/
theorem usable_identifier (id : String) (valid : validIdentifier id 64 ['_', '-'] = true) :
    UsableTopic id := by
  simp only [validIdentifier, Bool.and_eq_true, Bool.not_eq_true', decide_eq_true_eq,
    List.all_eq_true] at valid
  obtain ⟨⟨nonempty, size⟩, characters⟩ := valid
  have absent (c : Char) (foreign : (Text.isAsciiAlphanumeric c || ['_', '-'].contains c) = false) :
      c ∉ id.toList := by
    intro member
    have := characters c member
    rw [foreign] at this
    contradiction
  have slash := absent '/' (by decide)
  have whole : levels id = [id.toList] := List.splitOn_eq_singleton slash
  have filled : id.toList ≠ [] := by
    intro empty
    simp [String.toList_eq_nil_iff.mp empty] at nonempty
  refine ⟨?_, by omega, ?_, ?_, ?_, ⟨absent '+' (by decide), absent '#' (by decide)⟩, ?_⟩
  · rintro rfl
    simp at nonempty
  · rw [Text.startsWith, beq_eq_false_iff_ne]
    intro first
    exact slash (List.mem_of_mem_head? (by rw [first]; rfl))
  · rw [Text.endsWith, beq_eq_false_iff_ne]
    intro last
    exact slash (List.mem_of_getLast? last)
  · intro level member
    rw [whole, List.mem_singleton] at member
    exact member ▸ filled
  · intro c member
    have accepted := characters c member
    simp only [Text.isAsciiAlphanumeric, List.contains_cons, List.contains_nil, Bool.or_false,
      Bool.or_eq_true, Bool.and_eq_true, decide_eq_true_eq, beq_iff_eq] at accepted
    simp only [Text.isControl, Bool.or_eq_false_iff, Bool.and_eq_false_iff, decide_eq_false_iff_not]
    rcases accepted with ((digit | upper) | lower) | rfl | rfl
    · omega
    · omega
    · omega
    · decide
    · decide

/-- Two usable topics make one. -/
theorem usable_join (front back : String) (first : UsableTopic front) (second : UsableTopic back)
    (small : Text.size (front ++ "/" ++ back) ≤ 65535) : UsableTopic (front ++ "/" ++ back) := by
  have parts : (front ++ "/" ++ back).toList = front.toList ++ '/' :: back.toList := by simp
  have filled : front.toList ≠ [] := fun empty =>
    first.nonempty (String.toList_eq_nil_iff.mp empty)
  have filled_back : back.toList ≠ [] := fun empty =>
    second.nonempty (String.toList_eq_nil_iff.mp empty)
  have members (c : Char) (member : c ∈ (front ++ "/" ++ back).toList) :
      c ∈ front.toList ∨ c = '/' ∨ c ∈ back.toList := by
    rw [parts] at member
    simpa using member
  refine ⟨?_, small, ?_, ?_, ?_, ⟨?_, ?_⟩, ?_⟩
  · intro empty
    simp [empty] at parts
  · rw [Text.startsWith, parts, List.head?_append_of_ne_nil _ filled]
    exact first.start
  · rw [Text.endsWith, parts, List.getLast?_append_of_ne_nil _ (List.cons_ne_nil _ _),
      List.getLast?_cons_of_ne_nil filled_back]
    exact second.finish
  · intro level member
    rw [levels, parts, List.splitOn_append_cons_self, List.mem_append] at member
    exact member.elim (first.levels level) (second.levels level)
  · intro member
    rcases members '+' member with here | here | here
    · exact first.concrete.1 here
    · contradiction
    · exact second.concrete.1 here
  · intro member
    rcases members '#' member with here | here | here
    · exact first.concrete.2 here
    · contradiction
    · exact second.concrete.2 here
  · intro c member
    rcases members c member with here | rfl | here
    · exact first.printable c here
    · decide
    · exact second.printable c here

theorem usable_child (front child : String) (first : UsableTopic front)
    (valid : validTopic child = true) (small : Text.size (front ++ ("/" ++ child)) ≤ 65535) :
    UsableTopic (front ++ ("/" ++ child)) := by
  rw [← String.append_assoc] at small ⊢
  exact usable_join front child first (usable_of_valid child valid) small

theorem discoveryTopic_usable (c : Config) (valid : c.Valid) :
    UsableTopic (c.mqtt.discoveryTopic c.device.id) := by
  have whole : c.mqtt.discoveryTopic c.device.id =
      c.mqtt.discoveryPrefix ++ "/" ++ "device" ++ "/" ++ c.device.id ++ "/" ++ "config" := by
    rw [← String.toList_inj]
    simp [MqttConfig.discoveryTopic]
  have size := valid.discoveryTopic
  rw [whole] at size ⊢
  simp only [Text.size_append] at size
  apply usable_join
  · apply usable_join
    · apply usable_join
      · exact usable_of_valid _ valid.discoveryPrefix
      · exact usable_of_valid "device" (by decide)
      · simp only [Text.size_append]
        omega
    · exact usable_identifier _ valid.deviceId
    · simp only [Text.size_append]
      omega
  · exact usable_of_valid "config" (by decide)
  · simp only [Text.size_append]
    omega

/-- The three topics differ in their last characters, whatever the base topic shares
with the Discovery prefix. -/
theorem topics_distinct (c : Config) : c.topics.Nodup := by
  have state : c.mqtt.stateTopic.toList.getLast? = some 'e' := by
    simp [MqttConfig.stateTopic]
  have availability : c.mqtt.availabilityTopic.toList.getLast? = some 'y' := by
    simp [MqttConfig.availabilityTopic]
  have discovery : (c.mqtt.discoveryTopic c.device.id).toList.getLast? = some 'g' := by
    rw [MqttConfig.discoveryTopic, String.toList_append, List.getLast?_append_of_ne_nil _ (by simp)]
    rfl
  apply List.Nodup.of_map (fun topic => topic.toList.getLast?)
  rw [Config.topics, List.map_cons, List.map_cons, List.map_cons, List.map_nil, state,
    availability, discovery]
  decide

/-- Every accepted configuration gives three usable topics that differ from each other. -/
theorem accepted_topics_usable (raw : RawConfig) (c : Config) (accepted : raw.validate = .ok c) :
    (∀ topic ∈ c.topics, UsableTopic topic) ∧ c.topics.Nodup := by
  have valid := (validate_eq_ok raw c accepted).1
  have base := usable_of_valid _ valid.baseTopic
  refine ⟨?_, topics_distinct c⟩
  intro topic member
  simp only [Config.topics, List.mem_cons, List.not_mem_nil, or_false] at member
  rcases member with rfl | rfl | rfl
  · exact usable_child c.mqtt.baseTopic "state" base (by decide) valid.stateTopic
  · exact usable_child c.mqtt.baseTopic "availability" base (by decide) valid.availabilityTopic
  · exact discoveryTopic_usable c valid

/-- The base topic lies where the Discovery documents of this device lie. -/
def overlappingRaw : RawConfig where
  device := ⟨"pi-4", "Kitchen"⟩
  mqtt := {
    host := defaultHost
    port := defaultPort
    clientId := "rpi-health-pi"
    username := "rpi-health"
    passwordFile := "/etc/rpi-health-mqtt/mqtt-password"
    baseTopic := "homeassistant/device/pi-4"
    discoveryPrefix := defaultDiscoveryPrefix
    keepAliveSeconds := defaultKeepAlive }
  collector := RawCollector.default

theorem accepted_topics_usable_overlapping : ∃ c, overlappingRaw.validate = .ok c ∧
    (∀ topic ∈ c.topics, UsableTopic topic) ∧ c.topics.Nodup :=
  ⟨_, rfl, accepted_topics_usable overlappingRaw _ rfl⟩

end RpiHealth
