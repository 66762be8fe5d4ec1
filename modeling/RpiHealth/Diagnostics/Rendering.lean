import RpiHealth.Diagnostics.Report

/-! The printed report. It has one line for each check, whatever the system answered, and
nothing that it says is lost in print. -/
namespace RpiHealth

/-- Nothing in the text ends a line. -/
structure Unbroken (s : String) : Prop where
  feed : '\n' ∉ s.toList
  carriage : '\r' ∉ s.toList

instance (s : String) : Decidable (Unbroken s) :=
  decidable_of_iff ('\n' ∉ s.toList ∧ '\r' ∉ s.toList)
    ⟨fun both => ⟨both.1, both.2⟩, fun unbroken => ⟨unbroken.feed, unbroken.carriage⟩⟩

/-- A literal by its characters: the kernel takes long to decode it. -/
theorem unbroken_ofList (l : List Char)
    (plain : (l.all fun c => c != '\n' && c != '\r') = true) : Unbroken (String.ofList l) := by
  simp only [List.all_eq_true, Bool.and_eq_true, bne_iff_ne] at plain
  constructor <;> rw [String.toList_ofList] <;> intro member
  · exact (plain _ member).1 rfl
  · exact (plain _ member).2 rfl

@[simp] theorem unbroken_append (s t : String) :
    Unbroken (s ++ t) ↔ Unbroken s ∧ Unbroken t := by
  constructor
  · rintro ⟨feed, carriage⟩
    simp only [String.toList_append, List.mem_append, not_or] at feed carriage
    exact ⟨⟨feed.1, carriage.1⟩, ⟨feed.2, carriage.2⟩⟩
  · rintro ⟨first, second⟩
    exact ⟨by simp [first.feed, second.feed], by simp [first.carriage, second.carriage]⟩

@[simp] theorem unbroken_decimal (n : Nat) : Unbroken (toString n) := by
  have digits := Text.toString_digits n
  constructor <;> exact fun member => absurd (digits _ member) (by decide)

theorem mem_intercalate {A : Type} (a : A) (mark : List A) (parts : List (List A))
    (member : a ∈ mark.intercalate parts) : a ∈ mark ∨ ∃ part ∈ parts, a ∈ part := by
  induction parts with
  | nil => simp at member
  | cons part rest ih =>
    cases rest with
    | nil => exact .inr ⟨part, by simp, by simpa using member⟩
    | cons next later =>
      rw [List.intercalate_cons_cons, List.append_assoc, List.mem_append, List.mem_append] at member
      rcases member with here | separator | behind
      · exact .inr ⟨part, by simp, here⟩
      · exact .inl separator
      · rcases ih behind with separator | ⟨other, among, inside⟩
        · exact .inl separator
        · exact .inr ⟨other, List.mem_cons_of_mem part among, inside⟩

theorem unbroken_intercalate (mark : String) (parts : List String) (plain : Unbroken mark)
    (each : ∀ part ∈ parts, Unbroken part) : Unbroken (String.intercalate mark parts) := by
  constructor
  · intro member
    rw [String.toList_intercalate] at member
    rcases mem_intercalate _ _ _ member with separator | ⟨part, among, inside⟩
    · exact plain.feed separator
    · obtain ⟨s, listed, rfl⟩ := List.mem_map.mp among
      exact (each s listed).feed inside
  · intro member
    rw [String.toList_intercalate] at member
    rcases mem_intercalate _ _ _ member with separator | ⟨part, among, inside⟩
    · exact plain.carriage separator
    · obtain ⟨s, listed, rfl⟩ := List.mem_map.mp among
      exact (each s listed).carriage inside

/-! No check breaks its line. -/

structure CheckUnbroken (check : DiagnosticCheck) : Prop where
  name : Unbroken check.name
  summary : Unbroken check.summary

theorem checkUnbroken_mk (name summary : String) (status : CheckStatus) (named : Unbroken name)
    (summed : Unbroken summary) : CheckUnbroken ⟨name, status, summary⟩ := ⟨named, summed⟩

theorem unbroken_credentials (config : MqttConfig) (file : CredentialFile) :
    CheckUnbroken (loadCredentials config file).1 := by
  unfold loadCredentials
  cases MqttCredentials.load config file with
  | ok credentials => exact checkUnbroken_mk _ _ _ (unbroken_ofList _ rfl) (unbroken_ofList _ rfl)
  | error e =>
    have plain : Unbroken (credentialFailureSummary e) := by
      cases e <;> exact unbroken_ofList _ rfl
    exact checkUnbroken_mk _ _ _ (unbroken_ofList _ rfl) plain

theorem unbroken_summary (identity : ProcessIdentity) : Unbroken identity.summary := by
  have groups : Unbroken (String.intercalate ", "
      ((Sorting.sortDedup identity.supplementaryGroups).map toString)) := by
    refine unbroken_intercalate ", " _ (unbroken_ofList _ rfl) (fun part member => ?_)
    obtain ⟨n, -, rfl⟩ := List.mem_map.mp member
    exact unbroken_decimal n
  unfold ProcessIdentity.summary
  simp only [unbroken_append, unbroken_decimal, groups, and_true]
  and_intros <;> exact unbroken_ofList _ rfl

theorem unbroken_identity (identity : Option ProcessIdentity) :
    CheckUnbroken (identityCheck identity) := by
  cases identity with
  | none => exact checkUnbroken_mk _ _ _ (unbroken_ofList _ rfl) (unbroken_ofList _ rfl)
  | some known =>
    by_cases root : known.effectiveUid = 0
    · rw [identityCheck, if_pos root]
      exact checkUnbroken_mk _ _ _ (unbroken_ofList _ rfl) (unbroken_ofList _ rfl)
    · rw [identityCheck, if_neg root]
      by_cases grouped : known.effectiveGid = 0 ∨ 0 ∈ known.supplementaryGroups
      · rw [if_pos grouped]
        exact checkUnbroken_mk _ _ _ (unbroken_ofList _ rfl) (unbroken_ofList _ rfl)
      · rw [if_neg grouped]
        exact checkUnbroken_mk _ _ _ (unbroken_ofList _ rfl) (unbroken_summary known)

theorem unbroken_architecture (architecture : String) (isArmv7 : Bool)
    (plain : Unbroken architecture) : CheckUnbroken (architectureCheck architecture isArmv7) := by
  cases isArmv7 <;> refine checkUnbroken_mk _ _ _ (unbroken_ofList _ rfl) ?_ <;>
    simp only [unbroken_append, plain, and_true] <;> and_intros <;>
    exact unbroken_ofList _ rfl

theorem unbroken_collector (errors : List CollectorError)
    (each : ∀ e ∈ errors, Unbroken e.metric) : CheckUnbroken (collectorCheck errors) := by
  unfold collectorCheck
  split
  · exact checkUnbroken_mk _ _ _ (unbroken_ofList _ rfl) (unbroken_ofList _ rfl)
  · have metrics : Unbroken (String.intercalate ", " (unavailableMetrics errors)) := by
      refine unbroken_intercalate ", " _ (unbroken_ofList _ rfl) (fun part member => ?_)
      rw [unavailableMetrics, Sorting.mem_sortDedup] at member
      obtain ⟨e, among, rfl⟩ := List.mem_map.mp member
      exact each e among
    refine checkUnbroken_mk _ _ _ (unbroken_ofList _ rfl) ?_
    simp only [unbroken_append, unbroken_decimal, metrics, and_true]
    and_intros <;> exact unbroken_ofList _ rfl

theorem unbroken_metadata (metadata : DeviceMetadata) : CheckUnbroken (metadataCheck metadata) := by
  unfold metadataCheck
  split
  · exact checkUnbroken_mk _ _ _ (unbroken_ofList _ rfl) (unbroken_ofList _ rfl)
  · have missing : Unbroken (String.intercalate ", " (missingMetadata metadata)) := by
      refine unbroken_intercalate ", " _ (unbroken_ofList _ rfl) (fun part member => ?_)
      obtain ⟨field, listed, chosen⟩ := List.mem_filterMap.mp member
      have names : ∀ name ∈ (checkedMetadata metadata).map Prod.fst, Unbroken name := by
        simp only [checkedMetadata, List.map_cons, List.map_nil, List.forall_mem_cons,
          List.not_mem_nil, false_imp_iff, implies_true, and_true]
        and_intros <;> exact unbroken_ofList _ rfl
      have named := names field.1 (List.mem_map_of_mem listed)
      split at chosen
      · obtain rfl := Option.some.inj chosen
        exact named
      · cases chosen
    refine checkUnbroken_mk _ _ _ (unbroken_ofList _ rfl) ?_
    simp only [unbroken_append, missing, and_true]
    exact unbroken_ofList _ rfl

theorem unbroken_power (power : PowerMetrics) : CheckUnbroken (checkPower power) := by
  unfold checkPower
  split
  · exact checkUnbroken_mk _ _ _ (unbroken_ofList _ rfl) (unbroken_ofList _ rfl)
  · split
    · exact checkUnbroken_mk _ _ _ (unbroken_ofList _ rfl) (unbroken_ofList _ rfl)
    · split <;> exact checkUnbroken_mk _ _ _ (unbroken_ofList _ rfl) (unbroken_ofList _ rfl)

theorem unbroken_mqtt (mqttProbe : MqttProbe) (credentials : Option MqttCredentials)
    (host : CheckHost) : CheckUnbroken (mqttCheck mqttProbe credentials host) := by
  unfold mqttCheck
  split
  · exact checkUnbroken_mk _ _ _ (unbroken_ofList _ rfl) (unbroken_ofList _ rfl)
  · rename_i loaded
    cases host.probe loaded with
    | ok u => exact checkUnbroken_mk _ _ _ (unbroken_ofList _ rfl) (unbroken_ofList _ rfl)
    | error failure => cases failure <;> exact checkUnbroken_mk _ _ _ (unbroken_ofList _ rfl) (unbroken_ofList _ rfl)
  · exact checkUnbroken_mk _ _ _ (unbroken_ofList _ rfl) (unbroken_ofList _ rfl)

/-! The report as a whole. -/

/-- The checks in the order of their execution. -/
def CHECK_ORDER : List String :=
  [CREDENTIALS_CHECK, IDENTITY_CHECK, ARCHITECTURE_CHECK, COLLECTOR_CHECK, METADATA_CHECK,
    POWER_CHECK, MQTT_CHECK]

theorem collectorChecks_unbroken (config : CollectorConfig) (start : StartHost) (cycle : Sources) :
    ∀ check ∈ collectorChecks config start cycle, CheckUnbroken check := by
  unfold collectorChecks
  cases Collector.new config start with
  | error e =>
    have plain : ∀ check ∈ ([⟨COLLECTOR_CHECK, .failure,
          "vcgencmd was not found at the configured or standard locations"⟩,
        ⟨METADATA_CHECK, .skipped,
          "hardware metadata was not checked because the collector could not start"⟩,
        ⟨POWER_CHECK, .skipped,
          "power flags were not checked because the collector could not start"⟩] :
        List DiagnosticCheck), Unbroken check.name ∧ Unbroken check.summary := by
      simp only [List.forall_mem_cons, List.not_mem_nil, false_imp_iff, implies_true, and_true]
      and_intros <;> exact unbroken_ofList _ rfl
    exact fun check member => ⟨(plain check member).1, (plain check member).2⟩
  | ok collector =>
    intro check member
    simp only [checkSnapshot, List.mem_cons, List.not_mem_nil, or_false] at member
    rcases member with rfl | rfl | rfl
    · refine unbroken_collector _ (fun e reported => ?_)
      rw [collect_eq] at reported
      have listed : e ∈ errorsOf collector cycle := reported
      rw [errorsOf_eq, List.mem_filterMap] at listed
      obtain ⟨g, -, failed⟩ := listed
      rw [failureOf_metric collector cycle g e failed]
      cases g <;> exact unbroken_ofList _ rfl
    · exact unbroken_metadata _
    · exact unbroken_power _

theorem runChecks_unbroken (config : Config) (mqttProbe : MqttProbe) (host : CheckHost)
    (plain : Unbroken host.architecture) :
    ∀ check ∈ (runChecks config mqttProbe host).checks, CheckUnbroken check := by
  intro check member
  simp only [runChecks, List.mem_append, List.mem_cons, List.not_mem_nil, or_false] at member
  rcases member with ((rfl | rfl | rfl) | within) | rfl
  · exact unbroken_credentials _ _
  · exact unbroken_identity _
  · exact unbroken_architecture _ _ plain
  · exact collectorChecks_unbroken _ _ _ check within
  · exact unbroken_mqtt _ _ _

theorem collectorChecks_names (config : CollectorConfig) (start : StartHost) (cycle : Sources) :
    (collectorChecks config start cycle).map DiagnosticCheck.name =
      [COLLECTOR_CHECK, METADATA_CHECK, POWER_CHECK] := by
  unfold collectorChecks
  cases Collector.new config start with
  | error e => rfl
  | ok collector =>
    have collected : ∀ errors, (collectorCheck errors).name = COLLECTOR_CHECK := by
      intro errors
      unfold collectorCheck
      split <;> rfl
    have metadata : (metadataCheck collector.metadata).name = METADATA_CHECK := by
      unfold metadataCheck
      split <;> rfl
    have power : ∀ power, (checkPower power).name = POWER_CHECK := by
      intro power
      unfold checkPower
      split
      · rfl
      · split
        · rfl
        · split <;> rfl
    simp only [checkSnapshot, List.map_cons, List.map_nil, collected, metadata, power]

theorem runChecks_names (config : Config) (mqttProbe : MqttProbe) (host : CheckHost) :
    (runChecks config mqttProbe host).checks.map DiagnosticCheck.name = CHECK_ORDER := by
  have credentials : (loadCredentials config.mqtt host.credentials).1.name = CREDENTIALS_CHECK := by
    unfold loadCredentials
    cases MqttCredentials.load config.mqtt host.credentials <;> rfl
  have identity : ∀ known, (identityCheck known).name = IDENTITY_CHECK := by
    intro known
    cases known with
    | none => rfl
    | some known =>
      by_cases root : known.effectiveUid = 0
      · rw [identityCheck, if_pos root]
      · rw [identityCheck, if_neg root]
        by_cases grouped : known.effectiveGid = 0 ∨ 0 ∈ known.supplementaryGroups
        · rw [if_pos grouped]
        · rw [if_neg grouped]
  have architecture : (architectureCheck host.architecture host.isArmv7).name =
      ARCHITECTURE_CHECK := by
    cases host.isArmv7 <;> rfl
  have mqtt : ∀ loaded, (mqttCheck mqttProbe loaded host).name = MQTT_CHECK := by
    intro loaded
    unfold mqttCheck
    split
    · rfl
    · rename_i known
      cases host.probe known <;> rfl
    · rfl
  simp only [runChecks, List.map_append, List.map_cons, List.map_nil, collectorChecks_names,
    credentials, checkRuntimeIdentity, identity, architecture, mqtt]
  rfl

theorem unbroken_render (check : DiagnosticCheck) (plain : CheckUnbroken check) :
    Unbroken check.render := by
  have label : Unbroken check.status.label := by
    cases check.status <;> exact unbroken_ofList _ rfl
  simp only [DiagnosticCheck.render, unbroken_append, label, plain.name, plain.summary, and_true]
  and_intros <;> exact unbroken_ofList _ rfl

/-- The labels differ in their first letters. -/
theorem label_apart (a b : CheckStatus) (front back : List Char)
    (same : a.label.toList ++ front = b.label.toList ++ back) : a = b := by
  have opens : ∀ (status : CheckStatus) (rest : List Char),
      (status.label.toList ++ rest).head? = status.label.toList.head? := by
    intro status rest
    cases status <;> rfl
  have first : a.label.toList.head? = b.label.toList.head? := by
    rw [← opens a front, same, opens]
  revert first
  cases a <;> cases b <;> decide

theorem render_injective (a b : DiagnosticCheck) (named : a.name = b.name)
    (same : a.render = b.render) : a = b := by
  have split : ∀ c : DiagnosticCheck, c.render.toList = '[' :: (c.status.label.toList ++
      (']' :: ' ' :: (c.name.toList ++ (':' :: ' ' :: c.summary.toList)))) := by
    intro c
    simp [DiagnosticCheck.render]
  have whole := congrArg String.toList same
  rw [split, split, List.cons_inj_right] at whole
  have status := label_apart _ _ _ _ whole
  rw [status, named] at whole
  have summary : a.summary.toList = b.summary.toList := by
    simpa using whole
  obtain ⟨name, aStatus, aSummary⟩ := a
  obtain ⟨bName, bStatus, bSummary⟩ := b
  obtain rfl : name = bName := named
  obtain rfl : aStatus = bStatus := status
  obtain rfl : aSummary = bSummary := String.toList_inj.mp summary
  rfl

theorem intercalate_lines (parts : List (List Char)) (nonempty : parts ≠ []) :
    ['\n'].intercalate parts ++ ['\n'] = parts.flatMap (fun part => part ++ ['\n']) := by
  induction parts with
  | nil => exact absurd rfl nonempty
  | cons part rest ih =>
    cases rest with
    | nil => simp
    | cons next later =>
      rw [List.intercalate_cons_cons, List.append_assoc, ih (List.cons_ne_nil next later)]
      rfl

theorem display_printed (report : DiagnosticReport) (nonempty : report.checks ≠ []) :
    report.display ++ "\n" = Text.printLines (report.checks.map DiagnosticCheck.render) := by
  apply String.toList_inj.mp
  have lines := intercalate_lines
    ((report.checks.map DiagnosticCheck.render).map String.toList) (by simpa using nonempty)
  rw [DiagnosticReport.display, Text.printLines, String.toList_append, String.toList_intercalate]
  refine lines.trans ?_
  rw [List.flatMap_map, String.toList_ofList]

/-- What is printed, line by line. -/
theorem lines_report (config : Config) (mqttProbe : MqttProbe) (host : CheckHost)
    (plain : Unbroken host.architecture) :
    Text.lines ((runChecks config mqttProbe host).display ++ "\n") =
      (runChecks config mqttProbe host).checks.map DiagnosticCheck.render := by
  have some_checks : (runChecks config mqttProbe host).checks ≠ [] := by simp [runChecks]
  rw [display_printed _ some_checks]
  refine Text.lines_printLines _ (fun line member => ?_)
  obtain ⟨check, among, rfl⟩ := List.mem_map.mp member
  have whole := unbroken_render check (runChecks_unbroken config mqttProbe host plain check among)
  exact ⟨whole.feed, fun last => whole.carriage (List.mem_of_getLast? last)⟩

/-- Seven lines in the order of the checks, whatever was met, and two reports that print
alike are the same report. -/
theorem report_readable (config : Config) (mqttProbe : MqttProbe) (host : CheckHost)
    (plain : Unbroken host.architecture) :
    let report := runChecks config mqttProbe host
    Text.lines (report.display ++ "\n") = report.checks.map DiagnosticCheck.render ∧
      report.checks.map DiagnosticCheck.name = CHECK_ORDER ∧
      ∀ (other : Config) (otherProbe : MqttProbe) (otherHost : CheckHost),
        Unbroken otherHost.architecture →
        (runChecks other otherProbe otherHost).display = report.display →
        runChecks other otherProbe otherHost = report := by
  refine ⟨lines_report config mqttProbe host plain, runChecks_names config mqttProbe host,
    fun other otherProbe otherHost otherPlain same => ?_⟩
  have shown : (runChecks other otherProbe otherHost).checks.map DiagnosticCheck.render =
      (runChecks config mqttProbe host).checks.map DiagnosticCheck.render := by
    rw [← lines_report other otherProbe otherHost otherPlain, same,
      lines_report config mqttProbe host plain]
  have named : (runChecks other otherProbe otherHost).checks.map DiagnosticCheck.name =
      (runChecks config mqttProbe host).checks.map DiagnosticCheck.name := by
    rw [runChecks_names, runChecks_names]
  have checks : (runChecks other otherProbe otherHost).checks =
      (runChecks config mqttProbe host).checks := by
    apply List.ext_getElem
    · simpa using congrArg List.length shown
    · intro i first second
      have rendered := congrArg (fun l => l[i]?) shown
      have names := congrArg (fun l => l[i]?) named
      simp only [List.getElem?_map, List.getElem?_eq_getElem first,
        List.getElem?_eq_getElem second, Option.map_some, Option.some.injEq] at rendered names
      exact render_injective _ _ names rendered
  exact congrArg DiagnosticReport.mk checks

def sampleConfig : Config where
  device := ⟨"pi", "Pi"⟩
  mqtt := ⟨"127.0.0.1", ⟨1883, by decide⟩, "pi", "pi", "/run/password", "pi", "homeassistant", 30⟩
  collector := ⟨30, "/", "/usr/bin/vcgencmd", 2⟩

/-- A machine that answers nothing. -/
def deafHost : CheckHost where
  credentials := ⟨.error ⟨.notFound, "not found"⟩, .error ⟨.notFound, "not found"⟩⟩
  processStatus := .error ⟨.notFound, "not found"⟩
  architecture := "arm"
  isArmv7 := true
  start := ⟨fun _ => false, ⟨fun _ => .error ⟨.notFound, "not found"⟩,
    fun _ => .error ⟨.notFound, "not found"⟩⟩⟩
  cycle := {
    readText := fun _ _ => .error ⟨.notFound, "not found"⟩
    run := fun _ _ _ => .error .spawn
    statvfs := fun _ => .error ⟨.notFound, "not found"⟩
    observedAt := ⟨0⟩
    startedAt := 0
    endedAt := 0 }
  probe _ := .error .unreachable

theorem report_readable_deaf :
    let report := runChecks sampleConfig .enabled deafHost
    Text.lines (report.display ++ "\n") = report.checks.map DiagnosticCheck.render ∧
      report.checks.map DiagnosticCheck.name = CHECK_ORDER ∧
      ∀ (other : Config) (otherProbe : MqttProbe) (otherHost : CheckHost),
        Unbroken otherHost.architecture →
        (runChecks other otherProbe otherHost).display = report.display →
        runChecks other otherProbe otherHost = report :=
  report_readable sampleConfig .enabled deafHost (by decide)

end RpiHealth
