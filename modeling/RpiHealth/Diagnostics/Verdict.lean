import RpiHealth.Diagnostics.Report

/-! When the diagnostic command fails. Each check fails for reasons of its own, and the
exit code is the disjunction of them. -/
namespace RpiHealth

/-- What prevents a safe or complete start of the service. -/
inductive Blocking (config : Config) (mqttProbe : MqttProbe) (host : CheckHost) : Prop where
  | credentials (e : ConfigError)
      (refused : MqttCredentials.load config.mqtt host.credentials = .error e)
  | unknown (unread : host.processStatus.toOption.bind parseProcessIdentity = none)
  | superuser (identity : ProcessIdentity)
      (read : host.processStatus.toOption.bind parseProcessIdentity = some identity)
      (root : identity.effectiveUid = 0)
  | firmware (absent : ∀ path, ¬ Findable host.start.isFile config.collector.vcgencmdPath path)
  /-- Only the frequency may be missing. -/
  | source (collector : Collector)
      (started : Collector.new config.collector host.start = .ok collector) (g : MetricGroup)
      (required : g ≠ .frequency) (fails : failureOf collector host.cycle g ≠ none)
  | broker (credentials : MqttCredentials) (failure : MqttProbeFailure)
      (loaded : MqttCredentials.load config.mqtt host.credentials = .ok credentials)
      (asked : mqttProbe = .enabled) (refused : host.probe credentials = .error failure)

theorem hasFailures_iff (report : DiagnosticReport) :
    report.hasFailures = true ↔ ∃ check ∈ report.checks, check.status = .failure := by
  simp [DiagnosticReport.hasFailures]

theorem loadCredentials_fails (config : MqttConfig) (file : CredentialFile) :
    (loadCredentials config file).1.status = .failure ↔
      ∃ e, MqttCredentials.load config file = .error e := by
  unfold loadCredentials
  cases MqttCredentials.load config file <;> simp

theorem loadCredentials_some (config : MqttConfig) (file : CredentialFile)
    (credentials : MqttCredentials) :
    (loadCredentials config file).2 = some credentials ↔
      MqttCredentials.load config file = .ok credentials := by
  unfold loadCredentials
  cases MqttCredentials.load config file <;> simp

theorem identityCheck_fails (identity : Option ProcessIdentity) :
    (identityCheck identity).status = .failure ↔
      identity = none ∨ ∃ known, identity = some known ∧ known.effectiveUid = 0 := by
  cases identity with
  | none => simp [identityCheck]
  | some known =>
    by_cases root : known.effectiveUid = 0
    · simp [identityCheck, root]
    · by_cases grouped : known.effectiveGid = 0 ∨ 0 ∈ known.supplementaryGroups <;>
        simp [identityCheck, root, grouped]

theorem architectureCheck_fails (architecture : String) (isArmv7 : Bool) :
    (architectureCheck architecture isArmv7).status ≠ .failure := by
  cases isArmv7 <;> simp [architectureCheck]

/-- One metric besides the frequency is enough. -/
theorem collectorCheck_fails (errors : List CollectorError) :
    (collectorCheck errors).status = .failure ↔
      ∃ e ∈ errors, e.metric ≠ MetricGroup.frequency.metric := by
  by_cases complete : errors = []
  · simp [collectorCheck, complete]
  · have only : unavailableMetrics errors = ["cpu.frequency_mhz"] ↔
        ∀ e ∈ errors, e.metric = "cpu.frequency_mhz" := by
      rw [unavailableMetrics, Sorting.sortDedup_eq_singleton]
      simp [complete]
    by_cases optional : unavailableMetrics errors = ["cpu.frequency_mhz"]
    · have all := only.mp optional
      simp only [collectorCheck, if_neg complete, if_pos optional]
      simpa [MetricGroup.metric] using all
    · have some_other : ¬ ∀ e ∈ errors, e.metric = "cpu.frequency_mhz" :=
        fun all => optional (only.mpr all)
      simp only [collectorCheck, if_neg complete, if_neg optional]
      simpa [MetricGroup.metric] using some_other

theorem metadataCheck_fails (metadata : DeviceMetadata) :
    (metadataCheck metadata).status ≠ .failure := by
  unfold metadataCheck
  split <;> simp

theorem checkPower_fails (power : PowerMetrics) : (checkPower power).status ≠ .failure := by
  unfold checkPower
  split
  · simp
  · split
    · simp
    · split <;> simp

theorem collectorNew_error_iff (config : CollectorConfig) (host : StartHost) :
    (∃ e, Collector.new config host = .error e) ↔
      ∀ path, ¬ Findable host.isFile config.vcgencmdPath path := by
  rw [← resolveVcgencmd_error_iff, Collector.new]
  cases resolveVcgencmd host.isFile config.vcgencmdPath <;> simp [Except.map]

theorem collectorChecks_fail (config : CollectorConfig) (start : StartHost) (cycle : Sources) :
    (∃ check ∈ collectorChecks config start cycle, check.status = .failure) ↔
      (∀ path, ¬ Findable start.isFile config.vcgencmdPath path) ∨
        ∃ collector, Collector.new config start = .ok collector ∧
          ∃ g, g ≠ .frequency ∧ failureOf collector cycle g ≠ none := by
  cases started : Collector.new config start with
  | error e =>
    have absent := (collectorNew_error_iff config start).mp ⟨e, started⟩
    simp only [collectorChecks, started]
    exact ⟨fun _ => .inl absent, fun _ => ⟨_, List.mem_cons_self, rfl⟩⟩
  | ok collector =>
    have present : ¬ ∀ path, ¬ Findable start.isFile config.vcgencmdPath path := by
      rw [← collectorNew_error_iff, started]
      simp
    have snapshot : (collect collector cycle).1.state.health.collectorErrors =
        errorsOf collector cycle := by
      rw [collect_eq]
      rfl
    have failing : (∃ check ∈ collectorChecks config start cycle, check.status = .failure) ↔
        (collectorCheck (errorsOf collector cycle)).status = .failure := by
      simp [collectorChecks, started, checkSnapshot, snapshot, metadataCheck_fails,
        checkPower_fails]
    rw [failing, collectorCheck_fails]
    simp only [present, false_or, Except.ok.injEq, exists_eq_left']
    constructor
    · rintro ⟨e, member, other⟩
      rw [errorsOf_eq, List.mem_filterMap] at member
      obtain ⟨g, -, failed⟩ := member
      have named := failureOf_metric collector cycle g e failed
      refine ⟨g, fun same => other ?_, by simp [failed]⟩
      rw [named, same]
    · rintro ⟨g, other, fails⟩
      obtain ⟨e, failed⟩ := Option.ne_none_iff_exists'.mp fails
      have named := failureOf_metric collector cycle g e failed
      refine ⟨e, (mem_errorsOf collector cycle g e named).mpr failed, fun same => other ?_⟩
      exact MetricGroup.metric_injective g .frequency (named.symm.trans same)

theorem mqttCheck_fails (mqttProbe : MqttProbe) (credentials : Option MqttCredentials)
    (host : CheckHost) :
    (mqttCheck mqttProbe credentials host).status = .failure ↔
      mqttProbe = .enabled ∧ ∃ loaded failure, credentials = some loaded ∧
        host.probe loaded = .error failure := by
  cases mqttProbe with
  | skipped => simp [mqttCheck]
  | enabled =>
    cases credentials with
    | none => simp [mqttCheck]
    | some loaded => cases probed : host.probe loaded <;> simp [mqttCheck, checkMqtt, probed]

/-- Only the architecture never counts. -/
theorem runChecks_fail (config : Config) (mqttProbe : MqttProbe) (host : CheckHost) :
    (∃ check ∈ (runChecks config mqttProbe host).checks, check.status = .failure) ↔
      (loadCredentials config.mqtt host.credentials).1.status = .failure ∨
        (checkRuntimeIdentity host.processStatus).status = .failure ∨
        (∃ check ∈ collectorChecks config.collector host.start host.cycle,
          check.status = .failure) ∨
        (mqttCheck mqttProbe (loadCredentials config.mqtt host.credentials).2 host).status =
          .failure := by
  simp [runChecks, or_and_right, exists_or, architectureCheck_fails]

/-- The report has a failure for each of the reasons, and for no other. -/
theorem hasFailures_blocking (config : Config) (mqttProbe : MqttProbe) (host : CheckHost) :
    (runChecks config mqttProbe host).hasFailures = true ↔ Blocking config mqttProbe host := by
  rw [hasFailures_iff, runChecks_fail, loadCredentials_fails, checkRuntimeIdentity,
    identityCheck_fails, collectorChecks_fail, mqttCheck_fails]
  constructor
  · rintro (⟨e, refused⟩ | (unread | ⟨known, read, root⟩) |
      (absent | ⟨collector, started, g, required, fails⟩) |
      ⟨asked, credentials, failure, loaded, refused⟩)
    · exact .credentials e refused
    · exact .unknown unread
    · exact .superuser known read root
    · exact .firmware absent
    · exact .source collector started g required fails
    · exact .broker credentials failure ((loadCredentials_some _ _ _).mp loaded) asked refused
  · intro blocking
    cases blocking with
    | credentials e refused => exact .inl ⟨e, refused⟩
    | unknown unread => exact .inr (.inl (.inl unread))
    | superuser known read root => exact .inr (.inl (.inr ⟨known, read, root⟩))
    | firmware absent => exact .inr (.inr (.inl (.inl absent)))
    | source collector started g required fails =>
      exact .inr (.inr (.inl (.inr ⟨collector, started, g, required, fails⟩)))
    | broker credentials failure loaded asked refused =>
      exact .inr (.inr (.inr ⟨asked, credentials, failure,
        (loadCredentials_some _ _ _).mpr loaded, refused⟩))

theorem exitCode_blocked (config : Config) (mqttProbe : MqttProbe) (host : CheckHost)
    (blocking : Blocking config mqttProbe host) :
    (runChecks config mqttProbe host).exitCode = DIAGNOSTIC_ERROR :=
  if_pos ((hasFailures_blocking config mqttProbe host).mpr blocking)

theorem exitCode_free (config : Config) (mqttProbe : MqttProbe) (host : CheckHost)
    (free : ¬ Blocking config mqttProbe host) :
    (runChecks config mqttProbe host).exitCode = SUCCESS :=
  if_neg (fun fails => free ((hasFailures_blocking config mqttProbe host).mp fails))

/-- The exit code says whether something prevents a safe or complete start, and what may
only be worth a look never changes it. -/
theorem report_verdict (config : Config) (mqttProbe : MqttProbe) (host : CheckHost) :
    ((runChecks config mqttProbe host).exitCode = DIAGNOSTIC_ERROR ↔
      Blocking config mqttProbe host) ∧
    ((runChecks config mqttProbe host).exitCode = SUCCESS ↔ ¬ Blocking config mqttProbe host) := by
  by_cases blocking : Blocking config mqttProbe host
  · simp [exitCode_blocked config mqttProbe host blocking, blocking, DIAGNOSTIC_ERROR, SUCCESS]
  · simp [exitCode_free config mqttProbe host blocking, blocking, DIAGNOSTIC_ERROR, SUCCESS]

end RpiHealth
