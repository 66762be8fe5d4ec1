import RpiHealth.Collector.Board
import RpiHealth.Diagnostics.Conversation
import RpiHealth.Diagnostics.Rendering
import RpiHealth.Program.Exits

/-! What a check that finds nothing promises: the broker has accepted it if it was asked,
and with the same files the daemon gets as far as its service, where only a signal ends
it. -/
namespace RpiHealth
open Machines Serde Service

section Signals

variable {C X : Type} (rules : ClientRules) (collects : SnapshotCollector C X)

theorem firstEnded_other (s : Service C) (completion : Completion)
    (first : s.firstEnded = some completion) (received : Except IoError Unit) :
    completion ≠ .signal received := by
  rintro rfl
  unfold Service.firstEnded at first
  split at first <;> simp at first

theorem serves_signalled (s t : Service C) (i : ServiceInput X) (emitted : List (Served X))
    (taken : Serves rules collects s i emitted t) (received : Except IoError Unit)
    (shown : .inr (.completed (.signal received)) ∈ emitted) : i = .signal received := by
  cases taken with
  | mqtt i own w may stepped => simp at shown
  | signal other free control =>
    simp only [Service.complete, List.mem_cons, Sum.inr.injEq, ServiceObs.completed.injEq,
      Completion.signal.injEq, reduceCtorEq, List.not_mem_nil, or_false] at shown
    rw [shown]
  | observe completion free control first =>
    simp only [Service.complete, List.mem_cons, Sum.inr.injEq, ServiceObs.completed.injEq,
      reduceCtorEq, List.not_mem_nil, or_false] at shown
    exact absurd shown.symm (firstEnded_other s completion first received)
  | _ => simp at shown

/-- The select ends with a signal only where one was received. -/
theorem service_signalled (collector : C) (settings : MqttSettings) (discoveryPayload : String)
    (inputs : List (ServiceInput X)) (trace : List (Served X)) (s : Service C)
    (ran : (service rules collects collector settings discoveryPayload).run inputs =
      some (trace, s)) (received : Except IoError Unit)
    (shown : .inr (.completed (.signal received)) ∈ trace) : .signal received ∈ inputs := by
  let m := service rules collects collector settings discoveryPayload
  have along : m.Along (fun _ i => i ∈ inputs) m.initial inputs :=
    m.along_of_mem _ inputs (fun _ member => member) m.initial
  refine m.invariant_along (fun _ i => i ∈ inputs)
    (fun trace _ => ∀ received, .inr (.completed (.signal received)) ∈ trace →
      .signal received ∈ inputs) (by simp) ?_ inputs trace s along ran received shown
  intro trace s i emitted t before member taken received shown
  rcases List.mem_append.mp shown with earlier | here
  · exact before received earlier
  · have same := serves_signalled rules collects s t i emitted
      (serve_serves rules collects s emitted t i taken) received here
    exact same ▸ member

end Signals

namespace Libraries

variable (l : Libraries)

/-- A service that nothing fails in returns how its signal was received. -/
theorem service_returns (config : Config) (collector : Collector)
    (events : List (ServiceInput Sources)) (calm : ∀ i ∈ events, i.isPanic = false)
    (writable : ∀ met, .collect met ∈ events →
      met.Roundable collector ∧ (l.times.format met.observedAt).isSome)
    (trace : List (Served Sources)) (s : Service Collector)
    (ran : (l.service config collector).run events = some (trace, s))
    (answering : Answering (told trace)) (result : ServiceResult)
    (returned : s.control = .returned result) :
    ∃ received, .signal received ∈ events ∧ result = received.mapError .signalHandling := by
  have steady := service_steady l.client (snapshots l.times l.compact)
    (fun c => ∀ met : Sources, met.Roundable c ↔ met.Roundable collector)
    (MqttSettings.new config.mqtt config.device.id)
    (discoveryMessage config collector.metadata).payload collector (fun met => Iff.rfl)
    events calm (snapshots_reliable l.times l.compact collector events writable) trace s ran
  obtain ⟨received, shown, same⟩ := (steady.2.2.2 answering).returned result returned
  exact ⟨received, service_signalled _ _ _ _ _ events trace s ran received shown, same⟩

theorem check_passes (path : String) (skipMqtt : Bool) (host : ProgramHost) (report : Exit)
    (checks : l.run ⟨path, some (.check skipMqtt)⟩ host = some report)
    (passes : report.code = SUCCESS) : ∃ config, Config.load l.toml path host.file = .ok config ∧
      ¬ Blocking config (probeMode skipMqtt) host.toCheckHost := by
  have leads := l.run_leads _ host report checks
  rw [passes] at leads
  generalize code : SUCCESS = success at leads
  cases leads with
  | ready config skip loaded asked alive free =>
    obtain rfl : skip = skipMqtt := by simpa using asked.symm
    exact ⟨config, loaded, free⟩
  | printed config collector loaded asked => simp at asked
  | served config credentials collector trace s result loaded daemon => cases daemon
  | _ => exact absurd code (by decide)

end Libraries

theorem parse_valid (toml : Toml) (source : String) (config : Config)
    (parsed : Config.parse toml source = .ok config) : config.Valid := by
  unfold Config.parse at parsed
  split at parsed
  · contradiction
  · split at parsed
    · contradiction
    · split at parsed
      · contradiction
      · rename_i raw _
        exact (validate_eq_ok raw config parsed).1

theorem load_valid (toml : Toml) (path : String) (file : ConfigFile) (config : Config)
    (loaded : Config.load toml path file = .ok config) : config.Valid := by
  simp only [Config.load, bind, Except.bind] at loaded
  repeat' split at loaded
  all_goals first | contradiction | exact parse_valid toml _ config loaded

/-- What blocks nothing starts: the credentials are there, and the firmware's command. -/
theorem unblocked_starts (config : Config) (mqttProbe : MqttProbe) (host : CheckHost)
    (free : ¬ Blocking config mqttProbe host) : ∃ credentials collector,
      MqttCredentials.load config.mqtt host.credentials = .ok credentials ∧
        Collector.new config.collector host.start = .ok collector := by
  cases authorized : MqttCredentials.load config.mqtt host.credentials with
  | error e => exact absurd (.credentials e authorized) free
  | ok credentials =>
    cases started : Collector.new config.collector host.start with
    | error e =>
      exact absurd (.firmware ((collectorNew_error_iff _ _).mp ⟨e, started⟩)) free
    | ok collector => exact ⟨credentials, collector, rfl, rfl⟩

/-- Where a check exits well that asked the broker, the daemon's broker has accepted the daemon's
user. Then a daemon with the same files, the same firmware and a runtime that starts runs its
service. As long as no task panics, the numbers met can be written and
the client returns as acknowledged only what was sent, it exits only after a signal, and
well, with nothing printed and no complaint, where that was received. -/
theorem program_preflight (l : Libraries) (path : String) (skipMqtt : Bool)
    (checked host : ProgramHost) (file : host.file = checked.file)
    (credentials : host.credentials = checked.credentials) (start : host.start = checked.start)
    (alive : host.runtime = .ok ()) (report : Exit)
    (checks : l.run ⟨path, some (.check skipMqtt)⟩ checked = some report)
    (passes : report.code = SUCCESS) :
    ∃ config secret collector, Config.load l.toml path host.file = .ok config ∧
      MqttCredentials.load config.mqtt host.credentials = .ok secret ∧
      Collector.new config.collector host.start = .ok collector ∧
      (skipMqtt = false →
        (∀ processId sequence, ∃ options,
          (probeOptions config.mqtt secret processId sequence).1 = some options ∧
            options.Beside ((MqttSettings.new config.mqtt config.device.id).options secret)
              processId sequence) ∧
        ∀ inputs trace p, probeMqtt.run inputs = some (trace, p) →
          p.ended = some (checked.probe secret) →
            ∃ met last, inputs = met ++ [last] ∧ 0 < acceptances met ∧ last.Closes) ∧
      ((∀ i ∈ host.events, i.isPanic = false) → (∀ met, .collect met ∈ host.events →
          met.Roundable collector ∧ (l.times.format met.observedAt).isSome) →
        (∀ trace s, (l.service config collector).run host.events = some (trace, s) →
          Answering (told trace)) →
        ∀ exit, l.run ⟨path, none⟩ host = some exit → ∃ received, .signal received ∈ host.events ∧
          exit = Libraries.daemonExit ((received.mapError .signalHandling).mapError .service)) := by
  obtain ⟨config, loaded, free⟩ := l.check_passes path skipMqtt checked report checks passes
  obtain ⟨secret, collector, authorized, started⟩ := unblocked_starts config _ _ free
  have valid := load_valid l.toml path checked.file config loaded
  have asked : skipMqtt = false → ∀ inputs trace p, probeMqtt.run inputs = some (trace, p) →
      p.ended = some (checked.probe secret) →
        ∃ met last, inputs = met ++ [last] ∧ 0 < acceptances met ∧ last.Closes := by
    rintro rfl
    exact probed_accepted config checked.toCheckHost free secret authorized
  rw [← file] at loaded
  rw [← credentials] at authorized
  rw [← start] at started
  refine ⟨config, secret, collector, loaded, authorized, started, fun enabled =>
    ⟨probeOptions_beside config valid secret, asked enabled⟩,
    fun calm writable answering exit ran => ?_⟩
  simp only [Libraries.run, loaded, authorized, Libraries.runDaemon, started, alive] at ran
  obtain ⟨ended, returns, rfl⟩ := Option.map_eq_some_iff.mp ran
  obtain ⟨⟨trace, s⟩, served, later⟩ := Option.bind_eq_some_iff.mp returns
  obtain ⟨result, read, same⟩ := Option.bind_eq_some_iff.mp later
  obtain rfl := Option.some.inj same
  obtain ⟨received, signalled, is⟩ := l.service_returns config collector host.events calm writable
    trace s served (answering trace s served) result ((ServiceControl.result?_eq_some _ _).mp read)
  exact ⟨received, signalled, by rw [is]⟩

/-- A configuration that says no more than it must. -/
def minimalNode : Node :=
  .table 0 [("device", 1, .table 0 [("id", 10, .string 15 "pi"), ("name", 20, .string 27 "Pi")]),
    ("mqtt", 33, .table 32 [("client_id", 40, .string 52 "pi"), ("username", 57, .string 68 "pi"),
      ("password_file", 73, .string 89 "/run/password"), ("base_topic", 105, .string 118 "pi")])]

def readyLibraries : Libraries where
  toml := ⟨Empty, Empty.elim, fun _ => .ok minimalNode, fun _ => true⟩
  times := sampleTimes
  compact _ := "{}"
  pretty _ := "\x7b\n\x7d"
  client := .documented fun _ => true

/-- A board with all that is needed, and a service that is stopped by a signal. -/
def readyHost : ProgramHost where
  credentials := ⟨.ok ⟨true, 7, 0o600⟩, .ok "secret\n".toUTF8⟩
  processStatus := .ok "Uid:\t995\t995\t995\t995\nGid:\t995\t995\t995\t995\nGroups:\t44\n"
  architecture := "arm"
  isArmv7 := true
  start := ⟨fun _ => true, ⟨fun _ => .error ⟨.notFound, "not found"⟩,
    fun _ => .error ⟨.notFound, "not found"⟩⟩⟩
  cycle := youngSources
  probe _ := .ok ()
  file := ⟨.ok ⟨true, 122, 0o644⟩, .ok "[device]\n[mqtt]\n"⟩
  runtime := .ok ()
  events := deniedService

theorem readyHost_free :
    ¬ Blocking sampleConfig (probeMode false) readyHost.toCheckHost := by
  have authorized : MqttCredentials.load sampleConfig.mqtt readyHost.credentials =
      .ok ⟨"pi", "secret"⟩ := rfl
  have identity : readyHost.processStatus.toOption.bind parseProcessIdentity =
      some ⟨995, 995, [44]⟩ := by decide +kernel
  have started : Collector.new sampleConfig.collector readyHost.start =
      .ok { sampleCollector with commandTimeout := defaultCommandTimeout } := rfl
  rintro (⟨e, refused⟩ | unread | ⟨known, read, root⟩ | absent |
    ⟨collector, made, g, required, fails⟩ | ⟨credentials, failure, loaded, asked, failed⟩)
  · rw [authorized] at refused
    cases refused
  · rw [identity] at unread
    cases unread
  · rw [identity] at read
    cases read
    cases root
  · exact absent defaultVcgencmd ⟨rfl, .inl rfl⟩
  · rw [started] at made
    cases made
    have whole := (collect_reported _ youngSources youngBoard
      (youngSources_shows defaultCommandTimeout)).1.health
    rw [collect_eq] at whole
    have none_failed : errorsOf { sampleCollector with commandTimeout := defaultCommandTimeout }
        youngSources = [] := congrArg Health.collectorErrors whole
    rw [errorsOf_eq, List.filterMap_eq_nil_iff] at none_failed
    exact fails (none_failed g (by cases g <;> decide))
  · cases failed

theorem program_preflight_ready : ∃ config secret collector,
    Config.load readyLibraries.toml DEFAULT_CONFIG_PATH readyHost.file = .ok config ∧
      MqttCredentials.load config.mqtt readyHost.credentials = .ok secret ∧
      Collector.new config.collector readyHost.start = .ok collector ∧
      (∀ processId sequence, ∃ options,
        (probeOptions config.mqtt secret processId sequence).1 = some options ∧
          options.Beside ((MqttSettings.new config.mqtt config.device.id).options secret)
            processId sequence) ∧
      (∀ inputs trace p, probeMqtt.run inputs = some (trace, p) →
        p.ended = some (readyHost.probe secret) →
          ∃ met last, inputs = met ++ [last] ∧ 0 < acceptances met ∧ last.Closes) ∧
      ((∀ i ∈ readyHost.events, i.isPanic = false) → (∀ met, .collect met ∈ readyHost.events →
          met.Roundable collector ∧ (readyLibraries.times.format met.observedAt).isSome) →
        (∀ trace s, (readyLibraries.service config collector).run readyHost.events =
          some (trace, s) → Answering (told trace)) →
        ∀ exit, readyLibraries.run ⟨DEFAULT_CONFIG_PATH, none⟩ readyHost = some exit →
          ∃ received, .signal received ∈ readyHost.events ∧ exit =
            Libraries.daemonExit ((received.mapError .signalHandling).mapError .service)) := by
  obtain ⟨report, checks, passes⟩ := readyLibraries.leads_run
    ⟨DEFAULT_CONFIG_PATH, some (.check false)⟩ readyHost SUCCESS
    (.ready sampleConfig false rfl rfl rfl readyHost_free)
  obtain ⟨config, secret, collector, loaded, authorized, started, asked, serves⟩ :=
    program_preflight readyLibraries DEFAULT_CONFIG_PATH false readyHost readyHost rfl rfl rfl
      rfl report checks passes
  exact ⟨config, secret, collector, loaded, authorized, started, (asked rfl).1, (asked rfl).2,
    serves⟩

end RpiHealth
