import RpiHealth.Program.Main

/-! Why the program exits as it does. Each code has its own reasons, and a check that
finds nothing promises a start of the daemon that goes as far as its service. -/
namespace RpiHealth
open Service

def probeMode (skipMqtt : Bool) : MqttProbe := if skipMqtt then .skipped else .enabled

/-- The reasons to exit, with the code that each of them gives. -/
inductive Leads (l : Libraries) (cli : Cli) (host : ProgramHost) : Nat → Prop where
  | unconfigured (e : ConfigError) (rejected : Config.load l.toml cli.config host.file = .error e) :
      Leads l cli host CONFIG_ERROR
  | unauthorized (config : Config) (e : ConfigError)
      (loaded : Config.load l.toml cli.config host.file = .ok config) (daemon : cli.command = none)
      (refused : MqttCredentials.load config.mqtt host.credentials = .error e) :
      Leads l cli host CONFIG_ERROR
  | unchecked (config : Config) (skipMqtt : Bool) (e : IoError)
      (loaded : Config.load l.toml cli.config host.file = .ok config)
      (asked : cli.command = some (.check skipMqtt)) (dead : host.runtime = .error e) :
      Leads l cli host DIAGNOSTIC_ERROR
  | blocked (config : Config) (skipMqtt : Bool)
      (loaded : Config.load l.toml cli.config host.file = .ok config)
      (asked : cli.command = some (.check skipMqtt)) (alive : host.runtime = .ok ())
      (blocking : Blocking config (probeMode skipMqtt) host.toCheckHost) :
      Leads l cli host DIAGNOSTIC_ERROR
  | ready (config : Config) (skipMqtt : Bool)
      (loaded : Config.load l.toml cli.config host.file = .ok config)
      (asked : cli.command = some (.check skipMqtt)) (alive : host.runtime = .ok ())
      (free : ¬ Blocking config (probeMode skipMqtt) host.toCheckHost) :
      Leads l cli host SUCCESS
  | uncollected (config : Config)
      (loaded : Config.load l.toml cli.config host.file = .ok config)
      (asked : cli.command = some .printOnce)
      (absent : ∀ path, ¬ Findable host.start.isFile config.collector.vcgencmdPath path) :
      Leads l cli host COLLECTION_ERROR
  | unwritable (config : Config) (collector : Collector)
      (loaded : Config.load l.toml cli.config host.file = .ok config)
      (asked : cli.command = some .printOnce)
      (started : Collector.new config.collector host.start = .ok collector)
      (outside : ¬ (host.cycle.Roundable collector ∧
        (l.times.format host.cycle.observedAt).isSome)) :
      Leads l cli host COLLECTION_ERROR
  | printed (config : Config) (collector : Collector)
      (loaded : Config.load l.toml cli.config host.file = .ok config)
      (asked : cli.command = some .printOnce)
      (started : Collector.new config.collector host.start = .ok collector)
      (roundable : host.cycle.Roundable collector)
      (formatted : (l.times.format host.cycle.observedAt).isSome) :
      Leads l cli host SUCCESS
  | unstarted (config : Config) (credentials : MqttCredentials)
      (loaded : Config.load l.toml cli.config host.file = .ok config) (daemon : cli.command = none)
      (authorized : MqttCredentials.load config.mqtt host.credentials = .ok credentials)
      (absent : ∀ path, ¬ Findable host.start.isFile config.collector.vcgencmdPath path) :
      Leads l cli host RUNTIME_ERROR
  | unscheduled (config : Config) (credentials : MqttCredentials) (e : IoError)
      (loaded : Config.load l.toml cli.config host.file = .ok config) (daemon : cli.command = none)
      (authorized : MqttCredentials.load config.mqtt host.credentials = .ok credentials)
      (dead : host.runtime = .error e) : Leads l cli host RUNTIME_ERROR
  | served (config : Config) (credentials : MqttCredentials) (collector : Collector)
      (trace : List (Served Sources)) (s : Service Collector) (result : ServiceResult)
      (loaded : Config.load l.toml cli.config host.file = .ok config) (daemon : cli.command = none)
      (authorized : MqttCredentials.load config.mqtt host.credentials = .ok credentials)
      (started : Collector.new config.collector host.start = .ok collector)
      (alive : host.runtime = .ok ())
      (ran : (l.service config collector).run host.events = some (trace, s))
      (returned : s.control = .returned result) :
      Leads l cli host (if result.isOk then SUCCESS else RUNTIME_ERROR)

theorem ServiceControl.result?_eq_some (control : ServiceControl) (result : ServiceResult) :
    control.result? = some result ↔ control = .returned result := by
  cases control <;> simp [ServiceControl.result?]

namespace Libraries

variable (l : Libraries)

theorem serialize_ok_iff (c : Collector) (s : Sources) :
    (∃ document, (collect c s).1.state.serialize l.times = .ok document) ↔
      s.Roundable c ∧ (l.times.format s.observedAt).isSome := by
  obtain ⟨memory, swap, disk⟩ := percentages_writable c s
  rw [TelemetryState.serialize_ok, collect_eq]
  constructor
  · rintro ⟨formatted, cpu, -⟩
    exact ⟨(cpu_writable c s).mp cpu, formatted⟩
  · rintro ⟨roundable, formatted⟩
    exact ⟨formatted, (cpu_writable c s).mpr roundable, memory, swap, disk⟩

theorem printOnce_leads (cli : Cli) (host : ProgramHost) (config : Config)
    (loaded : Config.load l.toml cli.config host.file = .ok config)
    (asked : cli.command = some .printOnce) :
    Leads l cli host (l.printOnce config.collector host).code := by
  cases started : Collector.new config.collector host.start with
  | error e =>
    simp only [printOnce, started]
    exact .uncollected config loaded asked ((collectorNew_error_iff _ _).mp ⟨e, started⟩)
  | ok collector =>
    cases written : (collect collector host.cycle).1.state.serialize l.times with
    | ok document =>
      simp only [printOnce, started, written]
      obtain ⟨roundable, formatted⟩ := (l.serialize_ok_iff collector host.cycle).mp ⟨_, written⟩
      exact .printed config collector loaded asked started roundable formatted
    | error e =>
      simp only [printOnce, started, written]
      refine .unwritable config collector loaded asked started (fun inside => ?_)
      obtain ⟨document, made⟩ := (l.serialize_ok_iff collector host.cycle).mpr inside
      rw [written] at made
      cases made

theorem runDiagnostics_leads (cli : Cli) (host : ProgramHost) (config : Config) (skipMqtt : Bool)
    (loaded : Config.load l.toml cli.config host.file = .ok config)
    (asked : cli.command = some (.check skipMqtt)) :
    Leads l cli host (runDiagnostics config skipMqtt host).code := by
  cases alive : host.runtime with
  | error e =>
    simp only [runDiagnostics, alive]
    exact .unchecked config skipMqtt e loaded asked alive
  | ok u =>
    simp only [runDiagnostics, alive]
    by_cases blocking : Blocking config (probeMode skipMqtt) host.toCheckHost
    · have code := exitCode_blocked config (probeMode skipMqtt) host.toCheckHost blocking
      rw [probeMode] at code
      rw [code]
      exact .blocked config skipMqtt loaded asked alive blocking
    · have code := exitCode_free config (probeMode skipMqtt) host.toCheckHost blocking
      rw [probeMode] at code
      rw [code]
      exact .ready config skipMqtt loaded asked alive blocking

/-- A daemon that exits has not started, or its service has returned. -/
theorem runDaemon_leads (cli : Cli) (host : ProgramHost) (config : Config)
    (credentials : MqttCredentials) (result : Except RunError Unit)
    (loaded : Config.load l.toml cli.config host.file = .ok config) (daemon : cli.command = none)
    (authorized : MqttCredentials.load config.mqtt host.credentials = .ok credentials)
    (ended : l.runDaemon config host = some result) : Leads l cli host (daemonExit result).code := by
  cases started : Collector.new config.collector host.start with
  | error e =>
    simp only [runDaemon, started, Option.some.injEq] at ended
    subst ended
    exact .unstarted config credentials loaded daemon authorized
      ((collectorNew_error_iff _ _).mp ⟨e, started⟩)
  | ok collector =>
    cases alive : host.runtime with
    | error e =>
      simp only [runDaemon, started, alive, Option.some.injEq] at ended
      subst ended
      exact .unscheduled config credentials e loaded daemon authorized alive
    | ok u =>
      simp only [runDaemon, started, alive] at ended
      obtain ⟨⟨trace, s⟩, ran, later⟩ := Option.bind_eq_some_iff.mp ended
      obtain ⟨returned, read, same⟩ := Option.bind_eq_some_iff.mp later
      obtain rfl := Option.some.inj same
      have leads := Leads.served config credentials collector trace s returned loaded daemon
        authorized started alive ran ((ServiceControl.result?_eq_some _ _).mp read)
      cases returned <;> exact leads

/-- The ways of the program, as far as its commands go. -/
inductive Runs (cli : Cli) (host : ProgramHost) : Exit → Prop where
  | unconfigured (e : ConfigError) (rejected : Config.load l.toml cli.config host.file = .error e) :
      Runs cli host (configurationError e)
  | printOnce (config : Config) (loaded : Config.load l.toml cli.config host.file = .ok config)
      (asked : cli.command = some .printOnce) : Runs cli host (l.printOnce config.collector host)
  | check (config : Config) (skipMqtt : Bool)
      (loaded : Config.load l.toml cli.config host.file = .ok config)
      (asked : cli.command = some (.check skipMqtt)) :
      Runs cli host (runDiagnostics config skipMqtt host)
  | unauthorized (config : Config) (e : ConfigError)
      (loaded : Config.load l.toml cli.config host.file = .ok config) (daemon : cli.command = none)
      (refused : MqttCredentials.load config.mqtt host.credentials = .error e) :
      Runs cli host (configurationError e)
  | daemon (config : Config) (credentials : MqttCredentials) (result : Except RunError Unit)
      (loaded : Config.load l.toml cli.config host.file = .ok config) (daemon : cli.command = none)
      (authorized : MqttCredentials.load config.mqtt host.credentials = .ok credentials)
      (ended : l.runDaemon config host = some result) : Runs cli host (daemonExit result)

theorem run_runs (cli : Cli) (host : ProgramHost) (exit : Exit)
    (ran : l.run cli host = some exit) : l.Runs cli host exit := by
  cases loaded : Config.load l.toml cli.config host.file with
  | error e =>
    simp only [run, loaded, Option.some.injEq] at ran
    exact ran ▸ .unconfigured e loaded
  | ok config =>
    simp only [run, loaded] at ran
    cases asked : cli.command with
    | some command =>
      cases command with
      | printOnce =>
        simp only [asked, Option.some.injEq] at ran
        exact ran ▸ .printOnce config loaded asked
      | check skipMqtt =>
        simp only [asked, Option.some.injEq] at ran
        exact ran ▸ .check config skipMqtt loaded asked
    | none =>
      simp only [asked] at ran
      cases authorized : MqttCredentials.load config.mqtt host.credentials with
      | error e =>
        simp only [authorized, Option.some.injEq] at ran
        exact ran ▸ .unauthorized config e loaded asked authorized
      | ok credentials =>
        simp only [authorized, Option.map_eq_some_iff] at ran
        obtain ⟨result, ended, rfl⟩ := ran
        exact .daemon config credentials result loaded asked authorized ended

theorem run_leads (cli : Cli) (host : ProgramHost) (exit : Exit)
    (ran : l.run cli host = some exit) : Leads l cli host exit.code := by
  cases l.run_runs cli host exit ran with
  | unconfigured e rejected => exact .unconfigured e rejected
  | printOnce config loaded asked => exact l.printOnce_leads cli host config loaded asked
  | check config skipMqtt loaded asked =>
    exact l.runDiagnostics_leads cli host config skipMqtt loaded asked
  | unauthorized config e loaded daemon refused => exact .unauthorized config e loaded daemon refused
  | daemon config credentials result loaded daemon authorized ended =>
    exact l.runDaemon_leads cli host config credentials result loaded daemon authorized ended

/-- The reasons are enough: the program exits for each of them. -/
theorem leads_run (cli : Cli) (host : ProgramHost) (code : Nat) (leads : Leads l cli host code) :
    ∃ exit, l.run cli host = some exit ∧ exit.code = code := by
  cases leads with
  | unconfigured e rejected => exact ⟨configurationError e, by simp only [run, rejected], rfl⟩
  | unauthorized config e loaded daemon refused =>
    exact ⟨configurationError e, by simp only [run, loaded, daemon, refused], rfl⟩
  | unchecked config skipMqtt e loaded asked dead =>
    exact ⟨runDiagnostics config skipMqtt host, by simp only [run, loaded, asked],
      by simp only [runDiagnostics, dead]⟩
  | blocked config skipMqtt loaded asked alive blocking =>
    refine ⟨runDiagnostics config skipMqtt host, by simp only [run, loaded, asked], ?_⟩
    simp only [runDiagnostics, alive]
    exact exitCode_blocked config (probeMode skipMqtt) host.toCheckHost blocking
  | ready config skipMqtt loaded asked alive free =>
    refine ⟨runDiagnostics config skipMqtt host, by simp only [run, loaded, asked], ?_⟩
    simp only [runDiagnostics, alive]
    exact exitCode_free config (probeMode skipMqtt) host.toCheckHost free
  | uncollected config loaded asked absent =>
    obtain ⟨e, refused⟩ := (collectorNew_error_iff _ _).mpr absent
    exact ⟨l.printOnce config.collector host, by simp only [run, loaded, asked],
      by simp only [printOnce, refused]⟩
  | unwritable config collector loaded asked started outside =>
    refine ⟨l.printOnce config.collector host, by simp only [run, loaded, asked], ?_⟩
    cases written : (collect collector host.cycle).1.state.serialize l.times with
    | ok document => exact absurd ((l.serialize_ok_iff _ _).mp ⟨document, written⟩) outside
    | error e => simp only [printOnce, started, written]
  | printed config collector loaded asked started roundable formatted =>
    refine ⟨l.printOnce config.collector host, by simp only [run, loaded, asked], ?_⟩
    obtain ⟨document, written⟩ := (l.serialize_ok_iff _ _).mpr ⟨roundable, formatted⟩
    simp only [printOnce, started, written]
  | unstarted config credentials loaded daemon authorized absent =>
    obtain ⟨e, refused⟩ := (collectorNew_error_iff _ _).mpr absent
    exact ⟨daemonExit (.error (.collectorInitialization e)),
      by simp only [run, loaded, daemon, authorized, runDaemon, refused, Option.map_some], rfl⟩
  | unscheduled config credentials e loaded daemon authorized dead =>
    cases started : Collector.new config.collector host.start with
    | error failure =>
      exact ⟨daemonExit (.error (.collectorInitialization failure)),
        by simp only [run, loaded, daemon, authorized, runDaemon, started, Option.map_some], rfl⟩
    | ok collector =>
      exact ⟨daemonExit (.error (.runtimeInitialization e)),
        by simp only [run, loaded, daemon, authorized, runDaemon, started, dead, Option.map_some],
        rfl⟩
  | served config credentials collector trace s result loaded daemon authorized started alive ran
      returned =>
    refine ⟨daemonExit (result.mapError .service), ?_, by cases result <;> rfl⟩
    simp only [run, loaded, daemon, authorized, runDaemon, started, alive]
    rw [ran]
    simp only [Option.bind_eq_bind, Option.bind_some, returned, ServiceControl.result?,
      Option.pure_def, Option.map_some]

theorem run_code (cli : Cli) (host : ProgramHost) (exit : Exit)
    (ran : l.run cli host = some exit) : exit.code ∈
      [SUCCESS, CONFIG_ERROR, DIAGNOSTIC_ERROR, COLLECTION_ERROR, RUNTIME_ERROR] := by
  have leads := l.run_leads cli host exit ran
  generalize exit.code = code at leads ⊢
  cases leads with
  | served config credentials collector trace s result => split <;> decide
  | _ => decide

/-- A report is printed where its readers look for it, the program complains of all other
failures, and a daemon prints nothing else. -/
structure Speaks (cli : Cli) (exit : Exit) : Prop where
  complaint : exit.complaint = "" ↔ exit.code = SUCCESS ∨ exit.code = DIAGNOSTIC_ERROR
  out : exit.out = "" ↔ cli.command = none ∨ exit.complaint ≠ ""

theorem speaks_failure (cli : Cli) (code : Nat) (subject message : String) (given : subject ≠ "")
    (other : code ≠ SUCCESS ∧ code ≠ DIAGNOSTIC_ERROR) :
    Speaks cli { code := code, complaint := subject ++ message ++ "\n" } where
  complaint := by simp [given, other.1, other.2]
  out := by simp [given]

theorem run_speaks (cli : Cli) (host : ProgramHost) (exit : Exit)
    (ran : l.run cli host = some exit) : Speaks cli exit := by
  have refused (e : ConfigError) : Speaks cli (configurationError e) :=
    speaks_failure cli CONFIG_ERROR "Configuration error: " _ (by decide) (by decide)
  cases l.run_runs cli host exit ran with
  | unconfigured e rejected => exact refused e
  | unauthorized config e loaded daemon refusal => exact refused e
  | printOnce config loaded asked =>
    unfold printOnce
    split
    · exact speaks_failure cli COLLECTION_ERROR "Collection error: " _ (by decide) (by decide)
    · split
      · exact ⟨by simp, by simp [asked]⟩
      · exact speaks_failure cli COLLECTION_ERROR
          "Collection error: state serialization failed: " _ (by decide) (by decide)
  | check config skipMqtt loaded asked =>
    unfold runDiagnostics
    split
    · exact ⟨by simp, by simp [asked]⟩
    · refine ⟨?_, by simp [asked]⟩
      by_cases blocking : Blocking config (probeMode skipMqtt) host.toCheckHost
      · exact iff_of_true rfl (.inr (exitCode_blocked _ _ _ blocking))
      · exact iff_of_true rfl (.inl (exitCode_free _ _ _ blocking))
  | daemon config credentials result loaded daemon authorized ended =>
    cases result with
    | ok u => exact ⟨by simp [daemonExit], by simp [daemonExit, daemon]⟩
    | error e => exact speaks_failure cli RUNTIME_ERROR "Runtime error: " _ (by decide) (by decide)

/-- What the program says, by what its arguments were read as: a text that was asked for is
printed, a wrong usage is complained about. -/
def Answered (parsed : Except Usage Cli) (exit : Exit) : Prop :=
  match parsed with
  | .ok cli =>
    exit.code ∈ [SUCCESS, CONFIG_ERROR, DIAGNOSTIC_ERROR, COLLECTION_ERROR, RUNTIME_ERROR] ∧
      Speaks cli exit
  | .error usage =>
    if usage.useStderr then exit.out = "" ∧ exit.complaint = usage.text
    else exit.out = usage.text ∧ exit.complaint = ""

end Libraries

/-- The reasons of a whole run, the reading of the arguments included. -/
inductive Exits (l : Libraries) (parsed : Except Usage Cli) (host : ProgramHost) : Nat → Prop where
  | misused (usage : Usage) (refused : parsed = .error usage) (complains : usage.useStderr = true)
      (fits : 0 ≤ usage.exitCode ∧ usage.exitCode < 256) :
      Exits l parsed host usage.exitCode.toNat
  | oversized (usage : Usage) (refused : parsed = .error usage)
      (complains : usage.useStderr = true)
      (outside : ¬ (0 ≤ usage.exitCode ∧ usage.exitCode < 256)) : Exits l parsed host USAGE_ERROR
  | asked (usage : Usage) (refused : parsed = .error usage) (text : usage.useStderr = false) :
      Exits l parsed host SUCCESS
  | ran (cli : Cli) (code : Nat) (read : parsed = .ok cli) (leads : Leads l cli host code) :
      Exits l parsed host code

namespace Libraries

variable (l : Libraries)

theorem main_exits (parsed : Except Usage Cli) (host : ProgramHost) (exit : Exit)
    (ran : l.main parsed host = some exit) : Exits l parsed host exit.code := by
  cases parsed with
  | ok cli => exact .ran cli exit.code rfl (l.run_leads cli host exit ran)
  | error usage =>
    simp only [main, Option.some.injEq] at ran
    subst ran
    cases complains : usage.useStderr with
    | false =>
      simp only [Bool.false_eq_true, if_false]
      exact .asked usage rfl complains
    | true =>
      simp only [if_true, exitByte]
      split
      · rename_i fits
        exact .misused usage rfl complains fits
      · rename_i outside
        exact .oversized usage rfl complains outside

theorem exits_main (parsed : Except Usage Cli) (host : ProgramHost) (code : Nat)
    (exits : Exits l parsed host code) : ∃ exit, l.main parsed host = some exit ∧
      exit.code = code := by
  cases exits with
  | misused usage refused complains fits =>
    rw [refused]
    exact ⟨_, rfl, by simp [complains, exitByte, fits]⟩
  | oversized usage refused complains outside =>
    rw [refused]
    refine ⟨_, rfl, ?_⟩
    simp only [complains, if_true, exitByte, if_neg outside]
  | asked usage refused text =>
    rw [refused]
    exact ⟨_, rfl, by simp [text]⟩
  | ran cli code read leads =>
    rw [read]
    exact l.leads_run cli host code leads

theorem main_answered (parsed : Except Usage Cli) (host : ProgramHost) (exit : Exit)
    (ran : l.main parsed host = some exit) : Answered parsed exit := by
  cases parsed with
  | ok cli => exact ⟨l.run_code cli host exit ran, l.run_speaks cli host exit ran⟩
  | error usage =>
    simp only [main, Option.some.injEq] at ran
    subst ran
    cases complains : usage.useStderr <;> simp [Answered, complains]

end Libraries

/-- The program exits with a code if and only if there is one of the reasons that have it,
the reader of the arguments included. It complains of what went wrong, a report apart, and
prints what it was asked for, or nothing. -/
theorem program_exits (l : Libraries) (parsed : Except Usage Cli) (host : ProgramHost) :
    (∀ code, (∃ exit, l.main parsed host = some exit ∧ exit.code = code) ↔
      Exits l parsed host code) ∧
    ∀ exit, l.main parsed host = some exit → Libraries.Answered parsed exit := by
  refine ⟨fun code => ⟨?_, l.exits_main parsed host code⟩, l.main_answered parsed host⟩
  rintro ⟨exit, ran, rfl⟩
  exact l.main_exits parsed host exit ran

end RpiHealth
