import RpiHealth.Mqtt.LastWill
import RpiHealth.Discovery.Topics
import RpiHealth.Mqtt.PacketLimit
import RpiHealth.Config.Toml
import RpiHealth.Daemon.Coalescing
import RpiHealth.Config.Topics
import RpiHealth.Library.F64
import RpiHealth.Metrics.OsRelease
import RpiHealth.Collector.Payloads
import RpiHealth.Discovery.Identity
import RpiHealth.Config.Credentials
import RpiHealth.Diagnostics.Probe
import RpiHealth.Diagnostics.Conversation
import RpiHealth.Collector.Output
import RpiHealth.Mqtt.Backoff
import RpiHealth.Telemetry.RoundTrip
import RpiHealth.Scripts.Removal
import RpiHealth.Daemon.Survival
import RpiHealth.Daemon.Farewell
import RpiHealth.Mqtt.Recovery
import RpiHealth.Collector.Commands
import RpiHealth.Collector.Board
import RpiHealth.Diagnostics.Verdict
import RpiHealth.Diagnostics.Rendering
import RpiHealth.Discovery.Templates
import RpiHealth.Discovery.Reading
import RpiHealth.Daemon.Pressure
import RpiHealth.Program.Preflight
import RpiHealth.Library.Shell
import RpiHealth.Scripts.Accounts
