import BrickHost.Bytecode.DirectCommand
import BrickHost.Bytecode.Operand
import BrickHost.Json.Parser
import BrickHost.Json.Printer
import BrickHost.Poller.Step
import BrickHost.Registry.Basic
import BrickHost.Scheduler.Step
import BrickHost.Directory
import BrickHost.SettingsDocument
import BrickHost.Text.Duration
import BrickHost.Toml.Parser
import BrickHost.Toml.Printer
import BrickHost.Wire.Error
import BrickHost.Wire.Kind
import BrickHost.Monitor
import BrickHost.Registry.Call
import BrickHost.Bench.Brick
import BrickHost.Bench.Event
import BrickHost.Bench.Basic
import BrickHost.Bench.Clock
import BrickHost.Bench.Scenario
import BrickHost.Bench.Monitoring
import BrickHost.CommandLine
import BrickHost.Main
import BrickHost.Wire.Stream
import BrickHost.Proofs.Scheduler.Lanes
import BrickHost.Proofs.Scheduler.Move
import BrickHost.Proofs.Scheduler.Course
import BrickHost.Proofs.Scheduler.Accounts
import BrickHost.Proofs.Scheduler.Wire
import BrickHost.Proofs.Registry.Records
import BrickHost.Proofs.Fleet
import BrickHost.Proofs.Poller.Move
import BrickHost.Proofs.Poller.Patrol
import BrickHost.Proofs.Monitor.Desk
import BrickHost.Proofs.Monitor.Rest
import BrickHost.Proofs.Scheduler.Fates
import BrickHost.Proofs.Scheduler.Precedence
import BrickHost.Proofs.Scheduler.Intake
import BrickHost.Proofs.Scheduler.Honesty
import BrickHost.Proofs.Scheduler.Counters
import BrickHost.Proofs.Scheduler.Dialogue
import BrickHost.Proofs.Scheduler.Recovery
import BrickHost.Proofs.Scheduler.Replies
import BrickHost.Proofs.Scheduler.Stillness
import BrickHost.Proofs.Scheduler.Occupancy
import BrickHost.Proofs.Scheduler.Disposal
import BrickHost.Proofs.Scheduler.Deadlines
import BrickHost.Proofs.Wire.Packet
import BrickHost.Proofs.Scheduler.Oversize
import BrickHost.Proofs.Wire.Stream
import BrickHost.Proofs.Poller.Reconnects
import BrickHost.Proofs.Monitor.Sessions
import BrickHost.Proofs.Poller.Exchange
import BrickHost.Proofs.Monitor.Vigil
import BrickHost.Proofs.Registry.History
import BrickHost.Proofs.Registry.Chronicle
import BrickHost.Proofs.Text.ByteOrder
import BrickHost.Proofs.Registry.Listing
import BrickHost.Proofs.Pool.Custody
import BrickHost.Proofs.Monitor.Shutdown
import BrickHost.Proofs.Scheduler.Senders
import BrickHost.Proofs.Poller.Launch
import BrickHost.Proofs.Poller.Round
import BrickHost.Proofs.Poller.Verdicts
import BrickHost.Proofs.Poller.Settlement
import BrickHost.Proofs.Poller.Losses
import BrickHost.Proofs.Monitor.Redials
import BrickHost.Proofs.Bytecode.Operand
import BrickHost.Proofs.Endpoint
import BrickHost.Proofs.Settings.Derived
import BrickHost.Proofs.Settings.Documents
import BrickHost.Proofs.Settings.Overrides
