import TunnelRelay.Cli.Arguments
import TunnelRelay.Cli.Directive
import TunnelRelay.Cli.LogFilter
import TunnelRelay.Cli.LogLine
import TunnelRelay.Cli.Session
import TunnelRelay.Client.App
import TunnelRelay.Client.Bridge
import TunnelRelay.Client.Codes
import TunnelRelay.Client.Config
import TunnelRelay.Client.Handle
import TunnelRelay.Config.Basic
import TunnelRelay.Config.Json
import TunnelRelay.Config.Load
import TunnelRelay.Decimal.Binary64
import TunnelRelay.Decimal.Shortest
import TunnelRelay.Device.Descriptor
import TunnelRelay.Device.Kernel
import TunnelRelay.Device.Tun
import TunnelRelay.Error
import TunnelRelay.Host.DefaultInterface
import TunnelRelay.Host.Files
import TunnelRelay.Host.Local
import TunnelRelay.Host.Program
import TunnelRelay.Interface.Route
import TunnelRelay.Interface.Settings
import TunnelRelay.Json.Error
import TunnelRelay.Json.Record
import TunnelRelay.Json.Skip
import TunnelRelay.Json.Token
import TunnelRelay.Json.Value
import TunnelRelay.Link.Timing
import TunnelRelay.Log
import TunnelRelay.Main
import TunnelRelay.Net.Address
import TunnelRelay.Net.Ipv4
import TunnelRelay.Net.Ipv6
import TunnelRelay.Net.Network
import TunnelRelay.OsError
import TunnelRelay.Packet
import TunnelRelay.Pattern.Automaton
import TunnelRelay.Pattern.Bracket
import TunnelRelay.Pattern.CharSet
import TunnelRelay.Pattern.Escape
import TunnelRelay.Pattern.Expr
import TunnelRelay.Pattern.Flags
import TunnelRelay.Pattern.Read
import TunnelRelay.Relay.Channel
import TunnelRelay.Relay.Host
import TunnelRelay.Relay.Inbound
import TunnelRelay.Relay.InboundRun
import TunnelRelay.Relay.Outbound
import TunnelRelay.Relay.Run
import TunnelRelay.Relay.State
import TunnelRelay.Relay.Timeline
import TunnelRelay.Signal
import TunnelRelay.Text.Alphanumeric
import TunnelRelay.Text.Blank
import TunnelRelay.Text.CodePoints
import TunnelRelay.Text.Escaped
import TunnelRelay.Text.Quoted
import TunnelRelay.Text.Utf8
import TunnelRelay.Proofs.Runs
import TunnelRelay.Proofs.Attempts
import TunnelRelay.Proofs.Changes
import TunnelRelay.Proofs.Budget
import TunnelRelay.Proofs.Closing
import TunnelRelay.Proofs.Forwarding
import TunnelRelay.Proofs.Lifecycle
import TunnelRelay.Proofs.Delivery
import TunnelRelay.Proofs.Unwinding
import TunnelRelay.Proofs.Stopping
import TunnelRelay.Proofs.Protection
import TunnelRelay.Proofs.Silence
import TunnelRelay.Proofs.Instants
import TunnelRelay.Proofs.Keepalives
import TunnelRelay.Proofs.Schedule
import TunnelRelay.Proofs.Passes
import TunnelRelay.Proofs.Notices
import TunnelRelay.Proofs.Frames
import TunnelRelay.Proofs.Shift
import TunnelRelay.Proofs.Restart
import TunnelRelay.Proofs.Encodings
import TunnelRelay.Proofs.Addresses
import TunnelRelay.Proofs.Documents
import TunnelRelay.Proofs.Skipping
import TunnelRelay.Proofs.Records
import TunnelRelay.Proofs.Members
import TunnelRelay.Proofs.Grammar
import TunnelRelay.Proofs.Values
import TunnelRelay.Proofs.Layouts
import TunnelRelay.Proofs.RoundTrip
import TunnelRelay.Proofs.Handover
import TunnelRelay.Proofs.Resolvers
import TunnelRelay.Proofs.Fitting
import TunnelRelay.Proofs.Latency
import TunnelRelay.Proofs.Queues
import TunnelRelay.Proofs.Plans
import TunnelRelay.Proofs.Creation
import TunnelRelay.Proofs.Suspension
import TunnelRelay.Proofs.Signals
import TunnelRelay.Proofs.Marks
import TunnelRelay.Proofs.Handles
import TunnelRelay.Proofs.DefaultRoutes
import TunnelRelay.Proofs.DeviceNames
import TunnelRelay.Proofs.InboundRuns
import TunnelRelay.Proofs.Timeouts
import TunnelRelay.Proofs.Outcomes
import TunnelRelay.Proofs.Reports
