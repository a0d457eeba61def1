import LowPing.Library.Machine
import LowPing.Library.Table
import LowPing.Library.Update
import LowPing.Library.BigEndian
import LowPing.Library.Blocks
import LowPing.Library.Checked
import LowPing.Protocol.Checked
import LowPing.Common.Net
import LowPing.Common.AwsRegions
import LowPing.Common.LongestPrefix
import LowPing.Protocol.Crypto
import LowPing.Protocol.Frame
import LowPing.Bridge.Footprint
import LowPing.Bridge.Capacity
import LowPing.Bridge.Replacement
import LowPing.Bridge.Downstream
import LowPing.Bridge.Idle
import LowPing.Bridge.Delivery
import LowPing.Bridge.Ownership
import LowPing.Bridge.Stream
import LowPing.Bridge.Routing
import LowPing.Bridge.Datagrams
import LowPing.Capture.Packet
import LowPing.Capture.Attribution
import LowPing.Client.Tunnel
import LowPing.Client.Smart
import LowPing.Tunnel.Handshake
import LowPing.Tunnel.Nonces
import LowPing.Tunnel.Direction
import LowPing.Tunnel.Upstream
import LowPing.Tunnel.Integrity
import LowPing.Client.UdpRule
import LowPing.Client.TcpRule
import LowPing.Bridge.Lifetime
import LowPing.Bridge.Admission
import LowPing.Bridge.Rejection
import LowPing.Tunnel.Lifetime
import LowPing.Tunnel.Completeness
import LowPing.Client.Destination
import LowPing.Bridge.Panics
import LowPing.Bridge.Outflow
import LowPing.Bridge.Conservation
import LowPing.Tunnel.Return
import LowPing.Backend.Signup
import LowPing.Library.Cost
import LowPing.Common.Snapshot
import LowPing.Client.Startup
import LowPing.Client.Hysteresis
import LowPing.Client.DecisionCache
import LowPing.Client.Stickiness
import LowPing.Library.FilterLanguage
import LowPing.Library.FilterGrammar
import LowPing.Capture.Filter
import LowPing.Capture.Driver
import LowPing.Client.CaptureSetup
import LowPing.Capture.Control
import LowPing.Tunnel.Orphans
import LowPing.Client.Legacy
import LowPing.Library.Codec
import LowPing.Protocol.Codec
import LowPing.Capture.Rewriting
import LowPing.Capture.WellFormed
import LowPing.Library.Erasure
import LowPing.Protocol.Fec
import LowPing.Client.RuleIdle
import LowPing.Backend.Directory
import LowPing.Common.Compiled
import LowPing.Library.Dedup
import LowPing.Common.Containment
import LowPing.Common.LookupPanics
import LowPing.Capture.Reaping
import LowPing.Client.Reaping
import LowPing.Library.Settling
import LowPing.Library.Relay
import LowPing.Library.Simulation
import LowPing.Library.Ring
import LowPing.Bridge.Settling
import LowPing.Client.Settling
import LowPing.Bridge.Reaping
import LowPing.Bridge.Refinement
import LowPing.Client.Responders
import LowPing.Capture.Accounting
import LowPing.Capture.Refusal
import LowPing.Client.DecisionLog
import LowPing.Protocol.Keys
import LowPing.Backend.Service
import LowPing.Bridge.Config
import LowPing.Tunnel.Deployment
import LowPing.Common.SnapshotOrder
import LowPing.Client.SmartLoop
import LowPing.Capture.Stopping
