import OddBox.Incremental
import OddBox.Machine
import OddBox.H2.Wire
import OddBox.H2.Observer
import OddBox.H2.Run
import OddBox.H2.Actions
import OddBox.H2.Chunking
import OddBox.H2.HeaderBlocks
import OddBox.H2.Contents
import OddBox.H2.Noninterference
import OddBox.H2.Responses
import OddBox.ManagedStream
import OddBox.Flags
import OddBox.KeyedList
import OddBox.Broadcast
import OddBox.TextLayout
import OddBox.Substitution
import OddBox.Html
import OddBox.Segments
import OddBox.PercentCoding
import OddBox.Utf8
import OddBox.FileSystem
import OddBox.LineBreaks
import OddBox.Configuration.V3
import OddBox.Configuration.Ports
import OddBox.FirstMatch
import OddBox.Str
import OddBox.Routing.HostNames
import OddBox.Configuration.Validity
import OddBox.Routing.Lookups
import OddBox.Routing.Resolution
import OddBox.Routing.Agreement
import OddBox.Routing.Shadowing
import OddBox.H1.Messages
import OddBox.H1.Observer
import OddBox.H1.Transcript
import OddBox.H1.Run
import OddBox.H1.Chunking
import OddBox.Digits
import OddBox.Toml.Lexer
import OddBox.Toml.Reader
import OddBox.Toml.Phrases
import OddBox.Toml.Fields
import OddBox.Configuration.IpText
import OddBox.Toml.Lines
import OddBox.Configuration.ToString
import OddBox.Configuration.Deserialize
import OddBox.Configuration.V1
import OddBox.Configuration.Legacy
import OddBox.Configuration.V2
import OddBox.Configuration.Parse
import OddBox.Configuration.Settings
import OddBox.Configuration.Written
import OddBox.Configuration.ReadBack
import OddBox.Configuration.RoundTrip
import OddBox.Configuration.Upgrade
import OddBox.Configuration.Preservation
import OddBox.Toml.Schema
import OddBox.Configuration.Schemas
import OddBox.Configuration.VersionDispatch
import OddBox.Configuration.Literals
import OddBox.Configuration.Comparison
import OddBox.Configuration.Reload
import OddBox.Configuration.ChangeDetection
import OddBox.Configuration.ReloadAtomicity
import OddBox.Proxy.Listeners
import OddBox.Routing.CacheCoherence
import OddBox.TcpProxy.ClientHello
import OddBox.TcpProxy.Requests
import OddBox.TcpProxy.Peek
import OddBox.Configuration.Backends
import OddBox.TcpProxy.Tunnel
import OddBox.TcpProxy.WireSecurity
import OddBox.Proxy.Admission
import OddBox.Proxy.Compatibility
import OddBox.Api.Controllers
import OddBox.Api.Router
import OddBox.Proxy.Service
import OddBox.Proxy.PasswordGate
import OddBox.Configuration.ReloadFrame
import OddBox.Configuration.LetsEncryptSwitch
import OddBox.Configuration.Reconciliation
import OddBox.Configuration.ReconcilingRuns
import OddBox.Api.Persistence
import OddBox.Api.Installation
import OddBox.Transactions
import OddBox.Api.LostUpdates
import OddBox.Proxy.Forwarding
import OddBox.Proxy.HostHeader
import OddBox.Proxy.BackendAgreement
import OddBox.Proxy.RedirectEnforcement
import OddBox.ProcHost.Loop
import OddBox.ProcHost.Addressing
import OddBox.RoundRobin
import OddBox.Proxy.LoadBalancing
import OddBox.TcpProxy.Inspection
import OddBox.TcpProxy.HelloLayout
import OddBox.TcpProxy.HelloVerdicts
import OddBox.TcpProxy.PeekBounds
import OddBox.TcpProxy.Http2Peek
import OddBox.TcpProxy.HostAgreement
import OddBox.Checked
import OddBox.H1.Usize
import OddBox.H2.Totality
import OddBox.H1.UpgradeModes
import OddBox.H1.ResponseFraming
import OddBox.H2.StreamTable
import OddBox.BigEndian
import OddBox.TcpProxy.ServerName
import OddBox.H2.RoundTrip
import OddBox.H1.WebSocketRoundTrip
import OddBox.Proxy.ActiveConnections
import OddBox.Monitoring.Station
import OddBox.Monitoring.Memory
import OddBox.Certs.Resolver
import OddBox.Certs.Expiry
import OddBox.LetsEncrypt.Manager
import OddBox.LetsEncrypt.Answers
import OddBox.LetsEncrypt.CleanUp
import OddBox.ExpiringCache
import OddBox.DirectoryServer.Files
import OddBox.DirectoryServer.Handle
import OddBox.DirectoryServer.Failures
import OddBox.DirectoryServer.Runs
import OddBox.DirectoryServer.Isolation
import OddBox.DirectoryServer.Representations
import OddBox.DirectoryServer.Transparency
import OddBox.TcpProxy.PeekMarks
import OddBox.Proxy.Tracking
import OddBox.Proxy.ConnectionTypes
import OddBox.H1.Reassembly
import OddBox.Proxy.TunnelAdmission
import OddBox.H2.Padding
import OddBox.H2.Continuation
import OddBox.Configuration.Reachability
import OddBox.Routing.Subdomains
import OddBox.Configuration.PortSearch
import OddBox.ProcHost.EnableFlag
import OddBox.Monitoring.Completeness
import OddBox.Proxy.HopHeaders
import OddBox.TcpProxy.VersionSearch
import OddBox.DirectoryServer.Disk
import OddBox.DirectoryServer.Confinement
import OddBox.DirectoryServer.HeaderPanics
import OddBox.DirectoryServer.Conditional
import OddBox.DirectoryServer.Links
import OddBox.Configuration.Variables
import OddBox.Configuration.RandomPorts
import OddBox.Api.Deletion
import OddBox.Certs.Independence
import OddBox.Tui.Wrapping
import OddBox.Tui.LogsWidget
import OddBox.Tui.Scrolling
import OddBox.ProcHost.Commands
import OddBox.ProcHost.Shutdown
import OddBox.Api.EventStream
import OddBox.Docker.Targets
import OddBox.Docker.Refresh
import OddBox.LetsEncrypt.Worker
import OddBox.LetsEncrypt.Rounds
import OddBox.Configuration.Backups
import OddBox.Api.FileMonitor
import OddBox.Api.SettingsPage
import OddBox.Tui.LogBuffer
import OddBox.ProcHost.Launch
import OddBox.Configuration.ReadPorts
