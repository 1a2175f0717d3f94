import MediaServo.Foundations.FiniteMap
import MediaServo.Foundations.Eviction
import MediaServo.Foundations.Runs
import MediaServo.Common.Protocol
import MediaServo.Common.Wire
import MediaServo.Common.Control
import MediaServo.Host.Controller
import MediaServo.HostProofs.Estop
import MediaServo.CommonProofs.Wire
import MediaServo.Server.Roles
import MediaServo.Server.RoomManager
import MediaServo.Server.Sfu
import MediaServo.Server.Resume
import MediaServo.Server.State
import MediaServo.Server.SfuMessages
import MediaServo.Server.Relay
import MediaServo.Server.Join
import MediaServo.Server.System
import MediaServo.Server.TextFrames
import MediaServo.Server.Heartbeat
import MediaServo.Server.Lifecycle
import MediaServo.Server.Devices
import MediaServo.Server.DeviceAuth
import MediaServo.Host.Gateway
import MediaServo.Host.Remote
import MediaServo.ServerProofs.Rooms
import MediaServo.ServerProofs.Frames
import MediaServo.ServerProofs.Joins
import MediaServo.ServerProofs.Steps
import MediaServo.ServerProofs.Tickets
import MediaServo.ServerProofs.Orphans
import MediaServo.ServerProofs.Bindings
import MediaServo.ServerProofs.Isolation
import MediaServo.ServerProofs.LiveSessions
import MediaServo.ServerProofs.SfuFrames
import MediaServo.ServerProofs.SfuGates
import MediaServo.ServerProofs.Closings
import MediaServo.ServerProofs.Announcements
import MediaServo.ServerProofs.DeviceIdentity
import MediaServo.HostProofs.Pairing
import MediaServo.HostProofs.Classification
import MediaServo.ServerProofs.Membership
import MediaServo.ServerProofs.Ownership
import MediaServo.ServerProofs.Departures
import MediaServo.ServerProofs.Registry
import MediaServo.ServerProofs.Enrollment
import MediaServo.Server.Handshake
import MediaServo.ServerProofs.Handshake
import MediaServo.Server.Concurrent
import MediaServo.ServerProofs.Concurrent
import MediaServo.ServerProofs.Kicks
import MediaServo.Server.Admin
import MediaServo.ServerProofs.Leaks
import MediaServo.Server.Feed
import MediaServo.ServerProofs.Reports
import MediaServo.ServerProofs.Convergence
import MediaServo.Link.Session
import MediaServo.LinkProofs.Loss
import MediaServo.Link.TokenFile
import MediaServo.LinkProofs.TokenFile
import MediaServo.Foundations.Replies
import MediaServo.Foundations.Utf8
import MediaServo.Client.Supervisor
import MediaServo.Client.Calls
import MediaServo.ClientProofs.Supervision
import MediaServo.ClientProofs.Answers
import MediaServo.HostProofs.Downstream
import MediaServo.Host.Watcher
import MediaServo.HostProofs.Watcher
import MediaServo.Host.Translate
import MediaServo.Host.Tokens
import MediaServo.HostProofs.Roster
import MediaServo.HostProofs.Tokens
import MediaServo.Foundations.Toml
import MediaServo.HostProofs.Oxfile
import MediaServo.HostProofs.CommandLines
import MediaServo.HostProofs.ConfigSteps
import MediaServo.HostProofs.Activation
import MediaServo.HostProofs.ConfigVersions
import MediaServo.HostProofs.LedgerTruth
import MediaServo.Host.ConfigCore
import MediaServo.Host.ConfigJobs
import MediaServo.Foundations.Files
import MediaServo.Foundations.Lines
import MediaServo.Foundations.Json
import MediaServo.Foundations.Serde
import MediaServo.Foundations.Binary64
import MediaServo.Server.Accounts
import MediaServo.Server.Persistence
import MediaServo.ServerProofs.Persistence
import MediaServo.Server.Discovery
import MediaServo.ServerProofs.Discovery
import MediaServo.ServerProofs.TextFrames
import MediaServo.ServerProofs.Heartbeat
import MediaServo.ServerProofs.OxfileGuard
import MediaServo.ServerProofs.Lifecycle
import MediaServo.ServerProofs.HostDeparture
import MediaServo.Weaknet.Spec
import MediaServo.Weaknet.Scenario
import MediaServo.Weaknet.Drive
import MediaServo.Media.Engine
import MediaServo.MediaProofs.Chains
import MediaServo.MediaProofs.Engine
import MediaServo.Weaknet.Jobs
import MediaServo.Weaknet.LockFile
import MediaServo.Weaknet.Watchdog
import MediaServo.Weaknet.Teardown
import MediaServo.Weaknet.Timeline
import MediaServo.Weaknet.Surfaces
import MediaServo.WeaknetProofs.Merging
import MediaServo.WeaknetProofs.Surfaces
import MediaServo.WeaknetProofs.Plans
import MediaServo.WeaknetProofs.Schedule
import MediaServo.WeaknetProofs.Recovery
import MediaServo.WeaknetProofs.JobInvariant
import MediaServo.WeaknetProofs.JobMoves
import MediaServo.WeaknetProofs.Ownership
import MediaServo.WeaknetProofs.LockFile
import MediaServo.WeaknetProofs.Watchdog
import MediaServo.WeaknetProofs.Teardown
import MediaServo.HostProofs.TeardownOrder
import MediaServo.HostProofs.RoomRewrite
import MediaServo.Foundations.Ranks
import MediaServo.Host.Emergency
import MediaServo.HostProofs.Emergency
import MediaServo.Host.Cluster
import MediaServo.HostProofs.Outcomes
import MediaServo.HostProofs.CleanGate
import MediaServo.Host.ControllerLoop
import MediaServo.HostProofs.ControllerLedger
import MediaServo.Client.Rounds
import MediaServo.ClientProofs.Rounds
import MediaServo.Client.Lookup
import MediaServo.ClientProofs.Lookup
import MediaServo.Server.ChallengeWindow
import MediaServo.ServerProofs.ChallengeWindow
import MediaServo.Link.Frame
import MediaServo.LinkProofs.Frame
import MediaServo.Client.Stats
import MediaServo.ClientProofs.Stats
import MediaServo.ServerProofs.PskDiscovery
import MediaServo.Server.Rotation
import MediaServo.ServerProofs.Rotation
import MediaServo.ServerProofs.EmbeddedStreams
import MediaServo.Server.DeviceList
import MediaServo.ServerProofs.DeviceList
import MediaServo.ServerProofs.RegistryFile
import MediaServo.WeaknetProofs.Rounds
import MediaServo.WeaknetProofs.Durations
import MediaServo.WeaknetProofs.Judge
import MediaServo.Weaknet.Fingerprint
import MediaServo.WeaknetProofs.Fingerprint
import MediaServo.Weaknet.Filters
import MediaServo.WeaknetProofs.Filters
import MediaServo.Foundations.Checked
import MediaServo.Media.FrameRate
import MediaServo.MediaProofs.FrameRate
import MediaServo.MediaProofs.FrameLoss
import MediaServo.Foundations.Raster
import MediaServo.Media.Planes
import MediaServo.MediaProofs.PlaneCopies
import MediaServo.MediaProofs.Transforms
import MediaServo.Media.Colour
import MediaServo.MediaProofs.Colour
import MediaServo.Foundations.Calendar
import MediaServo.Foundations.Digits
import MediaServo.WeaknetProofs.Timestamps
import MediaServo.Weaknet.Tail
import MediaServo.WeaknetProofs.Tail
import MediaServo.Foundations.Patterns
import MediaServo.WeaknetProofs.Percentages
import MediaServo.MediaProofs.PlaneBounds
import MediaServo.Server.Reap
import MediaServo.ServerProofs.Reap
import MediaServo.Host.Flow
import MediaServo.Host.Telemetry
import MediaServo.HostProofs.Flow
import MediaServo.HostProofs.Telemetry
import MediaServo.Client.Codecs
import MediaServo.ClientProofs.Codecs
import MediaServo.Client.Errors
import MediaServo.ClientProofs.Errors
import MediaServo.Server.Startup
import MediaServo.ServerProofs.Startup
import MediaServo.ServerProofs.Rollbacks
import MediaServo.ServerProofs.SfuKeys
import MediaServo.Media.Broadcaster
import MediaServo.MediaProofs.Broadcaster
import MediaServo.Media.Deck
import MediaServo.MediaProofs.DeckPlanes
import MediaServo.MediaProofs.Recorder
import MediaServo.ServerProofs.EnvTables
import MediaServo.ServerProofs.EnvScan
import MediaServo.ServerProofs.ManualEnv
