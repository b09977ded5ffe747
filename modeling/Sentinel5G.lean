import Sentinel5G.AiEngine.Bystander
import Sentinel5G.AiEngine.Features
import Sentinel5G.AiEngine.RateFreshness
import Sentinel5G.AiEngine.Threats
import Sentinel5G.AiEngine.Worker
import Sentinel5G.Api.Policy
import Sentinel5G.Api.Server
import Sentinel5G.Base.BpfMap
import Sentinel5G.Base.Bytes
import Sentinel5G.Base.CappedSet
import Sentinel5G.Base.CheckedRead
import Sentinel5G.Base.Counter
import Sentinel5G.Base.EdgeTrigger
import Sentinel5G.Base.Error
import Sentinel5G.Base.FifoMap
import Sentinel5G.Base.History
import Sentinel5G.Base.IP
import Sentinel5G.Base.IPText
import Sentinel5G.Base.Interference
import Sentinel5G.Base.LossyWindow
import Sentinel5G.Base.Numeral
import Sentinel5G.Base.Pool
import Sentinel5G.Base.Program
import Sentinel5G.Base.Rekey
import Sentinel5G.Base.Run
import Sentinel5G.Base.Slice
import Sentinel5G.Base.TokenBucket
import Sentinel5G.Base.Trace
import Sentinel5G.Base.Window
import Sentinel5G.Bpf.ClosedLoop
import Sentinel5G.Bpf.Dissect
import Sentinel5G.Bpf.DualStack
import Sentinel5G.Bpf.Emission
import Sentinel5G.Bpf.Eviction
import Sentinel5G.Bpf.Filter
import Sentinel5G.Bpf.Gtpu
import Sentinel5G.Bpf.GtpuGrammar
import Sentinel5G.Bpf.Maps
import Sentinel5G.Bpf.OffPort
import Sentinel5G.Bpf.PortScan
import Sentinel5G.Bpf.Refinement
import Sentinel5G.Bpf.ScanRate
import Sentinel5G.Bpf.SignalRate
import Sentinel5G.Bpf.Trailer
import Sentinel5G.Bpf.TunnelRate
import Sentinel5G.Bpf.Wire
import Sentinel5G.Capture.Checked
import Sentinel5G.Capture.Parity
import Sentinel5G.Capture.Pcap
import Sentinel5G.Capture.RateSeries
import Sentinel5G.Capture.Rules
import Sentinel5G.Capture.TunnelOwners
import Sentinel5G.Config.Operator
import Sentinel5G.Controller.BlocklistReconciler
import Sentinel5G.Controller.Convergence
import Sentinel5G.Controller.CrashConsistency
import Sentinel5G.Controller.Decisions
import Sentinel5G.Controller.Delivery
import Sentinel5G.Controller.DwellRace
import Sentinel5G.Controller.Enforcement
import Sentinel5G.Controller.Frame
import Sentinel5G.Controller.Grace
import Sentinel5G.Controller.Grounds
import Sentinel5G.Controller.IndexCalls
import Sentinel5G.Controller.IndexRace
import Sentinel5G.Controller.Interleaving
import Sentinel5G.Controller.KillSwitch
import Sentinel5G.Controller.LabelMatching
import Sentinel5G.Controller.Lifecycle
import Sentinel5G.Controller.LimiterLifetime
import Sentinel5G.Controller.LimiterTransparency
import Sentinel5G.Controller.Mitigation
import Sentinel5G.Controller.PlacementRace
import Sentinel5G.Controller.PodIPIndex
import Sentinel5G.Controller.PodOwnership
import Sentinel5G.Controller.PolicyIndex
import Sentinel5G.Controller.QuarantineRun
import Sentinel5G.Controller.ReactorLimiter
import Sentinel5G.Controller.Reconciler
import Sentinel5G.Controller.ReconcilerSpec
import Sentinel5G.Controller.Redelivery
import Sentinel5G.Controller.SharedClaims
import Sentinel5G.Controller.SyncErrors
import Sentinel5G.Controller.SyncSpec
import Sentinel5G.Controller.Targeting
import Sentinel5G.Controller.ThrottleLag
import Sentinel5G.Controller.Tunnel
import Sentinel5G.Controller.TunnelCodec
import Sentinel5G.Controller.UndoCompletion
import Sentinel5G.Controller.Versions
import Sentinel5G.Controller.WakeUp
import Sentinel5G.Controller.Warrant
import Sentinel5G.Controller.Watcher
import Sentinel5G.Controller.WatcherSpec
import Sentinel5G.Controller.World
import Sentinel5G.Detect.Gtpu
import Sentinel5G.Detect.RuleMirror
import Sentinel5G.Detect.SourceEviction
import Sentinel5G.Detect.SourceFlood
import Sentinel5G.Detect.SourceThresholds
import Sentinel5G.Detect.TunnelFlood
import Sentinel5G.Detect.TunnelMirror
import Sentinel5G.Ebpf.Decode
import Sentinel5G.Ebpf.Drop
import Sentinel5G.Ebpf.DropSets
import Sentinel5G.Ebpf.Loader
import Sentinel5G.Ebpf.Pinning
import Sentinel5G.Ebpf.Restart
import Sentinel5G.Ebpf.Updater
import Sentinel5G.Events.Bus
import Sentinel5G.Events.Json
import Sentinel5G.Ingestion.Batching
import Sentinel5G.Ingestion.Normalize
import Sentinel5G.Ingestion.Outgoing
import Sentinel5G.Ingestion.Protection
import Sentinel5G.Ingestion.Publisher
import Sentinel5G.Ingestion.ScoreDelivery
import Sentinel5G.Mesh.Adapter
import Sentinel5G.Mesh.Effects
import Sentinel5G.Mesh.Quarantine
import Sentinel5G.Mesh.Release
import Sentinel5G.Mesh.Selectors
import Sentinel5G.Mesh.Store
import Sentinel5G.System.Cluster
import Sentinel5G.System.ControlPlane
import Sentinel5G.System.Sensor
import Sentinel5G.System.Telemetry
