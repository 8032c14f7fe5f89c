import SianoUserland.Lib.Check
import SianoUserland.Lib.Decimal
import SianoUserland.Lib.Keyed
import SianoUserland.Lib.Pool
import SianoUserland.Lib.Radix
import SianoUserland.Lib.Resource
import SianoUserland.Lib.Ring
import SianoUserland.Lib.Simulation
import SianoUserland.Lib.Slice
import SianoUserland.Lib.Split
import SianoUserland.Lib.Struct
import SianoUserland.Lib.Text
import SianoUserland.Lib.Transition
import SianoUserland.Lib.Utf8
import SianoUserland.Lib.Float64
import SianoUserland.Lib.Json
import SianoUserland.Lib.JsonDecoder
import SianoUserland.Lib.JsonEncoding
import SianoUserland.Lib.JsonLoads
import SianoUserland.Lib.JsonBytes
import SianoUserland.Lib.JsonRoundTrip
import SianoUserland.Errno
import SianoUserland.Protocol
import SianoUserland.OutputPump
import SianoUserland.PumpInvariant
import SianoUserland.PumpMemory
import SianoUserland.OutputFraming
import SianoUserland.PacketCut
import SianoUserland.SinkAgreement
import SianoUserland.AlignedStream
import SianoUserland.TsQueue
import SianoUserland.QueueRefinement
import SianoUserland.QueueOverflow
import SianoUserland.TransferPath
import SianoUserland.RetuneIsolation
import SianoUserland.StreamState
import SianoUserland.CaptureHost
import SianoUserland.CaptureIsolation
import SianoUserland.TransferThreads
import SianoUserland.TransferInvariant
import SianoUserland.TransferOwnership
import SianoUserland.Clock
import SianoUserland.Tune
import SianoUserland.ControlParse
import SianoUserland.FailedTune
import SianoUserland.CaptureFailure
import SianoUserland.Response
import SianoUserland.LockReports
import SianoUserland.ResponseWait
import SianoUserland.ReceiverAdapter
import SianoUserland.PidFilters
import SianoUserland.ControlReader
import SianoUserland.ControlLoop
import SianoUserland.ControlOrder
import SianoUserland.ControlReports
import SianoUserland.CaptureConsumer
import SianoUserland.AdapterLifecycle
import SianoUserland.TsCheck
import SianoUserland.ContinuityErrors
import SianoUserland.SegmentIndependence
import SianoUserland.PidCounts
import SianoUserland.LossDetection
import SianoUserland.ReleaseNotice
import SianoUserland.ReleaseVerify
import SianoUserland.ReleaseManifest
import SianoUserland.AuditArtifact
import SianoUserland.MachO
import SianoUserland.PeAudit
import SianoUserland.Checksums
import SianoUserland.ChecksumAgreement
import SianoUserland.QualityCheck
import SianoUserland.QualityGate
import SianoUserland.QpcClock
import SianoUserland.ProtocolFraming
import SianoUserland.ControlGrammar
import SianoUserland.ControlExchange
import SianoUserland.FirmwareLoad
import SianoUserland.DeviceMode
import SianoUserland.StreamControl
import SianoUserland.DeviceSelector
import SianoUserland.UsbLocation
import SianoUserland.DeviceListing
import SianoUserland.OpenFailure
import SianoUserland.PidArguments
import SianoUserland.StreamTs
import SianoUserland.DeviceResources
import SianoUserland.RuntimeFamily
import SianoUserland.RecordingCheck
import SianoUserland.ReleaseHistory
import SianoUserland.ReleaseArchive
import SianoUserland.ReleaseBundle
import SianoUserland.ReleaseSource
import SianoUserland.AuditManifest
import SianoUserland.ManifestFile
import SianoUserland.PackageManifest
import SianoUserland.PackageAudit
import SianoUserland.PackageComparison
import SianoUserland.SourceManifest
