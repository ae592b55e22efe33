import UsbRestore.Base.Bytes
import UsbRestore.Base.Crc32
import UsbRestore.Base.Handles
import UsbRestore.Base.Lines
import UsbRestore.Base.Prog
import UsbRestore.Qt.QString
import UsbRestore.Qt.Arg
import UsbRestore.Qt.Utf8
import UsbRestore.Core.Language
import UsbRestore.Core.Disk
import UsbRestore.Core.Safety
import UsbRestore.Core.SafetyFacts
import UsbRestore.Core.RestoreMessage
import UsbRestore.Core.PartitionTable
import UsbRestore.Core.Geometry
import UsbRestore.Core.Preflight
import UsbRestore.Core.GptReader
import UsbRestore.Core.GptWriter
import UsbRestore.Core.GptValidity
import UsbRestore.Platform.DiskService
import UsbRestore.Core.RestoreProtocol
import UsbRestore.Core.ProtocolLine
import UsbRestore.Linux.System
import UsbRestore.Linux.Sysfs
import UsbRestore.Linux.Enumerate
import UsbRestore.Linux.BlockDevice
import UsbRestore.Linux.LoopDevice
import UsbRestore.Linux.Restore
import UsbRestore.Linux.Footprint
import UsbRestore.Linux.RestoreFootprint
import UsbRestore.Linux.History
import UsbRestore.Linux.RestoreRun
import UsbRestore.Linux.RestoreTrace
import UsbRestore.Linux.UnplugBoundary
import UsbRestore.Core.ProtocolRoundTrip
import UsbRestore.Linux.HelperStream
import UsbRestore.Helper.Main
import UsbRestore.Helper.History
import UsbRestore.Helper.Trace
import UsbRestore.Helper.Cancellation
import UsbRestore.Helper.WriteSafety
import UsbRestore.Linux.EnumerateFacts
import UsbRestore.Core.ArgumentGrammar
import UsbRestore.Core.ArgumentRoundTrip
import UsbRestore.Core.HelperRun
import UsbRestore.Core.MbrValidity
import UsbRestore.Core.WriteGate
import UsbRestore.Linux.HelperClient
import UsbRestore.Linux.HelperSession
import UsbRestore.Linux.HelperSessionRun
import UsbRestore.Gui.DialogControl
import UsbRestore.Base.Alike
import UsbRestore.Linux.Untranslated
import UsbRestore.Helper.Untranslated
import UsbRestore.Helper.Claims
import UsbRestore.Base.Snapshot
import UsbRestore.Linux.PreparedDisk
import UsbRestore.Linux.ProtectedMounts
import UsbRestore.Helper.IdentityChain
import UsbRestore.Base.Machine
import UsbRestore.Win.System
import UsbRestore.Win.VolumeManager
import UsbRestore.Win.VolumeWorld
import UsbRestore.Win.DetachVolumes
import UsbRestore.Base.Outcomes
import UsbRestore.Linux.FormatFailure
import UsbRestore.Base.Checked
import UsbRestore.Base.Search
import UsbRestore.Base.Storing
import UsbRestore.Core.Fat32
import UsbRestore.Core.Fat32Growth
import UsbRestore.Base.Words
import UsbRestore.Core.Sanitizer
import UsbRestore.Core.Announcement
import UsbRestore.Core.ProtectedPaths
import UsbRestore.Linux.UnmountOrder
import UsbRestore.Linux.MountTable
import UsbRestore.Base.Counting
import UsbRestore.Linux.LoopKernel
import UsbRestore.Linux.LoopLifecycle
import UsbRestore.Base.Zeroing
import UsbRestore.Linux.ZeroWrites
import UsbRestore.Core.ZeroRange
import UsbRestore.Linux.HelperChunks
import UsbRestore.Core.Retranslation
import UsbRestore.Core.VerdictModes
import UsbRestore.Linux.MountInfo
import UsbRestore.Base.Reading
import UsbRestore.Win.RawDisk
import UsbRestore.Win.DriverData
import UsbRestore.Win.ErrorTexts
import UsbRestore.Win.Wmi
import UsbRestore.Win.StorageJobs
import UsbRestore.Win.ZeroDisk
import UsbRestore.Win.DeviceCalls
import UsbRestore.Win.Restore
import UsbRestore.Base.Monitor
import UsbRestore.Win.DeviceFacts
import UsbRestore.Win.RestoreRun
import UsbRestore.Win.RestoreTrace
import UsbRestore.Platform.ZeroLoops
import UsbRestore.Linux.Ending
import UsbRestore.Linux.UsbDrive
import UsbRestore.Linux.DiskWrites
import UsbRestore.Linux.PreparedRun
import UsbRestore.Base.Threads
import UsbRestore.Platform.Backend
import UsbRestore.Platform.WorkerThread
import UsbRestore.Gui.MainWindow
import UsbRestore.Platform.WorkerFacts
import UsbRestore.Gui.WindowControl
import UsbRestore.Gui.Application
import UsbRestore.Gui.DialogRows
import UsbRestore.Gui.Coordination
import UsbRestore.Gui.ApplicationRun
import UsbRestore.Gui.ApplicationPromises
import UsbRestore.Gui.WindowWidgets
import UsbRestore.Platform.Services
import UsbRestore.Gui.ApplicationBackends
import UsbRestore.Qt.Repair
import UsbRestore.Linux.HeardMessages
import UsbRestore.Helper.CancelToken
import UsbRestore.Linux.RestoreProcesses
import UsbRestore.Linux.ClientCalls
import UsbRestore.Linux.ProcessRun
import UsbRestore.Linux.ProcessOutcomes
import UsbRestore.Gui.ApplicationHelper
