import FlipperMcp.Transport.Base
import FlipperMcp.Rpc.Framing
import FlipperMcp.Rpc.FrameStream
import FlipperMcp.Python.Text
import FlipperMcp.Rpc.Session
import FlipperMcp.Rpc.Methods
import FlipperMcp.Rpc.Conversation
import FlipperMcp.Coroutine.Recording
import FlipperMcp.Rpc.Requests
import FlipperMcp.Rpc.Footprint
import FlipperMcp.Rpc.Failure
import FlipperMcp.Client.DeviceMode
import FlipperMcp.Client.DualModeLink
import FlipperMcp.Client.DeviceAgreement
import FlipperMcp.Client.Isolation
import FlipperMcp.Coroutine.Interleaving
import FlipperMcp.Firmware.Flavor
import FlipperMcp.Firmware.Reconnect
import FlipperMcp.Firmware.Installer
import FlipperMcp.Firmware.Verified
import FlipperMcp.Coroutine.Embedding
import FlipperMcp.Transport.Drivers
import FlipperMcp.Transport.Auto
import FlipperMcp.Client.Mode
import FlipperMcp.Rpc.Writes
import FlipperMcp.Client.CliGate
import FlipperMcp.Rpc.ChunkedWrite
import FlipperMcp.Rpc.Listing
import FlipperMcp.Rpc.PairStreams
import FlipperMcp.Rpc.FileRead
import FlipperMcp.Bridge.Expansion
import FlipperMcp.Coroutine.Rely
import FlipperMcp.Bridge.Frames
import FlipperMcp.Bridge.ReceiveBuffer
import FlipperMcp.Client.CliOutput
import FlipperMcp.Coroutine.Alphabet
import FlipperMcp.Rpc.Asks
import FlipperMcp.Tools.Common
import FlipperMcp.Tools.FirmwareInstall
import FlipperMcp.Tools.Registry
import FlipperMcp.Python.Words
import FlipperMcp.Tools.PullToHost
import FlipperMcp.Tools.WriteGate
import FlipperMcp.Rpc.Correlation
import FlipperMcp.Coroutine.Interruption
import FlipperMcp.Coroutine.Script
import FlipperMcp.Firmware.PushFile
import FlipperMcp.Rpc.Timeline
import FlipperMcp.Rpc.WriteBudget
import FlipperMcp.Rpc.SilentLink
import FlipperMcp.Rpc.FrameInTime
import FlipperMcp.Rpc.Acknowledgement
import FlipperMcp.Rpc.Decisions
import FlipperMcp.Rpc.Cooldown
import FlipperMcp.Wire.Greedy
import FlipperMcp.Bridge.Journal
import FlipperMcp.Coroutine.Outline
import FlipperMcp.Bridge.Deframer
import FlipperMcp.Bridge.Payload
import FlipperMcp.Client.DangerousCommands
import FlipperMcp.Client.OutputStripping
import FlipperMcp.Firmware.BundlePaths
import FlipperMcp.Firmware.BundleTarget
import FlipperMcp.Firmware.NestedDirectories
import FlipperMcp.Coroutine.Serial
import FlipperMcp.Transport.OneDevice
import FlipperMcp.Transport.BackgroundReads
import FlipperMcp.Firmware.Download
import FlipperMcp.Firmware.DownloadErrors
import FlipperMcp.Coroutine.Progress
import FlipperMcp.Bridge.PacedWrites
import FlipperMcp.Transport.ReceiveExact
import FlipperMcp.Bridge.Watchdog
import FlipperMcp.Bridge.CaptivePortal
import FlipperMcp.Wire.FormEncoding
import FlipperMcp.Bridge.PortalCredentials
import FlipperMcp.Bridge.ScanJson
import FlipperMcp.Python.Digits
import FlipperMcp.Python.Lines
import FlipperMcp.Tools.CliTyped
import FlipperMcp.Tools.Colours
import FlipperMcp.Tools.StorageTree
import FlipperMcp.Tools.ScanGrid
import FlipperMcp.Bridge.TcpServer
import FlipperMcp.Bridge.SocketOwnership
import FlipperMcp.Bridge.Handshake
import FlipperMcp.Bridge.HandshakeCalls
import FlipperMcp.Bridge.WifiManager
import FlipperMcp.Bridge.Provisioning
import FlipperMcp.Client.PortUse
import FlipperMcp.Rpc.Dialogue
import FlipperMcp.Rpc.Served
import FlipperMcp.Rpc.ServedMethods
import FlipperMcp.Coroutine.Linearizability
import FlipperMcp.Rpc.LinearCalls
import FlipperMcp.Rpc.FileStore
import FlipperMcp.Tools.Isolated
