import AnDbg.Lib.LittleEndian
import AnDbg.Lib.ByteMemory
import AnDbg.Lib.UnorderedMap
import AnDbg.Lib.Run
import AnDbg.Lib.SortedMap
import AnDbg.Lib.Assignments
import AnDbg.Lib.Pool
import AnDbg.Lib.Framing
import AnDbg.Lib.Stuttering
import AnDbg.Lib.Loop
import AnDbg.Lib.Tracing
import AnDbg.Lib.Lines
import AnDbg.Lib.Fields
import AnDbg.Lib.Collecting
import AnDbg.Lib.Interleaving
import AnDbg.Lib.RemoteCalls
import AnDbg.Lib.Handles
import AnDbg.Lib.Layout
import AnDbg.Base.Status
import AnDbg.Base.Utils
import AnDbg.Base.Json
import AnDbg.Base.HexText
import AnDbg.Base.HexCodec
import AnDbg.Base.Conversions
import AnDbg.Base.Directory
import AnDbg.Base.InputStream
import AnDbg.Base.File
import AnDbg.Base.WholeReads
import AnDbg.Base.RPCServer.Model
import AnDbg.Base.RPCServer.WireFormat
import AnDbg.Base.RPCServer.Serving
import AnDbg.Base.RPCServer.Replies
import AnDbg.Base.RPCServer.Survival
import AnDbg.Base.RPCServer.Carried
import AnDbg.Base.RPCServer.Lifecycle
import AnDbg.Core.Target
import AnDbg.Process.PROCHelper
import AnDbg.Process.ThreadIds
import AnDbg.Process.PSHelper
import AnDbg.Process.PSLines
import AnDbg.Process.Status
import AnDbg.Process.ProcessNames
import AnDbg.Core.RegisterControl
import AnDbg.Core.ThreadRegisters
import AnDbg.Core.RegisterOffsets
import AnDbg.Core.Laws
import AnDbg.Core.Execution
import AnDbg.Core.TrappedThread
import AnDbg.Core.WorldMap
import AnDbg.Core.Watched
import AnDbg.Core.Recorded
import AnDbg.Core.Kernel
import AnDbg.Core.SimulatedTarget
import AnDbg.Core.SteppedTarget
import AnDbg.Core.BreakpointManager.Model
import AnDbg.Core.BreakpointManager.Exits
import AnDbg.Core.BreakpointManager.Mapped
import AnDbg.Core.BreakpointManager.Table
import AnDbg.Core.BreakpointManager.RegisterPool
import AnDbg.Core.BreakpointManager.Lookup
import AnDbg.Core.BreakpointManager.Iterators
import AnDbg.Core.BreakpointManager.SoundPools
import AnDbg.Core.BreakpointManager.Image
import AnDbg.Core.BreakpointManager.WrittenImage
import AnDbg.Core.BreakpointManager.Mirror
import AnDbg.Core.BreakpointManager.Failures
import AnDbg.Core.BreakpointManager.Watching
import AnDbg.Core.BreakpointManager.Probe
import AnDbg.Core.BreakpointManager.Independence
import AnDbg.Core.BreakpointManager.Availability
import AnDbg.Core.BreakpointManager.Programmed
import AnDbg.Core.BreakpointManager.History
import AnDbg.Core.Confined
import AnDbg.Core.DebuggerCore.Model
import AnDbg.Core.DebuggerCore.Registers
import AnDbg.Core.DebuggerCore.RegisterReads
import AnDbg.Core.DebuggerCore.RegisterWrites
import AnDbg.Core.DebuggerCore.RegisterRoundTrip
import AnDbg.Core.DebuggerCore.RegisterCopies
import AnDbg.Core.DebuggerCore.Attach
import AnDbg.Core.DebuggerCore.AttachPackage
import AnDbg.Core.DebuggerCore.Session
import AnDbg.Core.DebuggerCore.Transparency
import AnDbg.Core.DebuggerCore.Stepping
import AnDbg.Core.DebuggerCore.StepOver
import AnDbg.Core.DebuggerCore.ControlFlow
import AnDbg.Core.DebuggerCore.UserWrites
import AnDbg.Core.DebuggerCore.Launch
import AnDbg.Core.DebuggerCore.Released
import AnDbg.Core.DebuggerCore.Launched
import AnDbg.Core.DebuggerCore.Reachable
import AnDbg.Core.DebuggerCore.Managed
import AnDbg.Core.DebuggerCore.Confined
import AnDbg.Core.DebuggerCore.ThreadControl
import AnDbg.Core.MemoryControl.Model
import AnDbg.Core.MemoryControl.Reading
import AnDbg.Core.MemoryControl.Writing
import AnDbg.Core.MemoryControl.Mapping
import AnDbg.Core.MemoryControl.Regions
import AnDbg.Core.MemoryControl.MapsText
import AnDbg.Client.RPCClient
import AnDbg.Client.Conversation
import AnDbg.Client.AtomicCalls
import AnDbg.Client.Answers
import AnDbg.Main.ReadMemory
import AnDbg.Main.GetBreakpoints
import AnDbg.Main.Handlers
import AnDbg.Main.Actions
import AnDbg.Main.ServerRun
import AnDbg.Main.ClientRun
import AnDbg.Main.SavedMemory
import AnDbg.Main.SavedRegisters
import AnDbg.Main.MemoryMap
