import AnDbg.Core.DebuggerCore.Launch
import AnDbg.Core.MemoryControl.Regions
import AnDbg.Main.GetBreakpoints

/-
  The commands of the debugger, as `acp_init` registers them.

  A handler takes its parameters apart, calls the debugger
  and makes a status of what it answers.  Commands that take
  the same parameters share one definition, with the texts
  and the call of each.

  Main declarations:
    * `AnDbg.ProcFiles`
    * `AnDbg.Main.Library` and `AnDbg.Main.Command`
    * `AnDbg.Main.acpInit`
-/

------------------------------------------------------------
-- What Handlers Use
------------------------------------------------------------

namespace AnDbg

/- What the debugger reads in `/proc` for its commands. -/
class ProcFiles (κ : Type) where
  procTable : κ → ProcTable × κ
  maps (pid : Pid) : κ → Option (List Byte) × κ

/- `static_cast` of an `int` to a type. -/
def BreakpointType.ofInt (value : Int) : BreakpointType :=
  if value = 1 then
    .software
  else if value = 2 then
    .hardwareExecution
  else if value = 3 then
    .hardwareWrite
  else if value = 4 then
    .hardwareReadwrite
  else
    .other value

/- `get_memory_regions`, with the regions it fills in. -/
def DebuggerCore.getMemoryRegions
    (std : RegionSort)
    (maps : Option (List Byte)) :
    Except ConversionError (Status × List MemoryRegion) := do
  let r ← MemoryControl.getMemoryRegions std maps
  if r = [] then
    return (.fail (utf8 "get_memory_regions 失败"), [])
  else
    return (.successText (utf8 "get_memory_regions 成功"), r)

namespace Main

open RPCServer

/-
  What the handlers use beyond `Nlohmann`: the casts of a
  floating-point number to an `int` and to a byte, `dump` of
  a value whose texts may not be UTF-8, and the `what()` of
  a conversion.
-/
structure Library extends Nlohmann where
  castInt : StdString → Int
  castByte : StdString → Byte
  tryDump : Json → Except StdString StdString
  whatConversion : ConversionError → StdString

/- The `int` of a value that `is_number`. -/
def Library.int
    (lib : Library) : Json → Option Int
| .integer n => some (BitVec.ofInt 32 n).toInt
| .float text => some (lib.castInt text)
| _ => none

/- `get` of a byte; a boolean is one, a text is not. -/
def Library.byte
    (lib : Library) : Json → Option Byte
| .integer n => some (BitVec.ofInt 8 n)
| .float text => some (lib.castByte text)
| .boolean b => some ((BitVec.ofBool b).setWidth 8)
| _ => none

/- How a handler ends. -/
abbrev Answer := Except StdString Status

/-
  How a handler ends and what it leaves behind; there is
  none where it is undefined or does not return.
-/
abbrev Command (κ : Type) :=
  StdString → DebuggerCore × κ →
    Option (Answer × (DebuggerCore × κ))

variable {κ : Type}

/- What a method that may throw comes to. -/
def ended
    (lib : Library)
    (done : Outcome DebuggerCore κ DebuggerCore.Ending) :
    Answer × (DebuggerCore × κ) :=
  (done.result.mapError lib.what, (done.object, done.world))

/- What a method whose conversions may throw comes to. -/
def converted
    (lib : Library)
    (done :
      Outcome DebuggerCore κ (Except ConversionError Status)) :
    Answer × (DebuggerCore × κ) :=
  (done.result.mapError lib.whatConversion,
    (done.object, done.world))

/- What a method that does not throw comes to. -/
def returned
    (done : Outcome DebuggerCore κ Status) :
    Answer × (DebuggerCore × κ) :=
  (.ok done.result, (done.object, done.world))

/- The handlers begin by parsing their parameters. -/
def parsing
    (lib : Library)
    (body : Json → DebuggerCore × κ →
      Option (Answer × (DebuggerCore × κ))) : Command κ :=
  fun params s =>
    match lib.parse params with
    | .error what => some (.error what, s)
    | .ok jsonData => body jsonData s

/- A text of the program's own, for parameters it refuses. -/
def refused
    (text : String)
    (s : DebuggerCore × κ) :
    Option (Answer × (DebuggerCore × κ)) :=
  some (.ok (.fail (utf8 text)), s)

end Main

end AnDbg

------------------------------------------------------------
-- Attaching And Controlling
------------------------------------------------------------

namespace AnDbg

namespace Main

open DebuggerCore ProcFiles RPCServer

variable {κ : Type}
variable (lib : Library)

/- A command whose parameter is the name of a target. -/
def targetCommand
    (text : String)
    (act : StdString → DebuggerCore → κ →
      Option
        (Outcome DebuggerCore κ
          (Except ConversionError Status))) : Command κ :=
  parsing lib fun jsonData s =>
    match jsonData.field (ascii "target") with
    | some (.string target) =>
      (act target s.1 s.2).map (converted lib)
    | _ => refused text s

/- A command that takes no notice of its parameters. -/
def plainCommand
    (act : DebuggerCore → κ → Outcome DebuggerCore κ Ending) :
    Command κ :=
  fun _ s => some (ended lib (act s.1 s.2))

/- A method that may not throw, as one that may. -/
def neverThrows
    (done : Outcome DebuggerCore κ Status) :
    Outcome DebuggerCore κ Ending :=
  { done with result := .ok done.result }

/- A method that does not change the debugger. -/
def keeping
    (c : DebuggerCore)
    (done : Status × κ) : Outcome DebuggerCore κ Status :=
  ⟨done.1, c, done.2⟩

section

variable [Kernel κ] [ProcFiles κ]

def attachHandler : Command κ :=
  targetCommand lib "attach 需要 target 参数, 且必须是字符串"
    fun target c k =>
      let (table, k) := procTable k
      (c.attachPackage target table k).map returning

end

section

variable [LaunchKernel κ]

def launchHandler (rounds : Nat) : Command κ :=
  targetCommand lib "launch 需要 target 参数, 且必须是字符串"
    fun target c k => c.launch rounds target k

end

section

variable [Kernel κ] [MemoryControl κ] [Regset κ]

def detachHandler : Command κ :=
  plainCommand lib fun c k => neverThrows (c.detach k)

def killHandler : Command κ :=
  plainCommand lib fun c k => neverThrows (c.kill k)

def resumeHandler : Command κ :=
  plainCommand lib fun c k =>
    neverThrows (keeping c (c.resume k))

def pauseHandler : Command κ :=
  plainCommand lib fun c k =>
    neverThrows (keeping c (c.pause k))

def stepIntoHandler : Command κ :=
  plainCommand lib fun c k => c.stepInto k

def stepOverHandler : Command κ :=
  plainCommand lib fun c k => c.stepOver k

end

end Main

end AnDbg

------------------------------------------------------------
-- Memory And Registers
------------------------------------------------------------

namespace AnDbg

namespace Main

open DebuggerCore ProcFiles RPCServer

variable {κ : Type}
variable (lib : Library)

/- The parameters of `write_memory`, before the conversion. -/
def addressAndData
    (jsonData : Json) : Option (Addr × List Json) :=
  match jsonData.field (ascii "address"),
      jsonData.field (ascii "data") with
  | some address, some (.array data) =>
    (lib.number address).map (·, data)
  | _, _ => none

def writeMemoryHandler
    [Kernel κ]
    [MemoryControl κ] : Command κ :=
  parsing lib fun jsonData s =>
    match addressAndData lib jsonData with
    | none =>
      refused ("write_memory 需要 address 和 data 参数, 且 "
        ++ "address 必须是数字, data 必须是数组") s
    | some (address, data) =>
      match data.mapM lib.byte with
      | none => some (.error (lib.what .typeError), s)
      | some buffer =>
        some (returned
          (keeping s.1 (s.1.writeMemory address buffer s.2)))

/- The object that is sent for a region. -/
def regionEntry (region : MemoryRegion) : Json :=
  .object
    [(ascii "device", .string region.device),
      (ascii "inode", .integer region.inode.toNat),
      (ascii "offset", .integer region.offset.toNat),
      (ascii "pathname", .string region.pathname),
      (ascii "permissions", .string region.permissions),
      (ascii "size", .integer region.size.toNat),
      (ascii "start_address",
        .integer region.startAddress.toNat)]

/- An entry is pushed to the result for each value. -/
def pushAll
    {α : Type}
    (entry : α → Json)
    (values : List α) : Json :=
  values.foldl
    (fun result value => Json.pushBack (entry value) result)
    .null

/- What the handler makes of the regions it is given. -/
def regionsReply
    (found : Except ConversionError
      (Status × List MemoryRegion)) : Answer :=
  match found with
  | .error e => .error (lib.whatConversion e)
  | .ok (status, regions) =>
    if status.isFail then
      .ok status
    else
      (lib.tryDump (pushAll regionEntry regions)).map .success

def getMemoryRegionsHandler
    [ProcFiles κ]
    (std : RegionSort) : Command κ :=
  fun _ s =>
    let (text, k) := maps s.1.pid s.2
    some (regionsReply lib (getMemoryRegions std text),
      (s.1, k))

variable [Regset κ]

def readRegistersHandler : Command κ :=
  parsing lib fun jsonData s =>
    let ((status, result), k) :=
      s.1.readRegisters lib.dump jsonData .null s.2
    if status.isFail then
      some (.ok status, (s.1, k))
    else
      some (.ok (.success (lib.dump result)), (s.1, k))

def writeRegistersHandler : Command κ :=
  parsing lib fun jsonData s =>
    let (ending, k) := s.1.writeRegisters jsonData s.2
    some (ended lib ⟨ending, s.1, k⟩)

end Main

end AnDbg

------------------------------------------------------------
-- Breakpoints
------------------------------------------------------------

namespace AnDbg

namespace Main

open DebuggerCore RPCServer

variable {κ : Type}
variable (lib : Library)

/- The parameters of `set_breakpoint`. -/
def typeAndAddress
    (jsonData : Json) : Option (Int × Addr) := do
  let type ← jsonData.field (ascii "type")
  let address ← jsonData.field (ascii "address")
  return (← lib.int type, ← lib.number address)

def setBreakpointHandler
    [MemoryControl κ]
    [Regset κ]
    [HashOrder κ DBRegister] : Command κ :=
  parsing lib fun jsonData s =>
    match typeAndAddress lib jsonData with
    | none =>
      refused ("set_breakpoint 需要 type 和 address 参数, "
        ++ "且必须是数字") s
    | some (type, address) =>
      let done :=
        s.1.setBreakpoint (.ofInt type) address s.2
      some (ended lib
        { done with result := done.result.map Prod.fst })

/- A command whose parameter is the id of a breakpoint. -/
def breakpointCommand
    (text : String)
    (act : Int → DebuggerCore → κ →
      Outcome DebuggerCore κ Status) : Command κ :=
  parsing lib fun jsonData s =>
    match (jsonData.field (ascii "breakpoint_id")).bind
        lib.int with
    | none => refused text s
    | some breakpointId =>
      some (returned (act breakpointId s.1 s.2))

section

variable [MemoryControl κ] [Regset κ]

def removeBreakpointHandler : Command κ :=
  breakpointCommand lib
    "remove_breakpoint 需要 breakpoint_id 参数, 且必须是数字"
    fun breakpointId c k => c.removeBreakpoint breakpointId k

def enableBreakpointHandler : Command κ :=
  breakpointCommand lib
    "enable_breakpoint 需要 breakpoint_id 参数, 且必须是数字"
    fun breakpointId c k => c.enableBreakpoint breakpointId k

def disableBreakpointHandler : Command κ :=
  breakpointCommand lib
    "disable_breakpoint 需要 breakpoint_id 参数, 且必须是数字"
    fun breakpointId c k => c.disableBreakpoint breakpointId k

end

/- What the handler makes of the breakpoint it is given. -/
def breakpointReply
    (found : Status × Option Breakpoint) : Status :=
  match found with
  | (status, none) => status
  | (status, some breakpoint) =>
    if status.isFail then
      status
    else
      .success (lib.dump (breakpointEntry breakpoint))

def getBreakpointHandler : Command κ :=
  parsing lib fun jsonData s =>
    match jsonData.field (ascii "address") with
    | some value =>
      match lib.number value with
      | none =>
        refused "get_breakpoint 的 address 参数必须是数字" s
      | some address =>
        (s.1.getBreakpointAt address).map fun found =>
          (.ok (breakpointReply lib found), s)
    | none =>
      match jsonData.field (ascii "breakpoint_id") with
      | some value =>
        match lib.int value with
        | none =>
          refused
            "get_breakpoint 的 breakpoint_id 参数必须是数字" s
        | some breakpointId =>
          let found := s.1.getBreakpoint breakpointId
          some (.ok (breakpointReply lib found), s)
      | none => refused "参数错误" s

end Main

end AnDbg

------------------------------------------------------------
-- Threads
------------------------------------------------------------

namespace AnDbg

namespace Main

open DebuggerCore RPCServer

variable {κ : Type}
variable (lib : Library)

/- A command that sends what the debugger knows. -/
def queryCommand
    {α : Type}
    (query : DebuggerCore → Status × α)
    (result : α → Json) : Command κ :=
  fun _ s =>
    let (status, value) := query s.1
    if status.isFail then
      some (.ok status, s)
    else
      some (.ok (.success (lib.dump (result value))), s)

def getThreadsHandler : Command κ :=
  queryCommand lib getThreads
    (pushAll fun tid => .integer tid)

def getPidHandler : Command κ :=
  queryCommand lib getPid
    fun pid => Json.set (ascii "pid") (.integer pid) .null

def getCurrentTidHandler : Command κ :=
  queryCommand lib getCurrentTid
    fun tid => Json.set (ascii "tid") (.integer tid) .null

def switchThreadHandler : Command κ :=
  parsing lib fun jsonData s =>
    match (jsonData.field (ascii "tid")).bind lib.int with
    | none =>
      refused "switch_thread 需要 tid 参数, 且必须是数字" s
    | some tid => some (returned (s.1.switchThread tid s.2))

end Main

end AnDbg

------------------------------------------------------------
-- Registering
------------------------------------------------------------

namespace AnDbg

namespace Main

open RPCServer

variable {κ : Type}

/-
  A handler for the server.  Once a command was undefined or
  did not return there is no state any more.  The answer
  then stands for none, so that what is said about answers
  is said where there is a state.
-/
def Command.handler
    (command : Command κ) :
    Handler (Option (DebuggerCore × κ)) :=
  fun params s =>
    match s.bind (command params) with
    | none => (.error [], none)
    | some (answer, s) => (answer, some s)

/- A handler that is always defined, as a command. -/
def Command.ofHandler
    (handler : Handler (DebuggerCore × κ)) : Command κ :=
  fun params s => some (handler params s)

variable [LaunchKernel κ] [MemoryControl κ] [Regset κ]
variable [HashOrder κ DBRegister] [WalkOrder κ Breakpoint]
variable [ProcFiles κ]

/- The commands, in the order in which they are registered. -/
def commands
    (lib : Library)
    (host : Host)
    (std : RegionSort)
    (rounds : Nat) : List (StdString × Command κ) :=
  [(ascii "attach", attachHandler lib),
    (ascii "launch", launchHandler lib rounds),
    (ascii "detach", detachHandler lib),
    (ascii "kill", killHandler lib),
    (ascii "resume", resumeHandler lib),
    (ascii "pause", pauseHandler lib),
    (ascii "step_into", stepIntoHandler lib),
    (ascii "step_over", stepOverHandler lib),
    (ascii "read_memory",
      .ofHandler (readMemoryHandler lib.toNlohmann host)),
    (ascii "write_memory", writeMemoryHandler lib),
    (ascii "get_memory_regions",
      getMemoryRegionsHandler lib std),
    (ascii "read_registers", readRegistersHandler lib),
    (ascii "write_registers", writeRegistersHandler lib),
    (ascii "set_breakpoint", setBreakpointHandler lib),
    (ascii "remove_breakpoint", removeBreakpointHandler lib),
    (ascii "enable_breakpoint", enableBreakpointHandler lib),
    (ascii "disable_breakpoint", disableBreakpointHandler lib),
    (ascii "get_breakpoints",
      .ofHandler
        (getBreakpointsHandler lib.toNlohmann lib.castInt)),
    (ascii "get_breakpoint", getBreakpointHandler lib),
    (ascii "get_threads", getThreadsHandler lib),
    (ascii "switch_thread", switchThreadHandler lib),
    (ascii "get_pid", getPidHandler lib),
    (ascii "get_current_tid", getCurrentTidHandler lib)]

/- `acp_init`. -/
def acpInit
    (lib : Library)
    (host : Host)
    (std : RegionSort)
    (rounds : Nat)
    (server : RPCServer (Option (DebuggerCore × κ))) :
    RPCServer (Option (DebuggerCore × κ)) :=
  (commands lib host std rounds).foldl
    (fun server entry =>
      server.registerHandler entry.1 entry.2.handler)
    server

end Main

end AnDbg
