import AnDbg.Core.Kernel
import AnDbg.Core.BreakpointManager.Model

/-
  The debugger: its session, execution control, breakpoints
  and memory.

  A session is the main thread, the list of traced threads
  and the current thread.  A loop over the threads is a
  recursion on their list that passes the world on; the
  requests of a loop are made in the order of the list.

  Main declarations:
    * `AnDbg.DebuggerCore`
    * `AnDbg.DebuggerCore.attach`, `detach` and `kill`
    * `AnDbg.DebuggerCore.resume` and `pause`
    * `AnDbg.DebuggerCore.stepInto` and `stepOver`
    * `AnDbg.DebuggerCore.setBreakpoint`
    * `AnDbg.DebuggerCore.readMemory` and `writeMemory`
-/

------------------------------------------------------------
-- The Session
------------------------------------------------------------

namespace AnDbg

/- The fields of the debugger. -/
structure DebuggerCore where
  pid : Pid
  tids : List Pid
  currentTid : Pid
  breakpointManager : BreakpointManager

namespace DebuggerCore

variable {κ : Type}

/- `DebuggerCore::DebuggerCore`. -/
def init : DebuggerCore where
  pid := -1
  tids := []
  currentTid := -1
  breakpointManager := BreakpointManager.init

/- `get_threads`. -/
def getThreads (c : DebuggerCore) : Status × List Pid :=
  (.successText (utf8 "get_threads 成功"), c.tids)

/- `get_pid`. -/
def getPid (c : DebuggerCore) : Status × Pid :=
  (.successText (utf8 "get_pid 成功"), c.pid)

/- `get_current_tid`. -/
def getCurrentTid (c : DebuggerCore) : Status × Pid :=
  (.successText (utf8 "get_current_tid 成功"), c.currentTid)

/- `switch_thread`. -/
def switchThread
    (tid : Pid)
    (c : DebuggerCore)
    (k : κ) : Outcome DebuggerCore κ Status :=
  if tid ∈ c.tids then
    ⟨.successText (utf8 "switch_thread 成功"),
      { c with currentTid := tid }, k⟩
  else
    ⟨.fail (utf8 "线程 " ++ dec tid ++ utf8 " 不在 m_tids 中"),
      c, k⟩

end DebuggerCore

end AnDbg

------------------------------------------------------------
-- Attaching
------------------------------------------------------------

namespace AnDbg

namespace DebuggerCore

open Kernel

variable {κ : Type}
variable [Kernel κ]

/- `set_default_ptrace_options`. -/
def setDefaultPtraceOptions
    (tid : Pid)
    (k : κ) : Bool × κ :=
  ptrace .setOptions tid k

/-
  The part of a round of `attach` that stops a thread; a
  thread that is in a tracing stop is taken as it is.
-/
def seizeThread
    (tid : Pid)
    (k : κ) : Bool × κ :=
  let (state, k) := getProcessState tid k
  if state ≠ .tracingStop then
    match ptrace .attach tid k with
    | (false, k) => (false, k)
    | (true, k) =>
      let ((wpid, _), k) := waitpid tid k
      if wpid < 0 then
        (false, k)
      else
        (true, k)
  else
    (true, k)

/- A round of `attach`: whether the thread is recorded. -/
def attachThread
    (tid : Pid)
    (k : κ) : Bool × κ :=
  match seizeThread tid k with
  | (false, k) => (false, k)
  | (true, k) => setDefaultPtraceOptions tid k

/- The loop of `attach`, with the threads it records. -/
def attachThreads : List Pid → κ → List Pid × κ
| [], k => ([], k)
| tid :: tids, k =>
    match attachThread tid k with
    | (false, k) => attachThreads tids k
    | (true, k) =>
      let (attachedTids, k) := attachThreads tids k
      (tid :: attachedTids, k)

/- `attach`. -/
def attach
    (pid : Pid)
    (c : DebuggerCore)
    (k : κ) : Outcome DebuggerCore κ Status :=
  let (tids, k) := getThreadIds pid k
  if tids = [] then
    ⟨.fail (utf8 "获取线程 id 有误"), c, k⟩
  else
    let (attachedTids, k) := attachThreads tids k
    if attachedTids = [] then
      ⟨.fail (utf8 "没有附加到任何线程"), c, k⟩
    else if pid ∉ attachedTids then
      ⟨.fail (utf8 "主线程没有被附加"), c, k⟩
    else
      ⟨.successText (utf8 "attach 成功"),
        { c with
          pid := pid
          currentTid := pid
          tids := attachedTids },
        k⟩

end DebuggerCore

end AnDbg

------------------------------------------------------------
-- Detaching And Killing
------------------------------------------------------------

namespace AnDbg

namespace DebuggerCore

open Kernel

variable {κ : Type}
variable [Kernel κ]

/- The rate at which a loop over the threads succeeded. -/
def rate
    (successCount : Nat)
    (tids : List Pid) : StdString :=
  utf8 ", 成功率: " ++ dec successCount ++ utf8 " / "
    ++ dec tids.length

/- A round of `detach`. -/
def detachThread
    (tid : Pid)
    (k : κ) : Bool × κ :=
  match ptrace .detach tid k with
  | (true, k) => (true, k)
  | (false, k) =>
    let (state, k) := getProcessState tid k
    (state = .zombie, k)

/- The loop of `detach`: `all_ok` and `success_count`. -/
def detachThreads : List Pid → κ → (Bool × Nat) × κ
| [], k => ((true, 0), k)
| tid :: tids, k =>
    let (ok, k) := detachThread tid k
    let ((allOk, successCount), k) := detachThreads tids k
    ((ok && allOk,
      if ok then successCount + 1 else successCount), k)

/- `detach`. -/
def detach
    (c : DebuggerCore)
    (k : κ) : Outcome DebuggerCore κ Status :=
  if c.pid < 0 then
    ⟨.fail (utf8 "m_pid 无效"), c, k⟩
  else
    let (_, k) := Kernel.kill c.pid .sigcont k
    let ((allOk, successCount), k) := detachThreads c.tids k
    if allOk then
      ⟨.successText (utf8 "detach 成功"), c, k⟩
    else
      ⟨.fail (utf8 "部分线程分离" ++ rate successCount c.tids),
        c, k⟩

/- The world as it is when `kill` sends its signal. -/
def beforeSigkill
    (c : DebuggerCore)
    (k : κ) : κ :=
  let (state, k) := getProcessState c.pid k
  let k :=
    if state = .tracingStop then (c.detach k).world else k
  sleepFor 500 k

/- `kill`. -/
def kill
    (c : DebuggerCore)
    (k : κ) : Outcome DebuggerCore κ Status :=
  if c.pid < 0 then
    ⟨.fail (utf8 "m_pid 无效"), c, k⟩
  else
    let (ret, k) :=
      Kernel.kill c.pid .sigkill (c.beforeSigkill k)
    if ret ≠ 0 then
      ⟨.fail (utf8 "kill 失败, errno: "
        ++ strerror (errno k) k), c, k⟩
    else
      ⟨.successText (utf8 "kill 成功"),
        { c with pid := -1, tids := [] }, k⟩

end DebuggerCore

end AnDbg

------------------------------------------------------------
-- Resuming And Pausing
------------------------------------------------------------

namespace AnDbg

namespace DebuggerCore

open Kernel

variable {κ : Type}
variable [Kernel κ]

/- `resume_thread`. -/
def resumeThread
    (tid : Pid)
    (c : DebuggerCore)
    (k : κ) : Status × κ :=
  if tid ∉ c.tids then
    (.fail (utf8 "resume_thread: 线程 " ++ dec tid
      ++ utf8 " 不存在"), k)
  else
    match ptrace .cont tid k with
    | (false, k) =>
      (.fail (utf8 "resume_thread: PTRACE_CONT 失败 tid="
        ++ dec tid), k)
    | (true, k) =>
      (.successText (utf8 "resume_thread 成功"), k)

/- `pause_thread`. -/
def pauseThread
    (tid : Pid)
    (c : DebuggerCore)
    (k : κ) : Status × κ :=
  if tid ∉ c.tids then
    (.fail (utf8 "线程 " ++ dec tid ++ utf8 " 不存在"), k)
  else
    let (ret, k) := Kernel.kill tid .sigstop k
    if ret ≠ 0 then
      (.fail (utf8 "pause_thread 失败 tid: " ++ dec tid
        ++ utf8 ", errno(" ++ dec (errno k) ++ utf8 "): "
        ++ strerror (errno k) k), k)
    else
      (.successText (utf8 "pause_thread 成功"), k)

/-
  The loops of `resume` and `pause`: an action on each
  thread that is in the right state, with `all_ok` and
  `success_count`.
-/
def forThreads
    (wanted : ProcessState → Bool)
    (action : Pid → κ → Status × κ) :
    List Pid → κ → (Bool × Nat) × κ
| [], k => ((true, 0), k)
| tid :: tids, k =>
    let (state, k) := getProcessState tid k
    if wanted state then
      let (s, k) := action tid k
      let ((allOk, successCount), k) :=
        forThreads wanted action tids k
      if s.isFail then
        ((false, successCount), k)
      else
        ((allOk, successCount + 1), k)
    else
      forThreads wanted action tids k

/- `resume`. -/
def resume
    (c : DebuggerCore)
    (k : κ) : Status × κ :=
  if c.pid ≤ 0 ∨ c.tids = [] then
    (.fail (utf8 "resume: 未附加任何进程"), k)
  else
    let ((allOk, successCount), k) :=
      forThreads (fun state => state = .tracingStop)
        (fun tid k => c.resumeThread tid k) c.tids k
    if !allOk then
      (.fail (utf8 "部分线程恢复失败"
        ++ rate successCount c.tids), k)
    else
      (.successText (utf8 "resume 所有线程成功"), k)

/- `pause`. -/
def pause
    (c : DebuggerCore)
    (k : κ) : Status × κ :=
  if c.pid ≤ 0 ∨ c.tids = [] then
    (.fail (utf8 "pause: 未附加任何进程"), k)
  else
    let ((allOk, successCount), k) :=
      forThreads (fun state => state ≠ .tracingStop)
        (fun tid k => c.pauseThread tid k) c.tids k
    if !allOk then
      (.fail (utf8 "部分线程暂停失败"
        ++ rate successCount c.tids), k)
    else
      (.successText (utf8 "pause 所有线程成功"), k)

end DebuggerCore

end AnDbg

------------------------------------------------------------
-- Breakpoints
------------------------------------------------------------

namespace AnDbg

namespace DebuggerCore

variable {κ : Type}

/- The debugger after its breakpoint manager has acted. -/
def withManager
    {α : Type}
    (c : DebuggerCore)
    (done : Outcome BreakpointManager κ α) :
    Outcome DebuggerCore κ α :=
  ⟨done.result, { c with breakpointManager := done.object },
    done.world⟩

/- The answer to a breakpoint id that was or was not given. -/
def breakpointSet (breakpointId : Int) : Status × Int :=
  if breakpointId = -1 then
    (.fail (utf8 "set_breakpoint 失败"), breakpointId)
  else
    (.successText (utf8 "set_breakpoint 成功"), breakpointId)

/- `set_breakpoint`, with `breakpoint_id`. -/
def setBreakpoint
    [MemoryControl κ]
    [Regset κ]
    [HashOrder κ DBRegister]
    (type : BreakpointType)
    (address : Addr)
    (c : DebuggerCore)
    (k : κ) :
    Outcome DebuggerCore κ
      (Except StdException (Status × Int)) :=
  if type = .software then
    let done :=
      c.withManager
        (c.breakpointManager.setSoftwareBreakpoint c.currentTid
          address k)
    { done with result := done.result.map breakpointSet }
  else if type = .hardwareExecution ∨
      type = .hardwareReadwrite ∨ type = .hardwareWrite then
    let done :=
      c.withManager
        (c.breakpointManager.setHardwareBreakpoint c.currentTid
          address type k)
    { done with result := done.result.map breakpointSet }
  else
    ⟨.ok (.fail (utf8 "未知类型"), -1), c, k⟩

/- `remove_breakpoint`. -/
def removeBreakpoint
    [MemoryControl κ]
    [Regset κ]
    (breakpointId : Int)
    (c : DebuggerCore)
    (k : κ) : Outcome DebuggerCore κ Status :=
  c.withManager
    (c.breakpointManager.removeBreakpoint breakpointId k)

/- `enable_breakpoint`. -/
def enableBreakpoint
    [MemoryControl κ]
    [Regset κ]
    (breakpointId : Int)
    (c : DebuggerCore)
    (k : κ) : Outcome DebuggerCore κ Status :=
  c.withManager (c.breakpointManager.enable breakpointId k)

/- `disable_breakpoint`. -/
def disableBreakpoint
    [MemoryControl κ]
    [Regset κ]
    (breakpointId : Int)
    (c : DebuggerCore)
    (k : κ) : Outcome DebuggerCore κ Status :=
  c.withManager (c.breakpointManager.disable breakpointId k)

/- `get_breakpoint` by id. -/
def getBreakpoint
    (breakpointId : Int)
    (c : DebuggerCore) : Status × Option Breakpoint :=
  match c.breakpointManager.getBreakpoint breakpointId with
  | none =>
    (.fail (utf8 "没有 id: " ++ dec breakpointId
      ++ utf8 " 对应的断点"), none)
  | some breakpoint =>
    (.successText (utf8 "get_breakpoint 成功"), some breakpoint)

/-
  `get_breakpoint` by address; the lookup of a missing
  address is undefined (`none`).
-/
def getBreakpointAt
    (address : Addr)
    (c : DebuggerCore) :
    Option (Status × Option Breakpoint) :=
  (c.breakpointManager.getBreakpointAt address).map fun
    | none =>
      (.fail (utf8 "没有 address: " ++ dec address.toNat
        ++ utf8 " 对应的断点"), none)
    | some breakpoint =>
      (.successText (utf8 "get_breakpoint 成功"),
        some breakpoint)

/- The answer to a list of breakpoints. -/
def breakpointList
    (breakpoints : Multiset Breakpoint) :
    Status × Multiset Breakpoint :=
  if breakpoints = 0 then
    (.fail (utf8 "get_breakpoints 失败"), breakpoints)
  else
    (.successText (utf8 "get_breakpoints 成功"), breakpoints)

/- `get_breakpoints`. -/
def getBreakpoints
    (c : DebuggerCore) : Status × Multiset Breakpoint :=
  breakpointList c.breakpointManager.getBreakpoints

/- `get_breakpoints` of a thread. -/
def getBreakpointsOf
    (tid : Pid)
    (c : DebuggerCore) : Status × Multiset Breakpoint :=
  breakpointList (c.breakpointManager.getBreakpointsOf tid)

end DebuggerCore

end AnDbg

------------------------------------------------------------
-- Stepping
------------------------------------------------------------

namespace AnDbg

namespace DebuggerCore

open Kernel

variable {κ : Type}
variable [Kernel κ]

/-
  `waitpid` with a status that was set to zero before, as a
  call that fails leaves it.
-/
def waitThread
    (tid : Pid)
    (k : κ) : (Pid × BitVec 32) × κ :=
  let ((wpid, status), k) := waitpid tid k
  ((wpid, if wpid < 0 then 0 else status), k)

/- `hardware_step_into`. -/
def hardwareStepInto
    (c : DebuggerCore)
    (k : κ) : Status × κ :=
  match ptrace .singlestep c.currentTid k with
  | (false, k) =>
    (.fail (utf8
        "hardware_step_into: PTRACE_SINGLESTEP 失败 tid = "
      ++ dec c.currentTid ++ utf8 " errno = "
      ++ strerror (errno k) k), k)
  | (true, k) =>
    let ((wpid, status), k) := waitThread c.currentTid k
    if wpid ≠ c.currentTid ∧ !wifstopped status then
      (.fail (utf8 "hardware_step_into: waitpid 失败 tid="
        ++ dec c.currentTid), k)
    else
      (.success (utf8 "hardware_step_into 成功 tid="
        ++ dec c.currentTid), k)

/- `SingleStepMode`. -/
inductive SingleStepMode
  | stepInto
  | stepOver
deriving DecidableEq

variable [MemoryControl κ] [Regset κ]

/-
  The part of `single_step_impl` that follows the setting of
  the temporary breakpoint.
-/
def runToBreakpoint
    (breakpointId : Int)
    (c : DebuggerCore)
    (k : κ) : Outcome DebuggerCore κ Status :=
  let (_, k) := c.resumeThread c.currentTid k
  let ((wpid, status), k) := waitThread c.currentTid k
  let removed := c.removeBreakpoint breakpointId k
  if removed.result.isFail then
    removed
  else if wpid ≠ c.currentTid ∨ !wifstopped status then
    { removed with result := .fail (utf8 "等待暂停失败") }
  else
    { removed with
      result := .successText (utf8 "软件单步完成") }

/- `single_step_impl`. -/
def singleStepImpl
    (mode : SingleStepMode)
    (c : DebuggerCore)
    (k : κ) :
    Outcome DebuggerCore κ (Except StdException Status) :=
  match RegisterControl.getGpr c.currentTid .pc k with
  | (none, k) => ⟨.ok (.fail (utf8 "读取PC失败")), c, k⟩
  | (some pc, k) =>
    match mode with
    | .stepInto =>
      ⟨.ok (.fail (utf8 "暂时不支持软件单步步入")), c, k⟩
    | .stepOver =>
      let nextPc := pc + 4
      match MemoryControl.readMemory c.pid nextPc
          (LittleEndian.encode 4 (0 : Word)) k with
      | (false, _, k) =>
        ⟨.ok (.fail (utf8 "读取下一条指令失败")), c, k⟩
      | (true, _, k) =>
        let set :=
          c.withManager
            (c.breakpointManager.setSoftwareBreakpoint
              c.currentTid nextPc k)
        match set.result with
        | .error e => { set with result := .error e }
        | .ok breakpointId =>
          if breakpointId = -1 then
            { set with
              result :=
                .ok (.fail (utf8 "设置临时断点失败")) }
          else
            let done :=
              set.object.runToBreakpoint breakpointId set.world
            { done with result := .ok done.result }

/- `software_step_into`. -/
def softwareStepInto
    (c : DebuggerCore)
    (k : κ) :
    Outcome DebuggerCore κ (Except StdException Status) :=
  c.singleStepImpl .stepInto k

/- `step_over`. -/
def stepOver
    (c : DebuggerCore)
    (k : κ) :
    Outcome DebuggerCore κ (Except StdException Status) :=
  c.singleStepImpl .stepOver k

/- `step_into`. -/
def stepInto
    (c : DebuggerCore)
    (k : κ) :
    Outcome DebuggerCore κ (Except StdException Status) :=
  match c.hardwareStepInto k with
  | (hwStatus, k) =>
    if hwStatus.isSuccess then
      ⟨.ok hwStatus, c, k⟩
    else
      let done := c.softwareStepInto k
      match done.result with
      | .error e => { done with result := .error e }
      | .ok swStatus =>
        if swStatus.isSuccess then
          done
        else
          { done with
            result :=
              .ok (.fail (utf8 "单步执行失败: "
                ++ cStr swStatus.string)) }

end DebuggerCore

end AnDbg

------------------------------------------------------------
-- Memory
------------------------------------------------------------

namespace AnDbg

namespace DebuggerCore

open Kernel

variable {κ : Type}
variable [Kernel κ] [MemoryControl κ]

/- `read_memory`, with the buffer that it fills. -/
def readMemory
    (address : Addr)
    (buffer : List Byte)
    (c : DebuggerCore)
    (k : κ) : (Status × List Byte) × κ :=
  if address = 0 then
    ((.fail (utf8 "无效的地址"), buffer), k)
  else if buffer = [] then
    ((.fail (utf8 "无效的大小"), buffer), k)
  else
    match MemoryControl.readMemory c.pid address buffer k with
    | (true, buffer, k) =>
      ((.successText (utf8 "read_memory 成功"), buffer), k)
    | (false, buffer, k) =>
      -- a read that failed is reported as a success
      ((.success (utf8 "read_memory 失败, errno: "
        ++ strerror (errno k) k), buffer), k)

/- `write_memory`. -/
def writeMemory
    (address : Addr)
    (buffer : List Byte)
    (c : DebuggerCore)
    (k : κ) : Status × κ :=
  if address = 0 then
    (.fail (utf8 "无效的地址"), k)
  else if buffer = [] then
    (.fail (utf8 "无效的大小"), k)
  else
    match MemoryControl.writeMemory c.pid address buffer k with
    | (true, k) =>
      (.successText (utf8 "write_memory 成功"), k)
    | (false, k) =>
      (.fail (utf8 "write_memory 失败, errno: "
        ++ strerror (errno k) k), k)

end DebuggerCore

end AnDbg
