import AnDbg.Base.Conversions
import AnDbg.Core.DebuggerCore.Model
import AnDbg.Lib.Loop

/-
  `launch`: start an app and attach to it.

  The debugger traces zygote, has the app started, and waits
  for the fork of a process with the name of its package.
  `reach` is the way to one of the places where `launch`
  leaves, and `leave` is what it does there: it detaches,
  attaches to the app if it was found, and returns a status.
  An exception of the search for zygote is passed on.

  Main declarations:
    * `AnDbg.LaunchKernel`
    * `AnDbg.DebuggerCore.LaunchExit`
    * `AnDbg.DebuggerCore.watchPass`
    * `AnDbg.DebuggerCore.reach` and `leave`
    * `AnDbg.DebuggerCore.launch`
-/

------------------------------------------------------------
-- Calls Into The System
------------------------------------------------------------

namespace AnDbg

/-
  What `launch` calls beyond the `Kernel`.  `setForkOptions`
  is `PTRACE_SETOPTIONS` with `PTRACE_O_TRACESYSGOOD` and
  `PTRACE_O_TRACEFORK`; `waitAny` is `waitpid` for any child
  with `__WALL | WNOHANG`; `now` is the steady clock, in
  nanoseconds.  `findPidByProcessName` throws where it
  cannot convert a number in the output of ps.
-/
class LaunchKernel (κ : Type) extends Kernel κ where
  setForkOptions (pid : Pid) : κ → Bool × κ
  syscall (pid : Pid) : κ → Bool × κ
  getEventMsg (pid : Pid) : κ → Option Pid × κ
  waitAny : κ → (Pid × BitVec 32) × κ
  system (command : StdString) : κ → Int × κ
  now : κ → Int × κ
  findPidByProcessName (name : StdString) :
    κ → Except ConversionError (List Pid) × κ
  findPackageNameByPid (pid : Pid) : κ → Option StdString × κ

/- `WIFEXITED`. -/
def wifexited (status : BitVec 32) : Bool :=
  status &&& 0x7f == 0

/- `WIFSIGNALED`. -/
def wifsignaled (status : BitVec 32) : Bool :=
  status &&& 0x7f != 0 && status &&& 0x7f != 0x7f

/- `WSTOPSIG`. -/
def wstopsig (status : BitVec 32) : BitVec 32 :=
  (status >>> 8) &&& 0xff

/- `PTRACE_EVENT_FORK`. -/
def ptraceEventFork : BitVec 32 := 1

/- `SIGTRAP | 0x80`. -/
def syscallStop : BitVec 32 := 0x85

end AnDbg

------------------------------------------------------------
-- Watching For The App
------------------------------------------------------------

namespace AnDbg

namespace DebuggerCore

open Kernel LaunchKernel Loop

/- The places where `launch` leaves. -/
inductive LaunchExit
  | noZygote
  | notAttached
  | notStopped
  | noOptions
  | notStarted (ret : Int)
  | timedOut
  | waitFailed
  | zygoteExited
  | found (appPid : Pid)
deriving DecidableEq, Repr

variable {κ : Type}
variable [LaunchKernel κ]

/- A fork of zygote: is it the app? -/
def forkPass
    (zygotePid : Pid)
    (packageName : StdString)
    (k : κ) : Pass κ (LaunchExit × κ) :=
  match getEventMsg zygotePid k with
  | (none, k) => .next (ptrace .cont zygotePid k).2
  | (some forkPid, k) =>
    let k := sleepFor 100 k
    match findPackageNameByPid forkPid k with
    | (none, k) => .next (ptrace .cont zygotePid k).2
    | (some childName, k) =>
      if childName ≠ packageName then
        .next (ptrace .cont zygotePid k).2
      else
        .done (.found forkPid, k)

/- An event of zygote. -/
def zygotePass
    (zygotePid : Pid)
    (packageName : StdString)
    (status : BitVec 32)
    (k : κ) : Pass κ (LaunchExit × κ) :=
  if wifstopped status then
    if status.sshiftRight 16 = ptraceEventFork then
      forkPass zygotePid packageName k
    else if wstopsig status = syscallStop then
      .next (syscall zygotePid k).2
    else
      .next (ptrace .cont zygotePid k).2
  else if wifexited status || wifsignaled status then
    .done (.zygoteExited, k)
  else
    .next k

/- One round of the loop of `launch`. -/
def watchPass
    (startTime : Int)
    (zygotePid : Pid)
    (packageName : StdString)
    (k : κ) : Pass κ (LaunchExit × κ) :=
  let (time, k) := now k
  let elapsed := (time - startTime).tdiv 1000000000
  if elapsed > 5 then
    .done (.timedOut, k)
  else
    let ((wpid, status), k) := waitAny k
    if wpid < 0 then
      .done (.waitFailed, k)
    else if wpid = 0 then
      .next (sleepFor 50 k)
    else if wpid = zygotePid then
      zygotePass zygotePid packageName status k
    else
      .next (ptrace .cont wpid k).2

end DebuggerCore

end AnDbg

------------------------------------------------------------
-- Launching
------------------------------------------------------------

namespace AnDbg

namespace DebuggerCore

open Kernel LaunchKernel Loop

variable {κ : Type}
variable [LaunchKernel κ]

/- The package of `package/activity`. -/
def packageOf (packageActivity : StdString) : StdString :=
  packageActivity.takeWhile fun b => b != 0x2F#8

/- The processes that are called zygote. -/
def findZygote
    (k : κ) : Except ConversionError (List Pid) × κ :=
  match findPidByProcessName (ascii "zygote64") k with
  | (.ok [], k) => findPidByProcessName (ascii "zygote") k
  | found => found

/-
  The part of `launch` that traces zygote and lets it run
  on; `none` means that it goes on to start the app.
-/
def traceZygote
    (zygotePid : Pid)
    (k : κ) : Option LaunchExit × κ :=
  match ptrace .attach zygotePid k with
  | (false, k) => (some .notAttached, k)
  | (true, k) =>
    let ((wpid, status), k) := waitpid zygotePid k
    if wpid < 0 || !wifstopped status then
      (some .notStopped, k)
    else
      match setForkOptions zygotePid k with
      | (false, k) => (some .noOptions, k)
      | (true, k) => (none, (ptrace .cont zygotePid k).2)

/-
  The way of `launch` to one of its exits, with the pid of
  zygote, or `-1` without one, or to an exception.  There is
  no result when the rounds that it is given are not enough.
-/
def reach
    (rounds : Nat)
    (packageActivity : StdString)
    (k : κ) :
    Option (Except ConversionError (Pid × LaunchExit) × κ) :=
  let packageName := packageOf packageActivity
  let (_, k) :=
    system (cStr (ascii "am force-stop " ++ packageName)) k
  let k := sleepFor 300 k
  match findZygote k with
  | (.error e, k) => some (.error e, k)
  | (.ok [], k) => some (.ok (-1, .noZygote), k)
  | (.ok (zygotePid :: _), k) =>
    match traceZygote zygotePid k with
    | (some exit, k) => some (.ok (zygotePid, exit), k)
    | (none, k) =>
      let (ret, k) :=
        system (cStr (ascii "am start -n " ++ packageActivity))
          k
      if ret ≠ 0 then
        some (.ok (zygotePid, .notStarted ret), k)
      else
        let (startTime, k) := now k
        (runFor (watchPass startTime zygotePid packageName)
          rounds k).map
            fun (exit, k) => (.ok (zygotePid, exit), k)

/- What a method that may throw comes to where it returns. -/
def returning
    {ε : Type}
    (out : Outcome DebuggerCore κ Status) :
    Outcome DebuggerCore κ (Except ε Status) :=
  ⟨.ok out.result, out.object, out.world⟩

omit [LaunchKernel κ] in
/- A method with a status for its result has returned. -/
theorem exists_returning
    {ε : Type}
    {done : Outcome DebuggerCore κ (Except ε Status)}
    {success : Bool}
    (hReturned :
      done.result.map Status.isSuccess = .ok success) :
    ∃ out, done = returning out ∧
      out.result.isSuccess = success := by
  rcases done with ⟨_ | status, c, k⟩
  · cases hReturned
  · exact ⟨⟨status, c, k⟩, rfl, Except.ok.inj hReturned⟩

/- Detach zygote and return a failure. -/
def leaveZygote
    (zygotePid : Pid)
    (text : κ → StdString)
    (c : DebuggerCore)
    (k : κ) : Outcome DebuggerCore κ Status :=
  let (_, k) := ptrace .detach zygotePid k
  ⟨.fail (text k), c, k⟩

/- What `launch` does at an exit. -/
def leave
    (zygotePid : Pid)
    (exit : LaunchExit)
    (c : DebuggerCore)
    (k : κ) : Outcome DebuggerCore κ Status :=
  match exit with
  | .noZygote => ⟨.fail (utf8 "未找到 zygote 进程"), c, k⟩
  | .notAttached => ⟨.fail (utf8 "附加到 zygote 进程失败"), c, k⟩
  | .notStopped =>
    leaveZygote zygotePid
      (fun _ => utf8 "等待 zygote 停止失败") c k
  | .noOptions =>
    leaveZygote zygotePid
      (fun _ => utf8 "设置 zygote ptrace 选项失败") c k
  | .notStarted ret =>
    leaveZygote zygotePid
      (fun _ => utf8 "启动 app 失败, 命令返回值: " ++ dec ret)
      c k
  | .timedOut =>
    leaveZygote zygotePid
      (fun _ => utf8 "拦截 app PID 超时") c k
  | .waitFailed =>
    leaveZygote zygotePid
      (fun k => utf8 "等待进程事件失败,  errno = "
        ++ strerror (errno k) k) c k
  | .zygoteExited =>
    leaveZygote zygotePid
      (fun _ => utf8 "zygote 进程异常退出, 无法捕获 app pid")
      c k
  | .found appPid =>
    let (_, k) := ptrace .detach appPid k
    let (_, k) := ptrace .detach zygotePid k
    if appPid ≤ 0 then
      ⟨.fail (utf8 "未拦截到 app 进程 PID"), c, k⟩
    else
      let done := c.attach appPid k
      { done with
        result :=
          if done.result.isSuccess then
            .success (utf8 "启动并附加到 app 成功, PID: "
              ++ dec appPid)
          else
            .fail (utf8 "附加到 app 进程失败: "
              ++ cStr done.result.string) }

/- The way from an exit, or that of an exception. -/
def leaveOrThrow
    (c : DebuggerCore) :
    Except ConversionError (Pid × LaunchExit) × κ →
      Outcome DebuggerCore κ (Except ConversionError Status)
| (.error e, k) => ⟨.error e, c, k⟩
| (.ok (zygotePid, exit), k) =>
    returning (leave zygotePid exit c k)

/- `launch`. -/
def launch
    (rounds : Nat)
    (packageActivity : StdString)
    (c : DebuggerCore)
    (k : κ) :
    Option
      (Outcome DebuggerCore κ
        (Except ConversionError Status)) :=
  (reach rounds packageActivity k).map (leaveOrThrow c)

end DebuggerCore

end AnDbg
