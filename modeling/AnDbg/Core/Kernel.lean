import AnDbg.Core.Target

/-
  The calls by which the debugger controls processes.

  `ptrace` stands for the requests that carry no data,
  through `Utils::ptrace_wrapper`, and `waitpid` for
  `Utils::waitpid_wrapper` with `__WALL`.  The thread ids
  and states of a process come from `/proc`.

  Main declarations:
    * `AnDbg.PtraceRequest`
    * `AnDbg.ProcessState`
    * `AnDbg.Kernel` and `AnDbg.ThreadIdsNonneg`
-/

------------------------------------------------------------
-- Process Control
------------------------------------------------------------

namespace AnDbg

/- The `ptrace` requests that carry no data. -/
inductive PtraceRequest
  | attach
  | detach
  | setOptions
  | cont
  | singlestep
deriving DecidableEq

/- `Process::ProcessState`. -/
inductive ProcessState
  | unknown
  | running
  | sleeping
  | diskSleep
  | stopped
  | tracingStop
  | dead
  | zombie
  | parked
  | idle
deriving DecidableEq

/- The signals that the debugger sends. -/
inductive Signal
  | sigcont
  | sigstop
  | sigkill
deriving DecidableEq

/-
  `waitpid` returns the pid it waited for, or a negative
  number, and the status word; `kill` returns what the
  system call returns.
-/
class Kernel (κ : Type) where
  ptrace (request : PtraceRequest) (pid : Pid) : κ → Bool × κ
  waitpid (pid : Pid) : κ → (Pid × BitVec 32) × κ
  kill (pid : Pid) (signal : Signal) : κ → Int × κ
  getThreadIds (pid : Pid) : κ → List Pid × κ
  getProcessState (tid : Pid) : κ → ProcessState × κ
  sleepFor (milliseconds : Nat) : κ → κ
  errno : κ → Int
  strerror : Int → κ → StdString

/- Thread ids are the numbers of directory entries. -/
structure ThreadIdsNonneg
    (κ : Type)
    [Kernel κ] : Prop where
  getThreadIds :
    ∀ pid (k : κ),
      ∀ tid ∈ (Kernel.getThreadIds pid k).1, 0 ≤ tid

/- `WIFSTOPPED`. -/
def wifstopped (status : BitVec 32) : Bool :=
  status &&& 0xff == 0x7f

end AnDbg
