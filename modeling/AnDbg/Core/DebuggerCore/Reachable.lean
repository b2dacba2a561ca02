import AnDbg.Core.DebuggerCore.AttachPackage
import AnDbg.Core.DebuggerCore.Launch
import AnDbg.Core.DebuggerCore.StepOver

/-
  The debuggers that operations lead to.

  Between two operations the world may change in any way, so
  that each finds a world of its own.  `launch` and `attach`
  of a package change the debugger only by an `attach`, and
  lead to nothing new.

  Main declarations:
    * `AnDbg.DebuggerCore.Reachable`
    * `AnDbg.DebuggerCore.reachable_run`
    * `AnDbg.DebuggerCore.Reachable.launch`
    * `AnDbg.DebuggerCore.Reachable.consistent`
-/

------------------------------------------------------------
-- Reachable Debuggers
------------------------------------------------------------

namespace AnDbg

namespace DebuggerCore

open BreakpointManager Kernel Run

/- A debugger after some operations. -/
inductive Reachable
    (κ : Type)
    [Kernel κ]
    [MemoryControl κ]
    [Regset κ]
    [HashOrder κ DBRegister]
    (dump : Json → StdString) : DebuggerCore → Prop
  | init : Reachable κ dump init
  | step
      {c : DebuggerCore}
      (hBefore : Reachable κ dump c)
      (op : Op)
      (k : κ) :
      Reachable κ dump (exec dump op ⟨c, k⟩).object

section Operations

variable {κ : Type}
variable [Kernel κ] [MemoryControl κ] [Regset κ]
variable [HashOrder κ DBRegister]
variable {dump : Json → StdString} {c : DebuggerCore}

/- The debugger of a run is reachable. -/
theorem reachable_run
    (dump : Json → StdString)
    (ops : List Op)
    (k : κ) :
    Reachable κ dump
      (run (DebuggerCore.step dump) ops
        (Session.start k)).core := by
  have hStep (s : Session κ) (op : Op)
      (hBefore : Reachable κ dump s.core) :
      Reachable κ dump (DebuggerCore.step dump op s).core :=
    hBefore.step op s.world
  exact run_invariant hStep ops .init

theorem Reachable.attachPackage
    {packageName : StdString}
    {table : ProcTable}
    {k : κ}
    {done : Outcome DebuggerCore κ Status}
    (hBefore : Reachable κ dump c)
    (hDone : c.attachPackage packageName table k = some done) :
    Reachable κ dump done.object := by
  unfold DebuggerCore.attachPackage at hDone
  split at hDone
  next => cases hDone
  next pid _ =>
    cases hDone
    exact hBefore.step (.attach pid) k

/- The tables of a reachable debugger are consistent. -/
theorem Reachable.consistent
    (hReachable : Reachable κ dump c) :
    Consistent c.breakpointManager := by
  induction hReachable with
  | init => exact consistent_init
  | step _ op k ih => exact consistent_step dump ⟨_, k⟩ op ih

end Operations

section Launching

variable {κ : Type}
variable [LaunchKernel κ] [MemoryControl κ] [Regset κ]
variable [HashOrder κ DBRegister]
variable {dump : Json → StdString} {c : DebuggerCore}

theorem Reachable.leave
    (hBefore : Reachable κ dump c)
    (zygotePid : Pid)
    (exit : LaunchExit)
    (k : κ) :
    Reachable κ dump
      (c.leave zygotePid exit k).object := by
  cases exit with
  | noZygote => exact hBefore
  | notAttached => exact hBefore
  | notStopped => exact hBefore
  | noOptions => exact hBefore
  | notStarted ret => exact hBefore
  | timedOut => exact hBefore
  | waitFailed => exact hBefore
  | zygoteExited => exact hBefore
  | found appPid =>
      unfold DebuggerCore.leave
      dsimp only
      split
      next => exact hBefore
      next => exact hBefore.step (.attach appPid) _

theorem Reachable.launch
    {rounds : Nat}
    {packageActivity : StdString}
    {k : κ}
    {done :
      Outcome DebuggerCore κ (Except ConversionError Status)}
    (hBefore : Reachable κ dump c)
    (hDone : c.launch rounds packageActivity k = some done) :
    Reachable κ dump done.object := by
  rcases Option.map_eq_some_iff.mp hDone with
    ⟨⟨e | ⟨zygotePid, exit⟩, k'⟩, _, rfl⟩
  · exact hBefore
  · exact hBefore.leave zygotePid exit k'

end Launching

end DebuggerCore

end AnDbg
