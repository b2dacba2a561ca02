import AnDbg.Core.BreakpointManager.Mapped
import AnDbg.Core.DebuggerCore.Model
import AnDbg.Core.Recorded
import AnDbg.Core.SteppedTarget

/-
  How the stepping commands end, and what they take for a
  stop.

  A step makes one wait.  Stepping over accepts its outcome
  only if the current thread was found stopped; the hardware
  step asks for one of the two only, so it answers with
  success for a thread that died in the step.

  Main declarations:
    * `AnDbg.DebuggerCore.StepOverExit`
    * `AnDbg.DebuggerCore.stepOver_map`
    * `AnDbg.DebuggerCore.ReportsStops`
    * `AnDbg.DebuggerCore.reportsStops_iff`
-/

------------------------------------------------------------
-- The Run To The Temporary Breakpoint
------------------------------------------------------------

namespace AnDbg

namespace DebuggerCore

open Kernel

variable {κ : Type}
variable [Kernel κ]

/- What a wait for the thread has to report. -/
def IsStopOf (tid : Pid) (wait : Pid × BitVec 32) : Prop :=
  wait.1 = tid ∧ wifstopped wait.2 = true

instance (tid : Pid) (wait : Pid × BitVec 32) :
    Decidable (IsStopOf tid wait) :=
  inferInstanceAs (Decidable (_ ∧ _))

/- The current thread resumed and waited for. -/
def resumeAndWait
    (c : DebuggerCore)
    (k : κ) : (Pid × BitVec 32) × κ :=
  waitThread c.currentTid (c.resumeThread c.currentTid k).2

variable [MemoryControl κ] [Regset κ]

theorem runToBreakpoint_object
    (id : Int)
    (c : DebuggerCore)
    (k : κ) :
    (c.runToBreakpoint id k).object =
      (c.removeBreakpoint id (c.resumeAndWait k).2).object := by
  unfold runToBreakpoint resumeAndWait
  dsimp only
  split
  · rfl
  · split
    · rfl
    · rfl

theorem runToBreakpoint_world
    (id : Int)
    (c : DebuggerCore)
    (k : κ) :
    (c.runToBreakpoint id k).world =
      (c.removeBreakpoint id (c.resumeAndWait k).2).world := by
  unfold runToBreakpoint resumeAndWait
  dsimp only
  split
  · rfl
  · split
    · rfl
    · rfl

theorem runToBreakpoint_manager
    (id : Int)
    (c : DebuggerCore)
    (k : κ) :
    (c.runToBreakpoint id k).object.breakpointManager =
      (c.breakpointManager.removeBreakpoint id
        (c.resumeAndWait k).2).object := by
  rw [runToBreakpoint_object]
  rfl

/- It succeeds if it saw a stop and took the breakpoint out. -/
theorem runToBreakpoint_isSuccess_iff
    (id : Int)
    (c : DebuggerCore)
    (k : κ) :
    (c.runToBreakpoint id k).result.isSuccess = true ↔
      (c.removeBreakpoint id
        (c.resumeAndWait k).2).result.isSuccess = true ∧
      IsStopOf c.currentTid (c.resumeAndWait k).1 := by
  unfold runToBreakpoint resumeAndWait IsStopOf
  dsimp only
  rw [Status.isFail_eq_not_isSuccess]
  split
  next hFail =>
    rw [Bool.not_eq_true'] at hFail
    simp [hFail]
  next hRemoved =>
    rw [Bool.not_eq_true', Bool.not_eq_false] at hRemoved
    split
    next hWait =>
      rw [Bool.not_eq_true', ← Bool.not_eq_true] at hWait
      simp [not_and_or.mpr hWait]
    next hWait =>
      simp only [not_or, not_not, Bool.not_eq_true',
        Bool.not_eq_false] at hWait
      simp [hRemoved, hWait]

end DebuggerCore

end AnDbg

------------------------------------------------------------
-- Exits Of Stepping Over
------------------------------------------------------------

namespace AnDbg

namespace DebuggerCore

open RegisterControl BreakpointManager LittleEndian

variable {κ : Type}
variable [Kernel κ] [MemoryControl κ] [Regset κ]

/- How stepping over ends. -/
inductive StepOverExit
    (c : DebuggerCore)
    (k : κ) :
    Except StdException Status → DebuggerCore → κ → Prop
  | noPc
      {k₁ : κ}
      (hPc : getGpr c.currentTid .pc k = (none, k₁)) :
      StepOverExit c k (.ok (.fail (utf8 "读取PC失败"))) c k₁
  | unreadable
      {pc : BitVec 64}
      {buffer : List Byte}
      {k₁ k₂ : κ}
      (hPc : getGpr c.currentTid .pc k = (some pc, k₁))
      (hRead :
        MemoryControl.readMemory c.pid (pc + 4)
            (encode 4 (0 : Word)) k₁ =
          (false, buffer, k₂)) :
      StepOverExit c k
        (.ok (.fail (utf8 "读取下一条指令失败"))) c k₂
  | threw
      {pc : BitVec 64}
      {buffer : List Byte}
      {e : StdException}
      {m : BreakpointManager}
      {k₁ k₂ k₃ : κ}
      (hPc : getGpr c.currentTid .pc k = (some pc, k₁))
      (hRead :
        MemoryControl.readMemory c.pid (pc + 4)
            (encode 4 (0 : Word)) k₁ =
          (true, buffer, k₂))
      (hSet :
        c.breakpointManager.setSoftwareBreakpoint c.currentTid
          (pc + 4) k₂ = ⟨.error e, m, k₃⟩) :
      StepOverExit c k (.error e)
        { c with breakpointManager := m } k₃
  | notSet
      {pc : BitVec 64}
      {buffer : List Byte}
      {m : BreakpointManager}
      {k₁ k₂ k₃ : κ}
      (hPc : getGpr c.currentTid .pc k = (some pc, k₁))
      (hRead :
        MemoryControl.readMemory c.pid (pc + 4)
            (encode 4 (0 : Word)) k₁ =
          (true, buffer, k₂))
      (hSet :
        c.breakpointManager.setSoftwareBreakpoint c.currentTid
          (pc + 4) k₂ = ⟨.ok (-1), m, k₃⟩) :
      StepOverExit c k
        (.ok (.fail (utf8 "设置临时断点失败")))
        { c with breakpointManager := m } k₃
  | ran
      {pc : BitVec 64}
      {buffer : List Byte}
      {id : Int}
      {m : BreakpointManager}
      {k₁ k₂ k₃ : κ}
      (hPc : getGpr c.currentTid .pc k = (some pc, k₁))
      (hRead :
        MemoryControl.readMemory c.pid (pc + 4)
            (encode 4 (0 : Word)) k₁ =
          (true, buffer, k₂))
      (hSet :
        c.breakpointManager.setSoftwareBreakpoint c.currentTid
          (pc + 4) k₂ = ⟨.ok id, m, k₃⟩)
      (hId : id ≠ -1) :
      StepOverExit c k
        (.ok (runToBreakpoint id
          { c with breakpointManager := m } k₃).result)
        (runToBreakpoint id
          { c with breakpointManager := m } k₃).object
        (runToBreakpoint id
          { c with breakpointManager := m } k₃).world

theorem stepOver_exit
    (c : DebuggerCore)
    (k : κ) :
    StepOverExit c k (c.stepOver k).result (c.stepOver k).object
      (c.stepOver k).world := by
  unfold stepOver singleStepImpl
  rcases hPc : getGpr c.currentTid .pc k with ⟨_ | pc, k₁⟩
  · exact .noPc hPc
  dsimp only
  rcases hRead :
    MemoryControl.readMemory c.pid (pc + 4)
      (encode 4 (0 : Word)) k₁ with
    ⟨_ | _, buffer, k₂⟩
  · exact .unreadable hPc hRead
  dsimp only [withManager]
  rcases hSet :
    c.breakpointManager.setSoftwareBreakpoint c.currentTid
      (pc + 4) k₂ with ⟨_ | id, m, k₃⟩
  · exact .threw hPc hRead hSet
  dsimp only
  by_cases hId : id = -1
  · subst hId
    exact .notSet hPc hRead hSet
  · rw [if_neg hId]
    exact .ran hPc hRead hSet hId

/- Stepping into by software is not supported. -/
theorem softwareStepInto_fails
    (c : DebuggerCore)
    (k : κ) :
    ∃ text, (c.softwareStepInto k).result = .ok (.fail text) := by
  unfold softwareStepInto singleStepImpl
  rcases getGpr c.currentTid .pc k with ⟨_ | pc, k₁⟩
  · exact ⟨_, rfl⟩
  · exact ⟨_, rfl⟩

end DebuggerCore

end AnDbg

------------------------------------------------------------
-- Stepping In Related Worlds
------------------------------------------------------------

namespace AnDbg

namespace DebuggerCore

open RegisterControl BreakpointManager LittleEndian

variable {κ κ' : Type}
variable [Kernel κ'] [Kernel κ]
variable {f : κ' → κ}

theorem resumeThread_map
    (hKernel : MapsKernel f)
    (tid : Pid)
    (c : DebuggerCore)
    (k : κ') :
    c.resumeThread tid (f k) =
      ((c.resumeThread tid k).1, f (c.resumeThread tid k).2) := by
  unfold resumeThread
  by_cases hTid : tid ∉ c.tids
  · rw [if_pos hTid, if_pos hTid]
  rw [if_neg hTid, if_neg hTid, hKernel.ptrace]
  rcases Kernel.ptrace .cont tid k with ⟨_ | _, k₁⟩
  · rfl
  · rfl

theorem waitThread_map
    (hKernel : MapsKernel f)
    (tid : Pid)
    (k : κ') :
    waitThread tid (f k) =
      ((waitThread tid k).1, f (waitThread tid k).2) := by
  unfold waitThread
  rw [hKernel.waitpid]

theorem hardwareStepInto_map
    (hKernel : MapsKernel f)
    (c : DebuggerCore)
    (k : κ') :
    c.hardwareStepInto (f k) =
      ((c.hardwareStepInto k).1, f (c.hardwareStepInto k).2) := by
  unfold hardwareStepInto
  rw [hKernel.ptrace]
  rcases Kernel.ptrace .singlestep c.currentTid k with
    ⟨_ | _, k₁⟩
  · dsimp only
    rw [hKernel.errno, hKernel.strerror]
  · dsimp only
    rw [waitThread_map hKernel]
    split
    · rfl
    · rfl

variable [MemoryControl κ'] [MemoryControl κ]
variable [Regset κ'] [Regset κ]

omit [Kernel κ'] [Kernel κ] in
theorem removeBreakpoint_map
    (hMemory : MapsMemory f)
    (hRegset : MapsRegset f)
    (id : Int)
    (c : DebuggerCore)
    (k : κ') :
    (c.removeBreakpoint id k).mapWorld f =
      c.removeBreakpoint id (f k) := by
  unfold removeBreakpoint
  rw [← BreakpointManager.removeBreakpoint_map hMemory hRegset]
  rfl

theorem runToBreakpoint_map
    (hKernel : MapsKernel f)
    (hMemory : MapsMemory f)
    (hRegset : MapsRegset f)
    (id : Int)
    (c : DebuggerCore)
    (k : κ') :
    (c.runToBreakpoint id k).mapWorld f =
      c.runToBreakpoint id (f k) := by
  unfold runToBreakpoint
  rw [resumeThread_map hKernel]
  dsimp only
  rw [waitThread_map hKernel]
  dsimp only
  rw [← removeBreakpoint_map hMemory hRegset]
  generalize waitThread c.currentTid
    (c.resumeThread c.currentTid k).2 = waited
  rcases waited with ⟨⟨wpid, status⟩, k₁⟩
  rcases c.removeBreakpoint id k₁ with ⟨removed, c', k₂⟩
  dsimp only
  by_cases hFail : removed.isFail = true
  · rw [if_pos hFail]
    exact (if_pos hFail).symm
  rw [if_neg hFail]
  by_cases hWait : wpid ≠ c.currentTid ∨ !wifstopped status
  · rw [if_pos hWait]
    exact ((if_neg hFail).trans (if_pos hWait)).symm
  · rw [if_neg hWait]
    exact ((if_neg hFail).trans (if_neg hWait)).symm

theorem singleStepImpl_map
    (hKernel : MapsKernel f)
    (hMemory : MapsMemory f)
    (hRegset : MapsRegset f)
    (mode : SingleStepMode)
    (c : DebuggerCore)
    (k : κ') :
    (c.singleStepImpl mode k).mapWorld f =
      c.singleStepImpl mode (f k) := by
  unfold singleStepImpl
  rw [hRegset.getGpr]
  rcases getGpr c.currentTid .pc k with ⟨_ | pc, k₁⟩
  · rfl
  cases mode with
  | stepInto => rfl
  | stepOver =>
      dsimp only
      rw [hMemory.readMemory]
      rcases MemoryControl.readMemory c.pid (pc + 4)
        (encode 4 (0 : Word)) k₁ with ⟨_ | _, buffer, k₂⟩
      · rfl
      dsimp only [withManager]
      rw [← setSoftwareBreakpoint_map hMemory]
      rcases c.breakpointManager.setSoftwareBreakpoint
        c.currentTid (pc + 4) k₂ with ⟨_ | id, m, k₃⟩
      · rfl
      dsimp only [Outcome.mapWorld]
      split
      · rfl
      · rw [← runToBreakpoint_map hKernel hMemory hRegset]
        rfl

theorem stepOver_map
    (hKernel : MapsKernel f)
    (hMemory : MapsMemory f)
    (hRegset : MapsRegset f)
    (c : DebuggerCore)
    (k : κ') :
    (c.stepOver k).mapWorld f = c.stepOver (f k) :=
  singleStepImpl_map hKernel hMemory hRegset .stepOver c k

end DebuggerCore

end AnDbg

------------------------------------------------------------
-- The Wait Of A Step
------------------------------------------------------------

namespace AnDbg

open Recorded

variable {κ : Type}

/- Register calls make no wait, and neither do breakpoints. -/
theorem BreakpointManager.RegisterCalls.waits
    [Regset κ]
    {tid : Pid}
    {k k' : Recorded κ}
    (hCalls : RegisterCalls tid k k') :
    k'.waits = k.waits := by
  induction hCalls with
  | refl => rfl
  | get _ hGet ih => exact (waits_of_getRegset hGet).trans ih
  | set _ hSet ih => exact (waits_of_setRegset hSet).trans ih

theorem BreakpointManager.waits_setSoftwareBreakpoint
    [MemoryControl κ]
    {tid : Pid}
    {address : Addr}
    {m m' : BreakpointManager}
    {result : Except StdException Int}
    {k k' : Recorded κ}
    (hSet :
      m.setSoftwareBreakpoint tid address k =
        ⟨result, m', k'⟩) :
    k'.waits = k.waits := by
  unfold setSoftwareBreakpoint at hSet
  split at hSet
  · cases hSet
    rfl
  · split at hSet
    · cases hSet
      rfl
    · split at hSet
      next hRead =>
        cases hSet
        exact waits_of_readMemory hRead
      next hRead =>
        dsimp only at hSet
        split at hSet
        next hWrite =>
          cases hSet
          exact (waits_of_writeMemory hWrite).trans
            (waits_of_readMemory hRead)
        next hWrite =>
          cases hSet
          exact (waits_of_writeMemory hWrite).trans
            (waits_of_readMemory hRead)

theorem BreakpointManager.RemoveExit.waits
    [MemoryControl κ]
    [Regset κ]
    {id : Int}
    {m m' : BreakpointManager}
    {success : Bool}
    {k k' : Recorded κ}
    (hExit : RemoveExit id m k success m' k') :
    k'.waits = k.waits := by
  cases hExit with
  | absent => rfl
  | writeFailed _ _ hWrite => exact waits_of_writeMemory hWrite
  | restored _ _ hWrite => exact waits_of_writeMemory hWrite
  | released => exact (RegisterCalls.of_disarm _ k).waits
  | dropped => rfl

theorem RegisterControl.waits_getGpr
    [Regset κ]
    {tid : Pid}
    {reg : GPRegister}
    {found : Option (BitVec 64)}
    {k k' : Recorded κ}
    (hGet : getGpr tid reg k = (found, k')) :
    k'.waits = k.waits := by
  rcases getGpr_cases hGet with ⟨all, hAll, -⟩
  exact waits_of_getRegset hAll

namespace DebuggerCore

variable [Kernel κ]

theorem waits_resumeThread
    (tid : Pid)
    (c : DebuggerCore)
    (k : Recorded κ) :
    (c.resumeThread tid k).2.waits = k.waits := by
  unfold resumeThread
  split
  · rfl
  · split
    next hPtrace => exact waits_of_ptrace hPtrace
    next hPtrace => exact waits_of_ptrace hPtrace

theorem waits_waitThread
    (tid : Pid)
    (k : Recorded κ) :
    (waitThread tid k).2.waits =
      k.waits ++ [(waitThread tid k).1] :=
  waits_of_waitpid rfl

theorem waits_resumeAndWait
    (c : DebuggerCore)
    (k : Recorded κ) :
    (c.resumeAndWait k).2.waits =
      k.waits ++ [(c.resumeAndWait k).1] := by
  unfold resumeAndWait
  rw [waits_waitThread, waits_resumeThread]

variable [MemoryControl κ] [Regset κ]

theorem waits_runToBreakpoint
    (id : Int)
    (c : DebuggerCore)
    (k : Recorded κ) :
    (c.runToBreakpoint id k).world.waits =
      k.waits ++ [(c.resumeAndWait k).1] := by
  have hExit := BreakpointManager.removeBreakpoint_exit id
    c.breakpointManager (c.resumeAndWait k).2
  rw [runToBreakpoint_world, ← waits_resumeAndWait]
  exact hExit.waits

end DebuggerCore

end AnDbg

------------------------------------------------------------
-- Success Means A Stopped Thread
------------------------------------------------------------

namespace AnDbg

namespace DebuggerCore

open Recorded

variable {κ : Type}
variable [Kernel κ] [MemoryControl κ] [Regset κ]

/- An operation that ended with success. -/
def Succeeded {σ κ : Type}
    (done : Outcome σ κ (Except StdException Status)) : Prop :=
  ∃ status : Status,
    done.result = .ok status ∧ status.isSuccess = true

/- The one wait that was made found the thread stopped. -/
def FoundStopped (tid : Pid) (k : Recorded κ) : Prop :=
  ∃ wait, k.waits = [wait] ∧ IsStopOf tid wait

/-
  A step that succeeds has found the current thread stopped,
  and both ways to step judge the outcome of a wait alike,
  unless taking the breakpoint out fails first.
-/
structure ReportsStops (c : DebuggerCore) (k : κ) : Prop where
  stepInto :
    Succeeded (c.stepInto k) →
      FoundStopped c.currentTid (c.stepInto (start k)).world
  stepOver :
    Succeeded (c.stepOver k) →
      FoundStopped c.currentTid (c.stepOver (start k)).world
  alike :
    ∀ (id : Int) (k' : κ) (wait : Pid × BitVec 32),
      (c.hardwareStepInto (start k)).2.waits = [wait] →
      (c.resumeAndWait k').1 = wait →
      (c.removeBreakpoint id
        (c.resumeAndWait k').2).result.isSuccess = true →
      ((c.hardwareStepInto k).1.isSuccess = true ↔
        (c.runToBreakpoint id k').result.isSuccess = true)

/- What the wait of a hardware step reports, if it is taken. -/
def hardwareWait
    (c : DebuggerCore)
    (k : κ) : Option (Pid × BitVec 32) :=
  match Kernel.ptrace .singlestep c.currentTid k with
  | (false, _) => none
  | (true, k) => some (waitThread c.currentTid k).1

/-
  The wait of a hardware step reports the current thread
  exactly if it reports a stop.
-/
def HardwareWaitAgrees (c : DebuggerCore) (k : κ) : Prop :=
  ∀ wait ∈ c.hardwareWait k,
    (wait.1 = c.currentTid ↔ wifstopped wait.2 = true)

/- Stepping over never takes anything else for a stop. -/
theorem foundStopped_of_stepOver
    {c : DebuggerCore}
    {k : Recorded κ}
    (hStart : k.waits = [])
    (hSuccess : Succeeded (c.stepOver k)) :
    FoundStopped c.currentTid (c.stepOver k).world := by
  have hExit := stepOver_exit c k
  rcases hSuccess with ⟨status, hResult, hSuccess⟩
  rcases hDone : c.stepOver k with ⟨result, c', k'⟩
  rw [hDone] at hExit hResult
  cases hResult
  cases hExit with
  | noPc => cases hSuccess
  | unreadable => cases hSuccess
  | notSet => cases hSuccess
  | @ran _ _ id m _ _ k₃ hPc hRead hSet hId =>
      have hWaits : k₃.waits = [] := by
        rw [BreakpointManager.waits_setSoftwareBreakpoint hSet,
          waits_of_readMemory hRead,
          RegisterControl.waits_getGpr hPc, hStart]
      refine ⟨_, ?_,
        ((runToBreakpoint_isSuccess_iff id _ k₃).mp
          hSuccess).2⟩
      exact (waits_runToBreakpoint id _ k₃).trans
        (congrArg (· ++ _) hWaits)

omit [MemoryControl κ] [Regset κ] in
/- What the hardware step takes for a stop. -/
theorem hardwareStepInto_isSuccess_iff
    (c : DebuggerCore)
    (k : κ) :
    (c.hardwareStepInto k).1.isSuccess = true ↔
      ∃ wait ∈ c.hardwareWait k,
        wait.1 = c.currentTid ∨ wifstopped wait.2 = true := by
  unfold hardwareStepInto hardwareWait
  rcases Kernel.ptrace .singlestep c.currentTid k with
    ⟨_ | _, k₁⟩
  · simp
  · dsimp only
    split
    next hWait =>
      rw [Bool.not_eq_true', ← Bool.not_eq_true] at hWait
      simp [hWait]
    next hWait =>
      rw [not_and_or, not_not, Bool.not_eq_true',
        Bool.not_eq_false] at hWait
      simp [hWait]

omit [MemoryControl κ] [Regset κ] in
theorem waits_hardwareStepInto
    (c : DebuggerCore)
    (k : κ) :
    (c.hardwareStepInto (start k)).2.waits =
      (c.hardwareWait k).toList := by
  have hStart :
      Kernel.ptrace .singlestep c.currentTid (start k) =
        let step := Kernel.ptrace .singlestep c.currentTid k
        (step.1, ⟨step.2, [.ptrace step.1]⟩) := rfl
  unfold hardwareStepInto hardwareWait
  rw [hStart]
  rcases Kernel.ptrace .singlestep c.currentTid k with
    ⟨_ | _, k₁⟩
  · rfl
  · have hWaits := waits_waitThread c.currentTid
      (⟨k₁, [.ptrace true]⟩ : Recorded κ)
    dsimp only
    split
    next => exact hWaits
    next => exact hWaits

/- Stepping into succeeds by the hardware or not at all. -/
theorem stepInto_of_hardware
    {c : DebuggerCore}
    {k : κ}
    (hSuccess : (c.hardwareStepInto k).1.isSuccess = true) :
    c.stepInto k =
      ⟨.ok (c.hardwareStepInto k).1, c,
        (c.hardwareStepInto k).2⟩ := by
  unfold stepInto
  exact if_pos hSuccess

theorem hardware_of_stepInto
    {c : DebuggerCore}
    {k : κ}
    (hSuccess : Succeeded (c.stepInto k)) :
    (c.hardwareStepInto k).1.isSuccess = true := by
  rcases hSuccess with ⟨status, hResult, hSuccess⟩
  unfold stepInto at hResult
  dsimp only at hResult
  split at hResult
  next hHardware => exact hHardware
  next =>
    rcases softwareStepInto_fails c (c.hardwareStepInto k).2
      with ⟨text, hFails⟩
    rw [hFails] at hResult
    cases hResult
    cases hSuccess

theorem succeeded_stepInto_iff
    (c : DebuggerCore)
    (k : κ) :
    Succeeded (c.stepInto k) ↔
      (c.hardwareStepInto k).1.isSuccess = true := by
  constructor
  · exact hardware_of_stepInto
  · intro hSuccess
    rw [stepInto_of_hardware hSuccess]
    exact ⟨_, rfl, hSuccess⟩

theorem waits_stepInto
    {c : DebuggerCore}
    {k : κ}
    (hSuccess : (c.hardwareStepInto k).1.isSuccess = true) :
    (c.stepInto (start k)).world.waits =
      (c.hardwareWait k).toList := by
  have hSame := hardwareStepInto_map mapsKernel c (start k)
  have hStart :
      (c.hardwareStepInto (start k)).1.isSuccess = true := by
    rw [← hSuccess]
    exact congrArg (fun done => done.1.isSuccess) hSame.symm
  rw [stepInto_of_hardware hStart]
  exact waits_hardwareStepInto c k

omit [MemoryControl κ] [Regset κ] in
/- Where the two tests agree, both of them have to be met. -/
theorem isSuccess_iff_of_agrees
    {c : DebuggerCore}
    {k : κ}
    (hAgrees : HardwareWaitAgrees c k) :
    (c.hardwareStepInto k).1.isSuccess = true ↔
      ∃ wait ∈ c.hardwareWait k,
        IsStopOf c.currentTid wait := by
  rw [hardwareStepInto_isSuccess_iff]
  constructor
  · intro hAccepted
    rcases hAccepted with ⟨wait, hWait, hTid | hStopped⟩
    · exact ⟨wait, hWait, hTid, (hAgrees wait hWait).mp hTid⟩
    · exact ⟨wait, hWait, (hAgrees wait hWait).mpr hStopped,
        hStopped⟩
  · intro hStop
    rcases hStop with ⟨wait, hWait, hTid, _⟩
    exact ⟨wait, hWait, .inl hTid⟩

/-
  The steps report success for a stopped thread only, and
  judge waits alike, exactly if the wait of a hardware step
  reports the thread and a stop together or neither.
-/
theorem reportsStops_iff
    (c : DebuggerCore)
    (k : κ) :
    ReportsStops c k ↔ HardwareWaitAgrees c k := by
  constructor
  · intro hReports wait hWait
    have hSound :
        wait.1 = c.currentTid ∨ wifstopped wait.2 = true →
          IsStopOf c.currentTid wait := by
      intro hAccepted
      have hSuccess :=
        (hardwareStepInto_isSuccess_iff c k).mpr
          ⟨wait, hWait, hAccepted⟩
      rcases hReports.stepInto
        ((succeeded_stepInto_iff c k).mpr hSuccess) with
        ⟨found, hFound, hStop⟩
      rw [waits_stepInto hSuccess, hWait] at hFound
      cases hFound
      exact hStop
    exact ⟨fun hTid => (hSound (.inl hTid)).2,
      fun hStopped => (hSound (.inr hStopped)).1⟩
  · intro hAgrees
    constructor
    case stepInto =>
      intro hSucceeded
      have hSuccess :=
        (succeeded_stepInto_iff c k).mp hSucceeded
      rcases (isSuccess_iff_of_agrees hAgrees).mp hSuccess
        with ⟨wait, hWait, hStop⟩
      refine ⟨wait, ?_, hStop⟩
      rw [waits_stepInto hSuccess, hWait]
      rfl
    case stepOver =>
      intro hSucceeded
      apply foundStopped_of_stepOver rfl
      rcases hSucceeded with ⟨status, hResult, hSuccess⟩
      refine ⟨status, ?_, hSuccess⟩
      rw [← hResult]
      exact congrArg Outcome.result (stepOver_map mapsKernel
        mapsMemory mapsRegset c (start k))
    case alike =>
      intro id k' wait hWaits hWait hRemoved
      rw [waits_hardwareStepInto,
        Option.toList_eq_singleton_iff] at hWaits
      rw [isSuccess_iff_of_agrees hAgrees,
        runToBreakpoint_isSuccess_iff, hWaits, hWait]
      simp [hRemoved]

/-
  The thread exits in a hardware step: the wait reports it
  with the status of an exit, and the step is a success.
-/
theorem not_reportsStops_exited :
    ¬ ReportsStops
        { init with pid := 7, tids := [7], currentTid := 7 }
        (SteppedTarget.waiting [] (7, 0)) := by
  intro hReports
  rcases hReports.stepInto ⟨_, rfl, rfl⟩ with
    ⟨wait, hWaits, hStop⟩
  cases hWaits
  exact absurd hStop (by decide)

end DebuggerCore

end AnDbg
