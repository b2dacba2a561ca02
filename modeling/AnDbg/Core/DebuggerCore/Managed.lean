import AnDbg.Core.BreakpointManager.WrittenImage
import AnDbg.Core.DebuggerCore.Reachable
import AnDbg.Lib.Interleaving

/-
  The debugger acts on its breakpoint manager only by some
  of the manager's own operations.

  Each operation of the debugger is some number of those of
  the manager, mostly none.  The probe of a thread is not
  among them, and setting a hardware breakpoint looks for a
  free register before it probes.  So no thread is ever
  probed, no register is ever free, and the breakpoints that
  are live are software breakpoints.

  Main declarations:
    * `AnDbg.BreakpointManager.Unarmed`
    * `AnDbg.BreakpointManager.Unarmed.step`
    * `AnDbg.DebuggerCore.refines_manager`
    * `AnDbg.DebuggerCore.Reachable.unarmed`
    * `AnDbg.DebuggerCore.setBreakpoint_refused`
-/

------------------------------------------------------------
-- Managers Without Hardware Breakpoints
------------------------------------------------------------

namespace AnDbg

namespace BreakpointManager

/- Whether the debugger calls an operation. -/
def Op.Called : Op → Prop
| .getHardwareRegistersCount _ => False
| .initHardwareRegister _ => False
| .setHardwareBreakpoint _ _ type => type.isHardware = true
| _ => True

/-
  No thread was probed, no thread has a free register, and
  no hardware breakpoint is live.
-/
structure Unarmed (m : BreakpointManager) : Prop where
  unprobed : m.hardwareRegistersCount = ∅
  noFree : ∀ tid, m.free tid = ∅
  software : OnlySoftware m

theorem unarmed_init : Unarmed init where
  unprobed := rfl
  noFree _ := rfl
  software id bp hLookup := by simp [init] at hLookup

section Steps

variable {κ : Type}
variable {m m' : BreakpointManager}
variable {k k' : κ}

theorem SetSoftwareExit.unarmed
    [MemoryControl κ]
    {tid : Pid}
    {address : Addr}
    {result : Except StdException Int}
    (hUnarmed : Unarmed m)
    (hExit : SetSoftwareExit tid address m k result m' k') :
    Unarmed m' := by
  rcases hUnarmed with ⟨hUnprobed, hNoFree, hSoftware⟩
  cases hExit with
  | misaligned => exact ⟨hUnprobed, hNoFree, hSoftware⟩
  | duplicate => exact ⟨hUnprobed, hNoFree, hSoftware⟩
  | readFailed => exact ⟨hUnprobed, hNoFree, hSoftware⟩
  | writeFailed => exact ⟨hUnprobed, hNoFree, hSoftware⟩
  | refused => exact ⟨hUnprobed, hNoFree, hSoftware⟩
  | created =>
      exact ⟨hUnprobed, hNoFree, hSoftware.enter rfl⟩

/- Without a free register the setting gives up. -/
theorem SetHardwareExit.unarmed
    [Regset κ]
    {tid : Pid}
    {address : Addr}
    {type : BreakpointType}
    {result : Except StdException Int}
    (hUnarmed : Unarmed m)
    (hExit :
      SetHardwareExit tid address type m k result m' k') :
    Unarmed m' ∧
      ∀ id, result = .ok id → id = -1 := by
  have hNone := hUnarmed.noFree tid
  cases hExit with
  | misaligned => exact ⟨hUnarmed, nofun⟩
  | duplicate =>
      exact ⟨hUnarmed, fun id hId => (Except.ok.inj hId).symm⟩
  | noFree =>
      refine ⟨⟨hUnarmed.unprobed, fun tid' => ?_,
        hUnarmed.software⟩,
        fun id hId => (Except.ok.inj hId).symm⟩
      rw [free_touchFree]
      exact hUnarmed.noFree tid'
  | initFailed hPool => exact absurd hNone hPool
  | wrongType hPool => exact absurd hNone hPool
  | setFailed hPool => exact absurd hNone hPool
  | refused _ _ hPool => exact absurd hNone hPool
  | created _ _ _ hPool => exact absurd hNone hPool

theorem RemoveExit.unarmed
    [MemoryControl κ]
    [Regset κ]
    {id : Int}
    {success : Bool}
    (hUnarmed : Unarmed m)
    (hExit : RemoveExit id m k success m' k') :
    Unarmed m' := by
  rcases hUnarmed with ⟨hUnprobed, hNoFree, hSoftware⟩
  cases hExit with
  | absent => exact ⟨hUnprobed, hNoFree, hSoftware⟩
  | writeFailed => exact ⟨hUnprobed, hNoFree, hSoftware⟩
  | restored => exact ⟨hUnprobed, hNoFree, hSoftware.erase _ _⟩
  | released hLookup hType =>
      exact absurd (hSoftware _ _ hLookup) hType
  | dropped hLookup hType =>
      exact absurd (hSoftware _ _ hLookup) hType

theorem ToggleExit.unarmed
    [MemoryControl κ]
    [Regset κ]
    {on : Bool}
    {id : Int}
    {success : Bool}
    (hUnarmed : Unarmed m)
    (hExit : ToggleExit on id m k success m' k') :
    Unarmed m' := by
  have hFlag {bp : Breakpoint}
      (hLookup : m.breakpoints.lookup id = some bp) :
      Unarmed (m.setEnabled id bp on) :=
    ⟨hUnarmed.unprobed, hUnarmed.noFree,
      hUnarmed.software.setEnabled hLookup⟩
  cases hExit with
  | absent => exact hUnarmed
  | already => exact hUnarmed
  | writeFailed => exact hUnarmed
  | patched hLookup => exact hFlag hLookup
  | getFailed => exact hUnarmed
  | setFailed => exact hUnarmed
  | switched hLookup => exact hFlag hLookup
  | flagged hLookup => exact hFlag hLookup

/- What the debugger calls arms no register. -/
theorem Unarmed.step
    [MemoryControl κ]
    [Regset κ]
    [HashOrder κ DBRegister]
    {op : Op}
    (hUnarmed : Unarmed m)
    (hTables : Consistent m)
    (hCalled : op.Called)
    (k : κ) :
    Unarmed (exec op ⟨m, k⟩).object := by
  cases op with
  | getHardwareRegistersCount => exact hCalled.elim
  | initHardwareRegister => exact hCalled.elim
  | setSoftwareBreakpoint tid address =>
      exact (setSoftwareBreakpoint_exit hTables.fresh tid
        address k).unarmed hUnarmed
  | setHardwareBreakpoint tid address type =>
      exact ((setHardwareBreakpoint_exit hTables.fresh tid
        address type k).unarmed hUnarmed).1
  | removeBreakpoint id =>
      exact (removeBreakpoint_exit id m k).unarmed hUnarmed
  | enable id => exact (enable_exit id m k).unarmed hUnarmed
  | disable id => exact (disable_exit id m k).unarmed hUnarmed
  | getBreakpoints => exact hUnarmed
  | getBreakpointsOf tid => exact hUnarmed
  | getBreakpoint id => exact hUnarmed
  | getBreakpointAt address => exact hUnarmed

end Steps

end BreakpointManager

end AnDbg

------------------------------------------------------------
-- Operations On The Manager
------------------------------------------------------------

namespace AnDbg

namespace DebuggerCore

open BreakpointManager Interleaving

section

variable (κ : Type)
variable [MemoryControl κ] [Regset κ] [HashOrder κ DBRegister]

/- An operation that is called, in whatever world it finds. -/
inductive ManagerStep :
    BreakpointManager → BreakpointManager → Prop
  | op
      (m : BreakpointManager)
      (op : BreakpointManager.Op)
      (k : κ)
      (hCalled : op.Called) :
      ManagerStep m (BreakpointManager.exec op ⟨m, k⟩).object

end

variable {κ : Type}
variable [Kernel κ] [MemoryControl κ] [Regset κ]
variable [HashOrder κ DBRegister]
variable {c : DebuggerCore}

omit [Kernel κ] in
/- An operation that keeps the manager is none of its own. -/
theorem managed_of_kept
    {m m' : BreakpointManager}
    (hKept : m' = m) :
    Reaches (ManagerStep κ) m m' := by
  rw [hKept]

omit [Kernel κ] in
theorem managed_setBreakpoint
    (type : BreakpointType)
    (address : Addr)
    (c : DebuggerCore)
    (k : κ) :
    Reaches (ManagerStep κ) c.breakpointManager
      (c.setBreakpoint type address
        k).object.breakpointManager := by
  unfold setBreakpoint
  split
  next =>
    exact .single
      (.op _ (.setSoftwareBreakpoint c.currentTid address) k
        trivial)
  next =>
    split
    next hType =>
      refine .single
        (.op _ (.setHardwareBreakpoint c.currentTid address
          type) k ?_)
      exact decide_eq_true hType
    next => exact .refl

theorem managed_stepOver
    (c : DebuggerCore)
    (k : κ) :
    Reaches (ManagerStep κ) c.breakpointManager
      (c.stepOver k).object.breakpointManager := by
  have hSetStep
      {tid : Pid}
      {address : Addr}
      {result : Except StdException Int}
      {m m' : BreakpointManager}
      {k k' : κ}
      (hSet :
        m.setSoftwareBreakpoint tid address k =
          ⟨result, m', k'⟩) :
      ManagerStep κ m m' := by
    have hObject :
        (m.setSoftwareBreakpoint tid address k).object = m' :=
      congrArg Outcome.object hSet
    rw [← hObject]
    exact .op m (.setSoftwareBreakpoint tid address) k trivial
  have hExit := stepOver_exit c k
  generalize c.stepOver k = done at hExit ⊢
  rcases done with ⟨result, c', k'⟩
  cases hExit with
  | noPc => exact .refl
  | unreadable => exact .refl
  | threw _ _ hSet => exact .single (hSetStep hSet)
  | notSet _ _ hSet => exact .single (hSetStep hSet)
  | ran _ _ hSet hId =>
      refine .tail (.single (hSetStep hSet)) ?_
      rw [runToBreakpoint_object]
      exact .op _ (.removeBreakpoint _) _ trivial

/- The debugger refines its manager. -/
theorem refines_manager
    (dump : Json → StdString) :
    Refines (fun s s' => ∃ op, s' = step dump op s)
      (ManagerStep κ)
      (fun (s : Session κ) m => s.core.breakpointManager = m) := by
  rintro s m s' rfl ⟨op, rfl⟩
  refine ⟨_, ?_, rfl⟩
  cases op with
  | attach pid =>
      exact managed_of_kept
        (breakpointManager_attach pid s.core s.world)
  | switchThread tid =>
      exact managed_of_kept
        (breakpointManager_switchThread tid s.core s.world)
  | setBreakpoint type address =>
      exact managed_setBreakpoint type address s.core s.world
  | removeBreakpoint id =>
      exact .single (.op _ (.removeBreakpoint id) s.world trivial)
  | enableBreakpoint id =>
      exact .single (.op _ (.enable id) s.world trivial)
  | disableBreakpoint id =>
      exact .single (.op _ (.disable id) s.world trivial)
  | getBreakpointAt address =>
      apply managed_of_kept
      change (exec dump (.getBreakpointAt address)
        s).object.breakpointManager = _
      unfold exec
      dsimp only
      split <;> rfl
  | stepInto =>
      exact managed_of_kept (congrArg breakpointManager
        (object_stepInto s.core s.world))
  | softwareStepInto =>
      exact managed_of_kept (congrArg breakpointManager
        (object_softwareStepInto s.core s.world))
  | stepOver => exact managed_stepOver s.core s.world
  | detach =>
      exact managed_of_kept (congrArg breakpointManager
        (object_detach s.core s.world))
  | kill =>
      exact managed_of_kept
        (breakpointManager_kill s.core s.world)
  | getBreakpoint id => exact .refl
  | getBreakpoints => exact .refl
  | getBreakpointsOf tid => exact .refl
  | readRegisters jsonData => exact .refl
  | writeRegisters jsonData => exact .refl
  | readMemory address buffer => exact .refl
  | writeMemory address buffer => exact .refl
  | resumeThread tid => exact .refl
  | resume => exact .refl
  | pauseThread tid => exact .refl
  | pause => exact .refl
  | hardwareStepInto => exact .refl

end DebuggerCore

end AnDbg

------------------------------------------------------------
-- Managers That Are Reached
------------------------------------------------------------

namespace AnDbg

namespace DebuggerCore

open BreakpointManager Interleaving

variable {κ : Type}
variable [Kernel κ] [MemoryControl κ] [Regset κ]
variable [HashOrder κ DBRegister]
variable {dump : Json → StdString} {c : DebuggerCore}

/- The manager of a reachable debugger is reachable. -/
theorem Reachable.managed
    (hReachable : Reachable κ dump c) :
    Reaches (ManagerStep κ) BreakpointManager.init
      c.breakpointManager := by
  induction hReachable with
  | init => exact .refl
  | step _ op k ih =>
      rcases refines_manager dump ⟨_, k⟩ _ _ rfl ⟨op, rfl⟩ with
        ⟨m, hSteps, hThere⟩
      rw [← hThere] at hSteps
      exact ih.trans hSteps

/- No hardware breakpoint is ever live. -/
theorem Reachable.unarmed
    (hReachable : Reachable κ dump c) :
    Unarmed c.breakpointManager := by
  have hStep (m m' : BreakpointManager)
      (hHere : Consistent m ∧ Unarmed m)
      (hStep : ManagerStep κ m m') :
      Consistent m' ∧ Unarmed m' := by
    cases hStep with
    | op op k hCalled =>
        exact ⟨step_consistent ⟨m, k⟩ op hHere.1,
          hHere.2.step hHere.1 hCalled k⟩
  exact (hReachable.managed.invariant hStep
    ⟨consistent_init, unarmed_init⟩).2

omit [Kernel κ] in
/- Hardware breakpoints cannot be set. -/
theorem setBreakpoint_refused
    (hTables : Consistent c.breakpointManager)
    (hUnarmed : Unarmed c.breakpointManager)
    {type : BreakpointType}
    (hType : type ≠ .software)
    {address : Addr}
    {k : κ}
    {status : Status}
    {id : Int}
    (hSet :
      (c.setBreakpoint type address k).result =
        .ok (status, id)) :
    status.isFail = true := by
  unfold setBreakpoint at hSet
  rw [if_neg hType] at hSet
  split at hSet
  next =>
    have hExit :=
      setHardwareBreakpoint_exit hTables.fresh c.currentTid
        address type k
    rcases hExit.unarmed hUnarmed with ⟨-, hNone⟩
    dsimp only [withManager] at hSet
    generalize (c.breakpointManager.setHardwareBreakpoint
      c.currentTid address type k).result = result
      at hSet hNone
    cases result with
    | error e => cases hSet
    | ok found =>
        rw [hNone found rfl] at hSet
        cases hSet
        rfl
  next => cases hSet; rfl

end DebuggerCore

end AnDbg
