import AnDbg.Core.BreakpointManager.Image
import AnDbg.Core.BreakpointManager.Mirror
import AnDbg.Core.BreakpointManager.SoundPools

/-
  What an operation of the breakpoint manager leaves behind
  when it fails.

  The setting, removing and switching of breakpoints undo
  what they have begun or begin nothing before the last call
  that may fail.  Two exits do not: a probe that fails stays
  recorded as done, and a setting whose type is refused
  keeps the register that it took.

  Main declarations:
    * `AnDbg.BreakpointManager.Unchanged`
    * `AnDbg.BreakpointManager.ProbeAnswered`
    * `AnDbg.BreakpointManager.FailsCleanly`
    * `AnDbg.BreakpointManager.failed_unchanged_iff`
-/

------------------------------------------------------------
-- Failures
------------------------------------------------------------

namespace AnDbg

namespace BreakpointManager

variable {κ : Type}

/- The answer `-1`, an exception, or a status that fails. -/
def Answer.isFailure : Answer → Bool
| .id (.ok breakpointId) => breakpointId = -1
| .id (.error _) => true
| .status s => s.isFail
| _ => false

/- The operations that change breakpoints, for a thread. -/
def Op.IsChange : Op → Prop
| .initHardwareRegister tid => 1 ≤ tid
| .setSoftwareBreakpoint tid _ => 1 ≤ tid
| .setHardwareBreakpoint tid _ _ => 1 ≤ tid
| .removeBreakpoint _ => True
| .enable _ => True
| .disable _ => True
| _ => False

/- All that the manager keeps and all that it acts on. -/
structure Unchanged
    (memory : κ → Memory)
    (debug : κ → Pid → UserHwdebugState)
    (s s' : Session κ) : Prop where
  breakpoints : s'.manager.breakpoints = s.manager.breakpoints
  tidBreakpointsMap :
    s'.manager.tidBreakpointsMap = s.manager.tidBreakpointsMap
  addressBreakpointMap :
    s'.manager.addressBreakpointMap =
      s.manager.addressBreakpointMap
  free :
    ∀ tid, s'.manager.free tid = s.manager.free tid
  hardwareRegistersCount :
    s'.manager.hardwareRegistersCount =
      s.manager.hardwareRegistersCount
  memory : memory s'.world = memory s.world
  debug : debug s'.world = debug s.world

variable {memory : κ → Memory}
variable {debug : κ → Pid → UserHwdebugState}
variable {m : BreakpointManager} {k k' : κ}

/- Only the world has moved, and nothing can be seen of it. -/
theorem Unchanged.of_world
    (hMemory : memory k' = memory k)
    (hDebug : debug k' = debug k) :
    Unchanged memory debug ⟨m, k⟩ ⟨m, k'⟩ where
  breakpoints := rfl
  tidBreakpointsMap := rfl
  addressBreakpointMap := rfl
  free _ := rfl
  hardwareRegistersCount := rfl
  memory := hMemory
  debug := hDebug

end BreakpointManager

end AnDbg

------------------------------------------------------------
-- The Probe
------------------------------------------------------------

namespace AnDbg

namespace BreakpointManager

open RegisterControl

variable {κ : Type}
variable [Regset κ]
variable {m m' : BreakpointManager}
variable {tid : Pid} {k k' : κ}

/- The four register calls of a probe go through. -/
def ProbeAnswered
    (tid : Pid)
    (k : κ) : Prop :=
  ∃ originDbg verifyDbg k₁ k₂ k₃ k₄,
    getAllDbg tid k = (some originDbg, k₁) ∧
      setAllDbg tid (testDbg originDbg) k₁ = (true, k₂) ∧
      getAllDbg tid k₂ = (some verifyDbg, k₃) ∧
      setAllDbg tid originDbg k₃ = (true, k₄)

theorem InitExit.answered
    (hExit : InitExit tid m k true m' k') :
    tid ∈ m.hardwareRegistersCount ∨ ProbeAnswered tid k := by
  cases hExit with
  | already hProbed => exact .inl hProbed
  | probed _ hOrigin hTest hVerify hRestore =>
      exact .inr ⟨_, _, _, _, _, _, hOrigin, hTest, hVerify,
        hRestore⟩

/- A probe succeeds if it was made before or is answered. -/
theorem initHardwareRegister_isSuccess_iff
    (tid : Pid)
    (m : BreakpointManager)
    (k : κ) :
    (m.initHardwareRegister tid k).result.isSuccess = true ↔
      tid ∈ m.hardwareRegistersCount ∨ ProbeAnswered tid k := by
  constructor
  · intro hSuccess
    have hExit := initHardwareRegister_exit tid m k
    rw [hSuccess] at hExit
    exact hExit.answered
  · unfold initHardwareRegister
    rintro (hProbed | ⟨origin, verify, k₁, k₂, k₃, k₄, hOrigin,
      hTest, hVerify, hRestore⟩)
    · rw [if_pos hProbed]
      rfl
    · split
      next => rfl
      next =>
        simp only [hOrigin, hTest, hVerify, hRestore]
        rfl

/- A probe that fails leaves its mark. -/
theorem InitExit.count_ne
    (hExit : InitExit tid m k false m' k') :
    m'.hardwareRegistersCount ≠ m.hardwareRegistersCount := by
  cases hExit with
  | failed count hUnprobed =>
      intro hSame
      apply hUnprobed
      rw [← hSame]
      exact Finmap.mem_insert.mpr (.inl rfl)

end BreakpointManager

end AnDbg

------------------------------------------------------------
-- Exits That Fail
------------------------------------------------------------

namespace AnDbg

namespace BreakpointManager

open LittleEndian

variable {κ : Type}
variable [MemoryControl κ] [Regset κ]
variable {memory : κ → Memory}
variable {debug : κ → Pid → UserHwdebugState}
variable {m m' : BreakpointManager} {k k' : κ}
variable {tid : Pid} {address : Addr} {id : Int}

/- An id that is given out is no failure. -/
theorem isFailure_next
    (hTables : Consistent m) :
    (Answer.id (.ok m.nextBreakpointId)).isFailure = false := by
  have hPos := hTables.nextPos
  have hNe : m.nextBreakpointId ≠ -1 := by omega
  exact decide_eq_false hNe

theorem SetSoftwareExit.unchanged
    {result : Except StdException Int}
    (hMemory : MemoryLaws memory)
    (hRegisters : RegisterLaws debug)
    (hTables : Consistent m)
    (hTid : 1 ≤ tid)
    (hExit : SetSoftwareExit tid address m k result m' k')
    (hFails : (Answer.id result).isFailure = true) :
    Unchanged memory debug ⟨m, k⟩ ⟨m', k'⟩ := by
  cases hExit with
  | misaligned => exact .of_world rfl rfl
  | duplicate => exact .of_world rfl rfl
  | readFailed hAligned hRead =>
      exact .of_world
        (hMemory.read_memory (aligned_iff.mp hAligned)
          (length_encode 4 _) hRead)
        (hRegisters.readMemory hRead)
  | writeFailed hAligned hRead hWrite =>
      have hSame := hMemory.read_memory
        (aligned_iff.mp hAligned) (length_encode 4 _) hRead
      have hKept := hMemory.write_false
        (aligned_iff.mp hAligned) (length_encode 4 _) hWrite
      exact .of_world (hKept.trans hSame)
        ((hRegisters.writeMemory hWrite).trans
          (hRegisters.readMemory hRead))
  | refused _ hLt => exact absurd hLt (Int.not_lt.mpr hTid)
  | created =>
      rw [isFailure_next hTables] at hFails
      cases hFails

/-
  A hardware setting that fails changes something only if a
  register was free and the type is refused.
-/
theorem SetHardwareExit.unchanged
    {type : BreakpointType}
    {result : Except StdException Int}
    (hMemory : MemoryLaws memory)
    (hRegisters : RegisterLaws debug)
    (hTables : Consistent m)
    (hProbed : ProbedIfFree m)
    (hTid : 1 ≤ tid)
    (hType : m.free tid ≠ ∅ → controlOf type ≠ none)
    (hExit :
      SetHardwareExit tid address type m k result m' k')
    (hFails : (Answer.id result).isFailure = true) :
    Unchanged memory debug ⟨m, k⟩ ⟨m', k'⟩ := by
  have hCounted (hPool : m.free tid ≠ ∅) :
      tid ∈ m.hardwareRegistersCount := by
    by_contra hNot
    exact hPool (hProbed tid hNot)
  cases hExit with
  | misaligned => exact .of_world rfl rfl
  | duplicate => exact .of_world rfl rfl
  | noFree =>
      exact {
        breakpoints := rfl
        tidBreakpointsMap := rfl
        addressBreakpointMap := rfl
        free := free_touchFree tid
        hardwareRegistersCount := rfl
        memory := rfl
        debug := rfl }
  | initFailed hPool hInit =>
      rcases hInit.already_of_free (hCounted hPool) with
        ⟨-, -, hSuccess⟩
      cases hSuccess
  | wrongType hPool _ _ hNone =>
      exact absurd hNone (hType hPool)
  | setFailed hPool hInit hFree _ hSet =>
      rcases hInit.already_of_free (hCounted hPool) with
        ⟨rfl, rfl, -⟩
      exact {
        breakpoints := rfl
        tidBreakpointsMap := rfl
        addressBreakpointMap := rfl
        free := fun tid' =>
          (free_give_take hFree tid').trans
            (free_touchFree tid tid')
        hardwareRegistersCount := rfl
        memory :=
          (RegisterCalls.of_setDbg hSet).memory_eq hMemory
        debug := debug_setDbg_failed hRegisters hSet }
  | refused _ hLt => exact absurd hLt (Int.not_lt.mpr hTid)
  | created =>
      rw [isFailure_next hTables] at hFails
      cases hFails

/- One whose type is refused has lost a register. -/
omit [MemoryControl κ] in
theorem SetHardwareExit.changed
    {type : BreakpointType}
    {result : Except StdException Int}
    (hProbed : ProbedIfFree m)
    (hAligned : address &&& 0x3 = 0)
    (hUnique : m.checkDuplicateBreakpoint address = false)
    (hPool : m.free tid ≠ ∅)
    (hType : controlOf type = none)
    (hExit :
      SetHardwareExit tid address type m k result m' k') :
    (Answer.id result).isFailure = true ∧
      ¬ Unchanged memory debug ⟨m, k⟩ ⟨m', k'⟩ := by
  have hCounted : tid ∈ m.hardwareRegistersCount := by
    by_contra hNot
    exact hPool (hProbed tid hNot)
  have hRefused {control : BitVec 64}
      (hSome : controlOf type = some control) : False := by
    rw [hType] at hSome
    cases hSome
  cases hExit with
  | misaligned hMisaligned => exact absurd hAligned hMisaligned
  | duplicate hDuplicate =>
      rw [hUnique] at hDuplicate
      cases hDuplicate
  | noFree hEmpty => exact absurd hEmpty hPool
  | initFailed _ hInit =>
      rcases hInit.already_of_free hCounted with
        ⟨-, -, hSuccess⟩
      cases hSuccess
  | @wrongType reg _ _ _ hInit hFree =>
      rcases hInit.already_of_free hCounted with ⟨rfl, rfl, -⟩
      refine ⟨rfl, fun hSame => ?_⟩
      have hKept :
          ((m.touchFree tid).takeRegister tid reg).free tid =
            m.free tid :=
        hSame.free tid
      rw [free_takeRegister, if_pos rfl] at hKept
      rw [free_touchFree] at hKept hFree
      rw [← hKept] at hFree
      exact Finset.notMem_erase reg _ hFree
  | setFailed _ _ _ hSome => exact (hRefused hSome).elim
  | refused _ _ _ _ _ hSome => exact (hRefused hSome).elim
  | created _ _ _ _ _ _ hSome => exact (hRefused hSome).elim

/- Behind a guard that fails nothing is done. -/
omit [MemoryControl κ] in
theorem setHardwareBreakpoint_of_guard
    [HashOrder κ DBRegister]
    (tid : Pid)
    (type : BreakpointType)
    (k : κ)
    (hGuard :
      ¬ (address &&& 0x3 = 0 ∧
        m.checkDuplicateBreakpoint address = false)) :
    (m.setHardwareBreakpoint tid address type k).object = m ∧
      (m.setHardwareBreakpoint tid address type k).world =
        k := by
  unfold setHardwareBreakpoint
  by_cases hAligned : address &&& 0x3 = 0
  · have hDuplicate :
        m.checkDuplicateBreakpoint address = true := by
      rw [← Bool.not_eq_false]
      exact fun hUnique => hGuard ⟨hAligned, hUnique⟩
    rw [if_neg (not_not.mpr hAligned), if_pos hDuplicate]
    exact ⟨rfl, rfl⟩
  · rw [if_pos hAligned]
    exact ⟨rfl, rfl⟩

/- The write to the word of a live breakpoint fails. -/
theorem Unchanged.of_write_false
    {bp : Breakpoint}
    {w : Word}
    (hMemory : MemoryLaws memory)
    (hRegisters : RegisterLaws debug)
    (hEntry : Entry m.nextBreakpointId id bp)
    (hWrite :
      MemoryControl.writeMemory bp.tid bp.address (encode 4 w)
        k = (false, k')) :
    Unchanged memory debug ⟨m, k⟩ ⟨m, k'⟩ :=
  .of_world
    (hMemory.write_false (aligned_iff.mp hEntry.aligned)
      (length_encode 4 w) hWrite)
    (hRegisters.writeMemory hWrite)

theorem RemoveExit.unchanged
    (hMemory : MemoryLaws memory)
    (hRegisters : RegisterLaws debug)
    (hTables : Consistent m)
    (hExit : RemoveExit id m k false m' k') :
    Unchanged memory debug ⟨m, k⟩ ⟨m', k'⟩ := by
  cases hExit with
  | absent => exact .of_world rfl rfl
  | writeFailed hLookup _ hWrite =>
      exact .of_write_false hMemory hRegisters
        (hTables.entry _ _ hLookup) hWrite

theorem ToggleExit.unchanged
    {on : Bool}
    (hMemory : MemoryLaws memory)
    (hRegisters : RegisterLaws debug)
    (hTables : Consistent m)
    (hExit : ToggleExit on id m k false m' k') :
    Unchanged memory debug ⟨m, k⟩ ⟨m', k'⟩ := by
  cases hExit with
  | absent => exact .of_world rfl rfl
  | writeFailed hLookup _ hWrite =>
      exact .of_write_false hMemory hRegisters
        (hTables.entry _ _ hLookup) hWrite
  | getFailed _ _ hGet =>
      exact .of_world
        ((RegisterCalls.of_getDbg hGet).memory_eq hMemory)
        (debug_getDbg hRegisters hGet)
  | setFailed _ _ hGet hSet =>
      exact .of_world
        (((RegisterCalls.of_setDbg hSet).memory_eq
          hMemory).trans
            ((RegisterCalls.of_getDbg hGet).memory_eq hMemory))
        ((debug_setDbg_failed hRegisters hSet).trans
          (debug_getDbg hRegisters hGet))

end BreakpointManager

end AnDbg

------------------------------------------------------------
-- Operations That Fail
------------------------------------------------------------

namespace AnDbg

namespace BreakpointManager

open Run

variable {κ : Type}
variable [MemoryControl κ] [Regset κ]
variable [HashOrder κ DBRegister]
variable {memory : κ → Memory}
variable {debug : κ → Pid → UserHwdebugState}

/-
  The operation is no probe that goes unanswered, and takes
  no register for a type that is refused.
-/
def FailsCleanly
    (op : Op)
    (s : Session κ) : Prop :=
  match op with
  | .initHardwareRegister tid =>
      tid ∈ s.manager.hardwareRegistersCount ∨
        ProbeAnswered tid s.world
  | .setHardwareBreakpoint tid address type =>
      address &&& 0x3 = 0 →
        s.manager.checkDuplicateBreakpoint address = false →
        s.manager.free tid ≠ ∅ →
        controlOf type ≠ none
  | _ => True

theorem failed_unchanged_of_clean
    (hMemory : MemoryLaws memory)
    (hRegisters : RegisterLaws debug)
    (op : Op)
    {s : Session κ}
    (hSound : Sound s)
    (hChange : op.IsChange)
    (hClean : FailsCleanly op s)
    (hFails : (exec op s).result.isFailure = true) :
    Unchanged memory debug s (step op s) := by
  rcases hSound with ⟨hTables, hPools⟩
  have hStatus (status : Status)
      (hFail : (Answer.status status).isFailure = true) :
      status.isSuccess = false := by
    rw [Answer.isFailure, Status.isFail_eq_not_isSuccess]
      at hFail
    exact Bool.not_eq_true' _ ▸ hFail
  cases op with
  | initHardwareRegister tid =>
      have hFailed := hStatus _ hFails
      have hDone :=
        (initHardwareRegister_isSuccess_iff tid s.manager
          s.world).mpr hClean
      rw [hDone] at hFailed
      cases hFailed
  | setSoftwareBreakpoint tid address =>
      exact (setSoftwareBreakpoint_exit hTables.fresh tid
        address s.world).unchanged hMemory hRegisters hTables
          hChange hFails
  | setHardwareBreakpoint tid address type =>
      have hExit := setHardwareBreakpoint_exit hTables.fresh
        tid address type s.world
      by_cases hGuards :
          address &&& 0x3 = 0 ∧
            s.manager.checkDuplicateBreakpoint address = false
      · exact hExit.unchanged hMemory hRegisters hTables
          hPools.probedIfFree hChange
          (hClean hGuards.1 hGuards.2) hFails
      · rcases setHardwareBreakpoint_of_guard tid type s.world
          hGuards with ⟨hObject, hWorld⟩
        have hSame : step (.setHardwareBreakpoint tid address
            type) s = s := by
          change Session.mk _ _ = s
          rw [exec, hObject, hWorld]
        rw [hSame]
        exact .of_world rfl rfl
  | removeBreakpoint id =>
      have hExit := removeBreakpoint_exit id s.manager s.world
      rw [hStatus _ hFails] at hExit
      exact hExit.unchanged hMemory hRegisters hTables
  | enable id =>
      have hExit := enable_exit id s.manager s.world
      rw [hStatus _ hFails] at hExit
      exact hExit.unchanged hMemory hRegisters hTables
  | disable id =>
      have hExit := disable_exit id s.manager s.world
      rw [hStatus _ hFails] at hExit
      exact hExit.unchanged hMemory hRegisters hTables
  | _ => exact hChange.elim

/-
  In every reachable state, an operation that fails leaves
  everything as it was exactly if it is no probe that goes
  unanswered and takes no register for a refused type.
-/
theorem failed_unchanged_iff
    (hMemory : MemoryLaws memory)
    (hRegisters : RegisterLaws debug)
    (ops : List Op)
    (k : κ)
    (op : Op)
    (hChange : op.IsChange) :
    let s := run step ops (Session.start k)
    ((exec op s).result.isFailure = true →
        Unchanged memory debug s (step op s)) ↔
      FailsCleanly op s := by
  intro s
  have hSound : Sound s := sound_run ops k
  constructor
  · intro hKept
    cases op with
    | initHardwareRegister tid =>
        apply (initHardwareRegister_isSuccess_iff tid s.manager
          s.world).mp
        by_contra hFailed
        rw [Bool.not_eq_true] at hFailed
        have hSame := hKept (by
          change Status.isFail _ = true
          rw [Status.isFail_eq_not_isSuccess, hFailed]
          rfl)
        have hExit :=
          initHardwareRegister_exit tid s.manager s.world
        rw [hFailed] at hExit
        exact hExit.count_ne hSame.hardwareRegistersCount
    | setHardwareBreakpoint tid address type =>
        intro hAligned hUnique hPool hType
        rcases (setHardwareBreakpoint_exit hSound.tables.fresh
          tid address type s.world).changed
            hSound.pools.probedIfFree hAligned hUnique hPool
            hType with ⟨hFails, hChanged⟩
        exact hChanged (hKept hFails)
    | _ => trivial
  · intro hClean hFails
    exact failed_unchanged_of_clean hMemory hRegisters op
      hSound hChange hClean hFails

/- The write of a setting fails after its read. -/
theorem failed_unchanged_iff_write :
    let s : Session SimulatedTarget :=
      Session.start (SimulatedTarget.fresh [true, false])
    Unchanged SimulatedTarget.memory
      SimulatedTarget.debugRegisters s
      (step (.setSoftwareBreakpoint 7 0x1000) s) :=
  (failed_unchanged_iff SimulatedTarget.memoryLaws
    SimulatedTarget.registerLaws []
    (SimulatedTarget.fresh [true, false])
    (.setSoftwareBreakpoint 7 0x1000)
    (by decide : (1 : Int) ≤ 7)).mpr trivial (by decide +kernel)

/-
  The first call of a probe fails, and the thread is on
  record as one that has no registers.
-/
theorem not_unchanged_probe :
    let s : Session SimulatedTarget :=
      Session.start (SimulatedTarget.fresh [false])
    (exec (.initHardwareRegister 7) s).result.isFailure = true ∧
      ¬ Unchanged SimulatedTarget.memory
        SimulatedTarget.debugRegisters s
        (step (.initHardwareRegister 7) s) := by
  intro s
  refine ⟨by decide +kernel, fun hSame => ?_⟩
  have hCount :
      (step (.initHardwareRegister 7)
          s).manager.hardwareRegistersCount.lookup 7 =
        some 0 := by
    decide +kernel
  rw [hSame.hardwareRegistersCount] at hCount
  cases hCount

end BreakpointManager

end AnDbg
