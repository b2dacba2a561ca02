import AnDbg.Core.BreakpointManager.WrittenImage
import AnDbg.Core.DebuggerCore.Session
import AnDbg.Core.DebuggerCore.Stepping

/-
  What stepping over leaves of the breakpoints.

  The temporary breakpoint goes through the ordinary
  settings and removals.  It is entered under a fresh id and
  taken out again, so the tables are afterwards what they
  were; but it is refused where a breakpoint of the user is
  already, so that consecutive breakpoints stop the command
  from working.

  Main declarations:
    * `AnDbg.DebuggerCore.consistent_run`
    * `AnDbg.BreakpointManager.SameBreakpoints` and
      `sameBreakpoints_enter_erase`
    * `AnDbg.DebuggerCore.stepOver_leaves_no_trace`
    * `AnDbg.DebuggerCore.stepsOverFreely_iff`
-/

------------------------------------------------------------
-- A Breakpoint Entered And Erased
------------------------------------------------------------

namespace AnDbg

namespace BreakpointManager

open UnorderedMap

/- The breakpoints, their index, the pools and the counts. -/
structure SameBreakpoints (m m' : BreakpointManager) : Prop where
  breakpoints : m'.breakpoints = m.breakpoints
  tidBreakpointsMap :
    m'.tidBreakpointsMap = m.tidBreakpointsMap
  freeHardwareRegisters :
    m'.freeHardwareRegisters = m.freeHardwareRegisters
  hardwareRegistersCount :
    m'.hardwareRegistersCount = m.hardwareRegistersCount

theorem SameBreakpoints.refl
    (m : BreakpointManager) :
    SameBreakpoints m m :=
  ⟨rfl, rfl, rfl, rfl⟩

variable {m : BreakpointManager} {bp : Breakpoint}

/- A thread without breakpoints has no entry in the index. -/
theorem Consistent.lookup_index
    (hTables : Consistent m)
    (tid : Pid) :
    m.tidBreakpointsMap.lookup tid =
      if index tid m.tidBreakpointsMap = ∅ then none
      else some (index tid m.tidBreakpointsMap) := by
  cases hIds : m.tidBreakpointsMap.lookup tid with
  | none =>
      have hAbsent : tid ∉ m.tidBreakpointsMap :=
        Finmap.lookup_eq_none.mp hIds
      exact (if_pos (index_of_notMem hAbsent)).symm
  | some ids =>
      have hNonempty := hTables.inhabited tid ids hIds
      rw [index_eq_of_lookup hIds,
        if_neg hNonempty.ne_empty]

/- An id that is not live is in no thread's entry. -/
theorem Consistent.notMem_index
    (hTables : Consistent m)
    {id : Int}
    (hAbsent : id ∉ m.breakpoints)
    (tid : Pid) :
    id ∉ index tid m.tidBreakpointsMap := by
  rw [hTables.indexed]
  intro hIndexed
  rcases hIndexed with ⟨bp, hLookup, -⟩
  exact hAbsent (Finmap.mem_of_lookup_eq_some hLookup)

/- Erasing a breakpoint that was just entered. -/
theorem sameBreakpoints_enter_erase
    (hTables : Consistent m)
    (hId : bp.id = m.nextBreakpointId)
    (hEntered : Consistent (m.enter bp)) :
    SameBreakpoints m
      ((m.enter bp).eraseBreakpoint bp.id bp) := by
  have hAbsent : bp.id ∉ m.breakpoints :=
    hId ▸ hTables.fresh
  have hLookup :
      (m.enter bp).breakpoints.lookup bp.id = some bp := by
    rw [lookup_enter, if_pos rfl]
  constructor
  case breakpoints =>
    apply Finmap.ext_lookup
    intro id
    rw [lookup_eraseBreakpoint, lookup_enter]
    by_cases hSame : id = bp.id
    · rw [if_pos hSame, hSame]
      exact (Finmap.lookup_eq_none.mpr hAbsent).symm
    · rw [if_neg hSame, if_neg hSame]
  case tidBreakpointsMap =>
    have hIndex (tid : Pid) :
        index tid ((m.enter bp).eraseBreakpoint bp.id
            bp).tidBreakpointsMap =
          index tid m.tidBreakpointsMap := by
      have hInsert (tid' : Pid) :
          index tid' (m.enter bp).tidBreakpointsMap =
            if tid' = bp.tid then
              insert bp.id (index bp.tid m.tidBreakpointsMap)
            else index tid' m.tidBreakpointsMap :=
        index_update m.tidBreakpointsMap bp.tid _ tid'
      rw [index_eraseBreakpoint, hInsert, hInsert,
        if_pos rfl]
      split
      next hTid =>
        rw [Finset.erase_insert
          (hTables.notMem_index hAbsent bp.tid), hTid]
      next => rfl
    apply Finmap.ext_lookup
    intro tid
    rw [(hEntered.erase hLookup).lookup_index,
      hTables.lookup_index, hIndex]
  case freeHardwareRegisters => rfl
  case hardwareRegistersCount => rfl

end BreakpointManager

end AnDbg

------------------------------------------------------------
-- Reachable Managers
------------------------------------------------------------

namespace AnDbg

namespace DebuggerCore

open BreakpointManager Run

variable {κ : Type}
variable [Kernel κ]

/- The commands on the session leave the breakpoints alone. -/
theorem breakpointManager_attach
    (pid : Pid)
    (c : DebuggerCore)
    (k : κ) :
    (c.attach pid k).object.breakpointManager =
      c.breakpointManager := by
  unfold attach
  dsimp only
  split
  · rfl
  · split
    · rfl
    · split
      · rfl
      · rfl

omit [Kernel κ] in
theorem breakpointManager_switchThread
    (tid : Pid)
    (c : DebuggerCore)
    (k : κ) :
    (c.switchThread tid k).object.breakpointManager =
      c.breakpointManager := by
  unfold switchThread
  split
  · rfl
  · rfl

theorem breakpointManager_kill
    (c : DebuggerCore)
    (k : κ) :
    (c.kill k).object.breakpointManager =
      c.breakpointManager := by
  by_cases hKill : 0 ≤ c.pid ∧ KillDelivered c k
  · rw [(kill_of_delivered hKill.1 hKill.2).2]
  · rw [(kill_of_not_delivered hKill).2]

variable [MemoryControl κ] [Regset κ]
variable {c : DebuggerCore}

omit [Kernel κ] [MemoryControl κ] [Regset κ] in
theorem consistent_of_kept
    {c' : DebuggerCore}
    (hKept : c'.breakpointManager = c.breakpointManager)
    (hTables : Consistent c.breakpointManager) :
    Consistent c'.breakpointManager :=
  hKept ▸ hTables

omit [Kernel κ] in
theorem consistent_removeBreakpoint
    (hTables : Consistent c.breakpointManager)
    (id : Int)
    (k : κ) :
    Consistent
      (c.removeBreakpoint id k).object.breakpointManager :=
  (removeBreakpoint_exit id c.breakpointManager
    k).tables.consistent hTables

omit [Kernel κ] [Regset κ] in
theorem consistent_setSoftwareBreakpoint
    {m m' : BreakpointManager}
    {tid : Pid}
    {address : Addr}
    {result : Except StdException Int}
    {k k' : κ}
    (hTables : Consistent m)
    (hSet :
      m.setSoftwareBreakpoint tid address k =
        ⟨result, m', k'⟩) :
    Consistent m' := by
  have hExit :=
    setSoftwareBreakpoint_exit hTables.fresh tid address k
  rw [hSet] at hExit
  exact (hExit.tables hTables).consistent hTables

theorem consistent_stepOver
    (hTables : Consistent c.breakpointManager)
    (k : κ) :
    Consistent (c.stepOver k).object.breakpointManager := by
  have hExit := stepOver_exit c k
  generalize c.stepOver k = done at hExit ⊢
  rcases done with ⟨result, c', k'⟩
  cases hExit with
  | noPc => exact hTables
  | unreadable => exact hTables
  | threw _ _ hSet =>
      exact consistent_setSoftwareBreakpoint hTables hSet
  | notSet _ _ hSet =>
      exact consistent_setSoftwareBreakpoint hTables hSet
  | ran _ _ hSet hId =>
      refine consistent_of_kept (congrArg breakpointManager
        (runToBreakpoint_object _ _ _)) ?_
      exact consistent_removeBreakpoint
        (consistent_setSoftwareBreakpoint hTables hSet) _ _

theorem object_softwareStepInto
    (c : DebuggerCore)
    (k : κ) :
    (c.softwareStepInto k).object = c := by
  unfold softwareStepInto singleStepImpl
  rcases RegisterControl.getGpr c.currentTid .pc k with
    ⟨_ | pc, k₁⟩
  · rfl
  · rfl

theorem object_stepInto
    (c : DebuggerCore)
    (k : κ) :
    (c.stepInto k).object = c := by
  unfold stepInto
  dsimp only
  split
  · rfl
  · have hSame :=
      object_softwareStepInto c (c.hardwareStepInto k).2
    split
    next => exact hSame
    next =>
      split
      next => exact hSame
      next => exact hSame

omit [Kernel κ] in
theorem consistent_setBreakpoint
    [HashOrder κ DBRegister]
    (hTables : Consistent c.breakpointManager)
    (type : BreakpointType)
    (address : Addr)
    (k : κ) :
    Consistent
      (c.setBreakpoint type address
        k).object.breakpointManager := by
  unfold setBreakpoint
  split
  · exact consistent_setSoftwareBreakpoint hTables rfl
  · split
    · exact ((setHardwareBreakpoint_exit hTables.fresh
        c.currentTid address type k).tables
          hTables).consistent hTables
    · exact hTables

variable [HashOrder κ DBRegister]

/- Every command of the debugger keeps the tables consistent. -/
theorem consistent_step
    (dump : Json → StdString)
    (s : Session κ)
    (op : Op)
    (hTables : Consistent s.core.breakpointManager) :
    Consistent (step dump op s).core.breakpointManager := by
  cases op with
  | attach pid =>
      exact consistent_of_kept
        (breakpointManager_attach pid s.core s.world) hTables
  | switchThread tid =>
      exact consistent_of_kept
        (breakpointManager_switchThread tid s.core s.world)
        hTables
  | setBreakpoint type address =>
      exact consistent_setBreakpoint hTables type address
        s.world
  | removeBreakpoint id =>
      exact consistent_removeBreakpoint hTables id s.world
  | enableBreakpoint id =>
      exact (enable_exit id s.core.breakpointManager
        s.world).tables.consistent hTables
  | disableBreakpoint id =>
      exact (disable_exit id s.core.breakpointManager
        s.world).tables.consistent hTables
  | getBreakpointAt address =>
      change Consistent (exec dump (.getBreakpointAt address)
        s).object.breakpointManager
      unfold exec
      dsimp only
      split
      · exact hTables
      · exact hTables
  | stepInto =>
      exact consistent_of_kept (congrArg breakpointManager
        (object_stepInto s.core s.world)) hTables
  | softwareStepInto =>
      exact consistent_of_kept (congrArg breakpointManager
        (object_softwareStepInto s.core s.world)) hTables
  | stepOver => exact consistent_stepOver hTables s.world
  | detach =>
      exact consistent_of_kept (congrArg breakpointManager
        (object_detach s.core s.world)) hTables
  | kill =>
      exact consistent_of_kept
        (breakpointManager_kill s.core s.world) hTables
  | getBreakpoint id => exact hTables
  | getBreakpoints => exact hTables
  | getBreakpointsOf tid => exact hTables
  | readRegisters jsonData => exact hTables
  | writeRegisters jsonData => exact hTables
  | readMemory address buffer => exact hTables
  | writeMemory address buffer => exact hTables
  | resumeThread tid => exact hTables
  | resume => exact hTables
  | pauseThread tid => exact hTables
  | pause => exact hTables
  | hardwareStepInto => exact hTables

/- So they are in every reachable state. -/
theorem consistent_run
    (dump : Json → StdString)
    (ops : List Op)
    (k : κ) :
    Consistent (run (step dump) ops
      (Session.start k)).core.breakpointManager := by
  have hStep (s : Session κ) (op : Op) :
      Consistent s.core.breakpointManager →
        Consistent (step dump op s).core.breakpointManager :=
    consistent_step dump s op
  exact run_invariant hStep ops consistent_init

end DebuggerCore

end AnDbg

------------------------------------------------------------
-- The Temporary Breakpoint
------------------------------------------------------------

namespace AnDbg

namespace BreakpointManager

open MemoryControl LittleEndian

variable {κ : Type}
variable [MemoryControl κ]
variable {m m' : BreakpointManager}
variable {tid : Pid} {address : Addr} {id : Int}
variable {k k' : κ}

/- What a software breakpoint that got an id has gone through. -/
structure SetAt
    (tid : Pid)
    (address : Addr)
    (m : BreakpointManager)
    (k : κ)
    (original : Word)
    (k' : κ) : Prop where
  aligned : address &&& 0x3 = 0
  unique : m.checkDuplicateBreakpoint address = false
  tidPos : 1 ≤ tid
  patched :
    ∃ buffer k₁,
      readMemory tid address (encode 4 (0 : Word)) k =
          (true, buffer, k₁) ∧
        original = decode 32 buffer ∧
        writeMemory tid address (encode 4 Breakpoint.BRK_OPCODE)
            k₁ = (true, k')

theorem setAt_of_id
    (hTables : Consistent m)
    (hSet :
      m.setSoftwareBreakpoint tid address k = ⟨.ok id, m', k'⟩)
    (hId : id ≠ -1) :
    ∃ original,
      SetAt tid address m k original k' ∧
        id = m.nextBreakpointId ∧
        m' = m.enter
          (softwareBreakpoint m.nextBreakpointId tid address
            original) := by
  have hExit :=
    setSoftwareBreakpoint_exit hTables.fresh tid address k
  rw [hSet] at hExit
  cases hExit with
  | duplicate => exact absurd rfl hId
  | readFailed => exact absurd rfl hId
  | writeFailed => exact absurd rfl hId
  | created hAligned hUnique hTid hRead hWrite =>
      exact ⟨_, ⟨hAligned, hUnique, hTid, _, _, hRead, rfl,
        hWrite⟩, rfl, rfl⟩

variable {original : Word}

theorem SetAt.consistent_enter
    (hSet : SetAt tid address m k original k')
    (hTables : Consistent m) :
    Consistent
      (m.enter
        (softwareBreakpoint m.nextBreakpointId tid address
          original)) :=
  hTables.enter rfl hSet.tidPos hSet.aligned hSet.unique

/- What is patched is the word that was saved. -/
theorem SetAt.word_eq
    [Regset κ]
    {memory : κ → Memory}
    (hLaws : MemoryLaws memory)
    (hSet : SetAt tid address m k original k') :
    original = word (memory k) address := by
  rcases hSet.patched with ⟨buffer, k₁, hRead, rfl, -⟩
  have hBytes :=
    (hLaws.read_true (aligned_iff.mp hSet.aligned)
      (length_encode 4 _) hRead).2
  rw [hBytes]
  rfl

/- Removing a software breakpoint whose word can be put back. -/
theorem removeBreakpoint_of_write
    [Regset κ]
    {bp : Breakpoint}
    (hLookup : m.breakpoints.lookup id = some bp)
    (hType : bp.type = .software)
    (hWrite :
      (writeMemory bp.tid bp.address
        (encode 4 bp.originalInstruction) k).1 = true) :
    (m.removeBreakpoint id k).result.isSuccess = true ∧
      (m.removeBreakpoint id k).object =
        m.eraseBreakpoint id bp ∧
      (m.removeBreakpoint id k).world =
        (writeMemory bp.tid bp.address
          (encode 4 bp.originalInstruction) k).2 := by
  unfold removeBreakpoint
  rw [hLookup]
  dsimp only
  rw [if_pos hType]
  generalize writeMemory bp.tid bp.address
    (encode 4 bp.originalInstruction) k = answer
    at hWrite ⊢
  rcases answer with ⟨done, k₁⟩
  cases hWrite
  exact ⟨rfl, rfl, rfl⟩

end BreakpointManager

end AnDbg

------------------------------------------------------------
-- No Trace Is Left
------------------------------------------------------------

namespace AnDbg

namespace DebuggerCore

open BreakpointManager RegisterControl Run
open ByteMemory LittleEndian

variable {κ : Type}
variable [Kernel κ] [MemoryControl κ] [Regset κ]
variable {c : DebuggerCore}

/- A step over comes to run the thread to its breakpoint. -/
structure RunsTo
    (c : DebuggerCore)
    (k : κ)
    (pc : BitVec 64)
    (id : Int)
    (m : BreakpointManager)
    (k' : κ) : Prop where
  set :
    ∃ buffer k₁ k₂,
      getGpr c.currentTid .pc k = (some pc, k₁) ∧
        MemoryControl.readMemory c.pid (pc + 4)
            (encode 4 (0 : Word)) k₁ = (true, buffer, k₂) ∧
        c.breakpointManager.setSoftwareBreakpoint c.currentTid
            (pc + 4) k₂ = ⟨.ok id, m, k'⟩
  given : id ≠ -1

/-
  The write by which the removal of the temporary breakpoint
  puts the instruction back, after the wait, succeeds.
-/
def RemovalWrites (c : DebuggerCore) (k : κ) : Prop :=
  ∀ pc id m k', RunsTo c k pc id m k' →
    ∀ bp, m.breakpoints.lookup id = some bp →
      (MemoryControl.writeMemory bp.tid bp.address
        (encode 4 bp.originalInstruction)
        (resumeAndWait { c with breakpointManager := m }
          k').2).1 = true

omit [Kernel κ] in
/- The state in which the thread runs to its breakpoint. -/
theorem RunsTo.entered
    {k k' : κ}
    {pc : BitVec 64}
    {id : Int}
    {m : BreakpointManager}
    (hTables : Consistent c.breakpointManager)
    (hRuns : RunsTo c k pc id m k') :
    ∃ original k₁ k₂ buffer,
      getGpr c.currentTid .pc k = (some pc, k₁) ∧
        MemoryControl.readMemory c.pid (pc + 4)
            (encode 4 (0 : Word)) k₁ = (true, buffer, k₂) ∧
        SetAt c.currentTid (pc + 4) c.breakpointManager k₂
          original k' ∧
        id = c.breakpointManager.nextBreakpointId ∧
        m = c.breakpointManager.enter
          (softwareBreakpoint
            c.breakpointManager.nextBreakpointId c.currentTid
            (pc + 4) original) := by
  rcases hRuns.set with ⟨buffer, k₁, k₂, hPc, hRead, hSet⟩
  rcases setAt_of_id hTables hSet hRuns.given with
    ⟨original, hSetAt, hId, hManager⟩
  exact ⟨original, k₁, k₂, buffer, hPc, hRead, hSetAt, hId,
    hManager⟩

variable {memory : κ → Memory}

/- The memory after a run to the breakpoint and its removal. -/
theorem RunsTo.restored
    {k k' : κ}
    {pc : BitVec 64}
    {id : Int}
    {m : BreakpointManager}
    (hLaws : MemoryLaws memory)
    (hReads : ReadsKeepMemory memory)
    (hTables : Consistent c.breakpointManager)
    (hWrites : RemovalWrites c k)
    (hRuns : RunsTo c k pc id m k') :
    let done :=
      runToBreakpoint id { c with breakpointManager := m } k'
    SameBreakpoints c.breakpointManager
        done.object.breakpointManager ∧
      word (memory done.world) (pc + 4) =
        word (memory k) (pc + 4) := by
  intro done
  rcases hRuns.entered hTables with
    ⟨original, k₁, k₂, buffer, hPc, hRead, hSet, rfl, rfl⟩
  have hOriginal :
      original = word (memory k) (pc + 4) := by
    rw [hSet.word_eq hLaws, hReads.readMemory hRead,
      hLaws.getGpr hPc]
  have hLookup :
      (c.breakpointManager.enter
        (softwareBreakpoint c.breakpointManager.nextBreakpointId
          c.currentTid (pc + 4) original)).breakpoints.lookup
        c.breakpointManager.nextBreakpointId = some _ :=
    (lookup_enter _ _).trans (if_pos rfl)
  have hWrite := hWrites _ _ _ _ hRuns _ hLookup
  rcases removeBreakpoint_of_write hLookup rfl hWrite with
    ⟨-, hObject, hWorld⟩
  constructor
  · have hManager :
        done.object.breakpointManager = _ :=
      runToBreakpoint_manager _ _ k'
    rw [hManager, hObject]
    exact sameBreakpoints_enter_erase hTables rfl
      (hSet.consistent_enter hTables)
  · have hAligned : Aligned 4 (pc + 4) :=
      aligned_iff.mp hSet.aligned
    have hMemory :=
      (hLaws.write_true hAligned (length_encode 4 _)
        (Prod.ext hWrite rfl)).2
    have hEnd : done.world = _ := runToBreakpoint_world _ _ k'
    rw [hEnd]
    have hWord := congrArg (fun m => word m (pc + 4)) hMemory
    refine (congrArg (fun k => word (memory k) (pc + 4))
      hWorld).trans (hWord.trans ?_)
    exact (word_write_self _ _ _).trans hOriginal

end DebuggerCore

end AnDbg

------------------------------------------------------------
-- Stepping Over Among Breakpoints
------------------------------------------------------------

namespace AnDbg

namespace DebuggerCore

open BreakpointManager RegisterControl Run Recorded
open LittleEndian

variable {κ : Type}
variable [Kernel κ] [MemoryControl κ] [Regset κ]
variable {c : DebuggerCore} {pc : BitVec 64}

/-
  A step over succeeds, and every breakpoint that was live
  is so afterwards, the same in all that it says.
-/
structure StepsOverFreely (c : DebuggerCore) (k : κ) : Prop where
  succeeds : Succeeded (c.stepOver k)
  keeps :
    ∀ id bp,
      c.breakpointManager.breakpoints.lookup id = some bp →
      (c.stepOver k).object.breakpointManager.breakpoints.lookup
        id = some bp

/-
  In a step over all calls go through, and the wait finds
  the thread stopped.
-/
def StepsSmoothly (c : DebuggerCore) (k : κ) : Prop :=
  (c.stepOver (start k)).world.AllSucceed ∧
    ∀ wait ∈ (c.stepOver (start k)).world.waits,
      IsStopOf c.currentTid wait

instance (c : DebuggerCore) (k : κ) :
    Decidable (StepsSmoothly c k) :=
  inferInstanceAs (Decidable (_ ∧ _))

/- No live breakpoint is at the address. -/
def Unoccupied
    (address : Addr)
    (m : BreakpointManager) : Prop :=
  ∀ id bp, m.breakpoints.lookup id = some bp →
    bp.address ≠ address

/- A step over succeeds only where the next word is free. -/
theorem unoccupied_of_succeeded
    {k : κ}
    (hTables : Consistent c.breakpointManager)
    (hPc : (getGpr c.currentTid .pc k).1 = some pc)
    (hSuccess : Succeeded (c.stepOver k)) :
    Unoccupied (pc + 4) c.breakpointManager := by
  have hExit := stepOver_exit c k
  rcases hSuccess with ⟨status, hResult, hSuccess⟩
  generalize c.stepOver k = done at hExit hResult
  rcases done with ⟨result, c', k'⟩
  cases hResult
  cases hExit with
  | noPc => cases hSuccess
  | unreadable => cases hSuccess
  | notSet => cases hSuccess
  | ran hGet hRead hSet hId =>
      rw [hGet] at hPc
      cases hPc
      rcases setAt_of_id hTables hSet hId with
        ⟨original, hSetAt, -⟩
      exact checkDuplicateBreakpoint_eq_false_iff.mp
        hSetAt.unique

omit [Kernel κ] [Regset κ] in
/- Where the next word is free, the setting gives an id. -/
theorem id_of_unoccupied
    {k k' : κ}
    {m : BreakpointManager}
    {result : Except StdException Int}
    (hTables : Consistent c.breakpointManager)
    (hTid : 1 ≤ c.currentTid)
    (hAligned : (pc + 4) &&& 0x3 = 0)
    (hFree : Unoccupied (pc + 4) c.breakpointManager)
    (hRead :
      ∀ buffer bytes k₁,
        MemoryControl.readMemory c.currentTid (pc + 4) buffer
          k₁ ≠ (false, bytes, k'))
    (hWrite :
      ∀ buffer k₁,
        MemoryControl.writeMemory c.currentTid (pc + 4) buffer
          k₁ ≠ (false, k'))
    (hSet :
      c.breakpointManager.setSoftwareBreakpoint c.currentTid
        (pc + 4) k = ⟨result, m, k'⟩) :
    ∃ id, result = .ok id ∧ id ≠ -1 := by
  have hExit := setSoftwareBreakpoint_exit hTables.fresh
    c.currentTid (pc + 4) k
  rw [hSet] at hExit
  cases hExit with
  | misaligned hNot => exact absurd hAligned hNot
  | duplicate hTaken =>
      rw [checkDuplicateBreakpoint_eq_false_iff.mpr hFree]
        at hTaken
      cases hTaken
  | readFailed _ hFailed => exact absurd hFailed (hRead _ _ _)
  | writeFailed _ _ hFailed => exact absurd hFailed (hWrite _ _)
  | refused _ hLt => exact absurd hLt (Int.not_lt.mpr hTid)
  | created =>
      have hPos := hTables.nextPos
      exact ⟨_, rfl, by omega⟩

omit [Kernel κ] [Regset κ] in
/- So it does if all calls go through. -/
theorem id_of_allSucceed
    {k k' : Recorded κ}
    {m : BreakpointManager}
    {result : Except StdException Int}
    (hTables : Consistent c.breakpointManager)
    (hTid : 1 ≤ c.currentTid)
    (hAligned : (pc + 4) &&& 0x3 = 0)
    (hFree : Unoccupied (pc + 4) c.breakpointManager)
    (hAll : k'.AllSucceed)
    (hSet :
      c.breakpointManager.setSoftwareBreakpoint c.currentTid
        (pc + 4) k = ⟨result, m, k'⟩) :
    ∃ id, result = .ok id ∧ id ≠ -1 := by
  apply id_of_unoccupied hTables hTid hAligned hFree _ _ hSet
  · intro buffer bytes k₁ hFailed
    cases (succeeded_of_readMemory hFailed hAll).2
  · intro buffer k₁ hFailed
    cases (succeeded_of_writeMemory hFailed hAll).2

omit [Kernel κ] in
/- The clean removal of a software breakpoint puts it back. -/
theorem removed_of_allSucceed
    {m : BreakpointManager}
    {id : Int}
    {bp : Breakpoint}
    {k : Recorded κ}
    (hLookup : m.breakpoints.lookup id = some bp)
    (hType : bp.type = .software)
    (hAll : (m.removeBreakpoint id k).world.AllSucceed) :
    (m.removeBreakpoint id k).result.isSuccess = true ∧
      (m.removeBreakpoint id k).object =
        m.eraseBreakpoint id bp := by
  have hExit := removeBreakpoint_exit id m k
  generalize m.removeBreakpoint id k = done at hExit hAll ⊢
  rcases done with ⟨status, m', k'⟩
  dsimp only at hExit hAll ⊢
  generalize status.isSuccess = success at hExit ⊢
  cases hExit with
  | absent hNone =>
      rw [hLookup] at hNone
      cases hNone
  | writeFailed _ _ hWrite =>
      cases (succeeded_of_writeMemory hWrite hAll).2
  | restored hFound =>
      rw [hLookup] at hFound
      cases hFound
      exact ⟨rfl, rfl⟩
  | released hFound hNot =>
      rw [hLookup] at hFound
      cases hFound
      exact absurd hType hNot
  | dropped hFound hNot =>
      rw [hLookup] at hFound
      cases hFound
      exact absurd hType hNot

/- If it is free, and all goes well, the step succeeds. -/
theorem stepsOver_of_unoccupied
    {k : Recorded κ}
    (hTables : Consistent c.breakpointManager)
    (hTid : 1 ≤ c.currentTid)
    (hAligned : (pc + 4) &&& 0x3 = 0)
    (hPc : (getGpr c.currentTid .pc k).1 = some pc)
    (hAll : (c.stepOver k).world.AllSucceed)
    (hStops :
      ∀ wait ∈ (c.stepOver k).world.waits,
        IsStopOf c.currentTid wait)
    (hFree : Unoccupied (pc + 4) c.breakpointManager) :
    Succeeded (c.stepOver k) ∧
      SameBreakpoints c.breakpointManager
        (c.stepOver k).object.breakpointManager := by
  have hExit := stepOver_exit c k
  unfold Succeeded
  generalize c.stepOver k = done at hExit hAll hStops ⊢
  rcases done with ⟨result, c', k'⟩
  cases hExit with
  | noPc hGet =>
      rw [hGet] at hPc
      cases hPc
  | unreadable _ hRead =>
      cases (succeeded_of_readMemory hRead hAll).2
  | threw hGet _ hSet =>
      rw [hGet] at hPc
      cases hPc
      rcases id_of_allSucceed hTables hTid hAligned hFree hAll
        hSet with ⟨id, hOk, -⟩
      cases hOk
  | notSet hGet _ hSet =>
      rw [hGet] at hPc
      cases hPc
      rcases id_of_allSucceed hTables hTid hAligned hFree hAll
        hSet with ⟨id, hOk, hId⟩
      cases hOk
      exact absurd rfl hId
  | ran hGet _ hSet hId =>
      rw [hGet] at hPc
      cases hPc
      rcases setAt_of_id hTables hSet hId with
        ⟨original, hSetAt, rfl, rfl⟩
      have hLookup :
          (c.breakpointManager.enter
            (softwareBreakpoint
              c.breakpointManager.nextBreakpointId c.currentTid
              (pc + 4) original)).breakpoints.lookup
            c.breakpointManager.nextBreakpointId = some _ :=
        (lookup_enter _ _).trans (if_pos rfl)
      rw [runToBreakpoint_world] at hAll
      rcases removed_of_allSucceed hLookup rfl hAll with
        ⟨hRemoved, hObject⟩
      constructor
      · refine ⟨_, rfl, ?_⟩
        rw [runToBreakpoint_isSuccess_iff]
        refine ⟨hRemoved, hStops _ ?_⟩
        rw [waits_runToBreakpoint]
        exact List.mem_append_right _ (List.mem_singleton_self _)
      · rw [runToBreakpoint_manager, hObject]
        exact sameBreakpoints_enter_erase hTables rfl
          (hSetAt.consistent_enter hTables)

/-
  In every reachable state, for a thread that is stopped at
  an aligned address, and if all calls go through and the
  thread stops: a step over succeeds and keeps the user's
  breakpoints exactly if none of them is at the next word.
-/
theorem stepsOverFreely_iff
    [HashOrder κ DBRegister]
    (dump : Json → StdString)
    (ops : List Op)
    (k : κ)
    (pc : BitVec 64) :
    let s := run (step dump) ops (Session.start k)
    1 ≤ s.core.currentTid →
    pc &&& 0x3 = 0 →
    (getGpr s.core.currentTid .pc s.world).1 = some pc →
    StepsSmoothly s.core s.world →
    (StepsOverFreely s.core s.world ↔
      Unoccupied (pc + 4) s.core.breakpointManager) := by
  intro s hTid hAligned hPc hSmooth
  have hTables : Consistent s.core.breakpointManager :=
    consistent_run dump ops k
  constructor
  · intro hFreely
    exact unoccupied_of_succeeded hTables hPc hFreely.succeeds
  · intro hFree
    have hNext : (pc + 4) &&& 0x3 = 0 := by
      rw [aligned_iff] at hAligned ⊢
      exact ByteMemory.Aligned.add hAligned (by decide)
        (by decide)
    have hStart :
        (getGpr s.core.currentTid .pc (start s.world)).1 =
          some pc := by
      rw [← hPc]
      exact congrArg Prod.fst
        (mapsRegset.getGpr _ .pc (start s.world)).symm
    rcases stepsOver_of_unoccupied hTables hTid hNext hStart
      hSmooth.1 hSmooth.2 hFree with
      ⟨⟨status, hResult, hSuccess⟩, hKept⟩
    have hSame := stepOver_map mapsKernel mapsMemory mapsRegset
      s.core (start s.world)
    constructor
    case succeeds =>
      refine ⟨status, ?_, hSuccess⟩
      rw [← hResult]
      exact congrArg Outcome.result hSame.symm
    case keeps =>
      intro id bp hLookup
      have hObject := congrArg Outcome.object hSame
      rw [← hLookup, ← hKept.breakpoints]
      exact congrArg
        (fun c : DebuggerCore =>
          c.breakpointManager.breakpoints.lookup id)
        hObject.symm

/- A step over from address 0, with a breakpoint elsewhere. -/
theorem stepsOverFreely_iff_attached :
    let ops : List Op :=
      [.attach 7, .setBreakpoint .software 0x1000]
    let s := run (step fun _ => []) ops
      (Session.start (SteppedTarget.waiting [] (7, 0x137f)))
    StepsOverFreely s.core s.world ↔
      Unoccupied 4 s.core.breakpointManager := by
  apply stepsOverFreely_iff (fun _ => [])
    [.attach 7, .setBreakpoint .software 0x1000]
    (SteppedTarget.waiting [] (7, 0x137f)) 0
  · decide
  · rfl
  · rfl
  · decide

/-
  The user has a breakpoint on the next instruction too: all
  calls go through, but no temporary one can be set there.
-/
theorem not_stepsOverFreely_next :
    let ops : List Op :=
      [.attach 7, .setBreakpoint .software 0x4]
    let s := run (step fun _ => []) ops
      (Session.start (SteppedTarget.waiting [] (7, 0x137f)))
    StepsSmoothly s.core s.world ∧
      ¬ StepsOverFreely s.core s.world := by
  constructor
  · decide
  · intro hFreely
    rcases hFreely.succeeds with ⟨status, hResult, hSuccess⟩
    cases hResult
    cases hSuccess

end DebuggerCore

end AnDbg
