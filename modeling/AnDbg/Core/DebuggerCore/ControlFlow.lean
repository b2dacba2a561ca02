import AnDbg.Core.TrappedThread
import AnDbg.Core.DebuggerCore.StepOver
import AnDbg.Core.DebuggerCore.Transparency

/-
  Where stepping over goes, against where the program goes.

  The trap of a step lies behind the current instruction,
  whatever the instruction is.  An instruction is complete
  when the program is back on its level of calls; the thread
  is stopped there exactly if that is at the trap, and if it
  has not come through the trap on a deeper level before.

  Main declarations:
    * `AnDbg.DebuggerCore.SteppingLaws`
    * `AnDbg.DebuggerCore.FollowsFlow`
    * `AnDbg.DebuggerCore.LandsNext`
    * `AnDbg.DebuggerCore.followsFlow_iff`
    * `AnDbg.WaitedThread`
-/

------------------------------------------------------------
-- A World In Which The Thread Is Stepped
------------------------------------------------------------

namespace AnDbg

namespace DebuggerCore

open Kernel RegisterControl BreakpointManager
open ByteMemory LittleEndian

/-
  A world in which one thread is debugged and all calls go
  through: memory is that of the thread, its pc can be read,
  PTRACE_CONT makes it go on, and a wait returns once it has
  stopped.  About a wait for a thread that never stops
  nothing is said.
-/
structure SteppingLaws
    {κ δ : Type}
    [Kernel κ]
    [MemoryControl κ]
    [Regset κ]
    (execute : Execute δ)
    (tid : Pid)
    (thread : κ → Thread δ) : Prop where
  read :
    ∀ {pid address buffer done bytes k k'},
      1 ≤ pid →
      MemoryControl.readMemory pid address buffer k =
          (done, bytes, k') →
      done = true ∧
        bytes =
          ByteMemory.read (thread k).memory address
            buffer.length ∧
        thread k' = thread k
  write :
    ∀ {pid address buffer done k k'},
      1 ≤ pid →
      MemoryControl.writeMemory pid address buffer k =
          (done, k') →
      done = true ∧
        thread k' =
          (thread k).withMemory
            (ByteMemory.write (thread k).memory address buffer)
  registers :
    ∀ {found k k'},
      getAllGpr tid k = (found, k') →
      ∃ regs, found = some regs ∧
        regs.pc = (thread k).pc ∧ thread k' = thread k
  cont :
    ∀ {done k k'},
      (thread k).stopped = true →
      ptrace .cont tid k = (done, k') →
      done = true ∧ thread k' = (thread k).continued
  wait :
    ∀ {wait k k' n},
      waitpid tid k = (wait, k') →
      ((Thread.tick execute)^[n] (thread k)).stopped = true →
      IsStopOf tid wait ∧
        thread k' = (Thread.tick execute)^[n] (thread k)

/- The debugger is attached, and to its current thread too. -/
structure Attached (c : DebuggerCore) : Prop where
  pidPos : 1 ≤ c.pid
  tidPos : 1 ≤ c.currentTid
  traced : c.currentTid ∈ c.tids

variable {κ δ : Type}
variable [Kernel κ] [MemoryControl κ] [Regset κ]
variable {execute : Execute δ} {thread : κ → Thread δ}
variable {c : DebuggerCore} {k : κ}

theorem SteppingLaws.getGpr
    {tid : Pid}
    {found : Option (BitVec 64)}
    {k' : κ}
    (hLaws : SteppingLaws execute tid thread)
    (hGet : getGpr tid .pc k = (found, k')) :
    found = some ((thread k).pc : Addr) ∧
      thread k' = thread k := by
  rcases getGpr_cases hGet with ⟨all, hAll, hFound⟩
  rcases hLaws.registers hAll with ⟨regs, rfl, hPc, hSame⟩
  rw [hFound]
  exact ⟨congrArg some hPc, hSame⟩

/- The address behind the current instruction. -/
def nextPc (t : Thread δ) : Addr :=
  (t.pc : Addr) + 4

theorem aligned_nextPc
    (t : Thread δ) :
    Aligned 4 (nextPc t) :=
  Aligned.add (aligned_iff.mp t.pc.2) (by decide) (by decide)

/- The thread with the temporary breakpoint in its code. -/
theorem RunsTo.trapped
    {pc : BitVec 64}
    {id : Int}
    {m : BreakpointManager}
    {k' : κ}
    (hLaws : SteppingLaws execute c.currentTid thread)
    (hAttached : Attached c)
    (hTables : Consistent c.breakpointManager)
    (hRuns : RunsTo c k pc id m k') :
    pc = (thread k).pc ∧
      thread k' = (thread k).trapped (nextPc (thread k)) ∧
      m.breakpoints.lookup id =
        some (softwareBreakpoint id c.currentTid
          (nextPc (thread k))
          (word (thread k).memory (nextPc (thread k)))) := by
  rcases hRuns.entered hTables with
    ⟨original, k₁, k₂, buffer, hGet, hRead, hSet, rfl, rfl⟩
  rcases hSet.patched with
    ⟨bytes, k₃, hReadWord, rfl, hWrite⟩
  rcases hLaws.getGpr hGet with ⟨hPc, hThread₁⟩
  cases hPc
  have hThread₂ := (hLaws.read hAttached.pidPos hRead).2.2
  rcases hLaws.read hAttached.tidPos hReadWord with
    ⟨-, hBytes, hThread₃⟩
  have hThread := (hLaws.write hAttached.tidPos hWrite).2
  rw [hThread₂, hThread₁] at hThread₃ hBytes
  rw [hThread₃] at hThread
  refine ⟨rfl, hThread, ?_⟩
  refine (lookup_enter _ _).trans ((if_pos rfl).trans ?_)
  rw [hBytes, length_encode]
  rfl

/- With no breakpoint in the way, the step comes to run. -/
theorem exists_runsTo
    (hLaws : SteppingLaws execute c.currentTid thread)
    (hAttached : Attached c)
    (hTables : Consistent c.breakpointManager)
    (hNone : ∀ id, c.breakpointManager.breakpoints.lookup id =
      none) :
    ∃ id m k',
      RunsTo c k (thread k).pc id m k' ∧
        c.stepOver k =
          ⟨.ok (runToBreakpoint id
              { c with breakpointManager := m } k').result,
            (runToBreakpoint id
              { c with breakpointManager := m } k').object,
            (runToBreakpoint id
              { c with breakpointManager := m } k').world⟩ := by
  have hFree :
      Unoccupied (nextPc (thread k)) c.breakpointManager := by
    intro id bp hLookup
    rw [hNone] at hLookup
    cases hLookup
  have hExit := stepOver_exit c k
  generalize c.stepOver k = done at hExit
  rcases done with ⟨result, c', k'⟩
  dsimp only at hExit
  have hSetting :
      ∀ {pc k₁ k₂ k₃ m buffer result},
        getGpr c.currentTid .pc k = (some pc, k₁) →
        MemoryControl.readMemory c.pid (pc + 4)
            (encode 4 (0 : Word)) k₁ = (true, buffer, k₂) →
        c.breakpointManager.setSoftwareBreakpoint c.currentTid
            (pc + 4) k₂ = ⟨result, m, k₃⟩ →
        ∃ id, result = .ok id ∧ id ≠ -1 := by
    intro pc k₁ k₂ k₃ m buffer result hGet hRead hSet
    rcases hLaws.getGpr hGet with ⟨hPc, -⟩
    cases hPc
    apply id_of_unoccupied hTables hAttached.tidPos
      (aligned_iff.mpr (aligned_nextPc (thread k))) hFree _ _
      hSet
    · intro buffer bytes k₁ hFailed
      cases (hLaws.read hAttached.tidPos hFailed).1
    · intro buffer k₁ hFailed
      cases (hLaws.write hAttached.tidPos hFailed).1
  cases hExit with
  | noPc hGet => cases (hLaws.getGpr hGet).1
  | unreadable _ hRead =>
      cases (hLaws.read hAttached.pidPos hRead).1
  | threw hGet hRead hSet =>
      rcases hSetting hGet hRead hSet with ⟨id, hOk, -⟩
      cases hOk
  | notSet hGet hRead hSet =>
      rcases hSetting hGet hRead hSet with ⟨id, hOk, hId⟩
      cases hOk
      exact absurd rfl hId
  | ran hGet hRead hSet hId =>
      rcases hLaws.getGpr hGet with ⟨hPc, -⟩
      cases hPc
      exact ⟨_, _, _,
        ⟨⟨_, _, _, hGet, hRead, hSet⟩, hId⟩, rfl⟩

omit [MemoryControl κ] [Regset κ] in
/- A wait that reports a stop is passed on as it is. -/
theorem waitThread_of_stop
    {tid : Pid}
    (hTid : 1 ≤ tid)
    (hStop : IsStopOf tid (waitpid tid k).1) :
    waitThread tid k = waitpid tid k := by
  unfold waitThread
  generalize waitpid tid k = answer at hStop ⊢
  rcases answer with ⟨⟨wpid, status⟩, k'⟩
  rcases hStop with ⟨hWpid, -⟩
  have hSame : wpid = tid := hWpid
  have hPos : ¬ wpid < 0 := by
    rw [hSame]
    exact Int.not_lt.mpr (Int.le_of_lt hTid)
  dsimp only
  rw [if_neg hPos]

/- The thread after the wait of the step. -/
theorem resumeAndWait_of_stop
    {n : Nat}
    (hLaws : SteppingLaws execute c.currentTid thread)
    (hAttached : Attached c)
    (hHeld : (thread k).stopped = true)
    (hStop :
      (Thread.after execute (thread k) n).stopped = true) :
    IsStopOf c.currentTid (c.resumeAndWait k).1 ∧
      thread (c.resumeAndWait k).2 =
        Thread.after execute (thread k) n := by
  unfold resumeAndWait resumeThread
  rw [if_neg (not_not.mpr hAttached.traced)]
  rcases hCont : ptrace .cont c.currentTid k with ⟨ok, k₁⟩
  rcases hLaws.cont hHeld hCont with ⟨rfl, hThread⟩
  have hTicked :
      (Thread.tick execute)^[n] (thread k₁) =
        Thread.after execute (thread k) n :=
    congrArg (Thread.tick execute)^[n] hThread
  rcases hWait : waitpid c.currentTid k₁ with ⟨wait, k₂⟩
  rcases hLaws.wait hWait
      ((congrArg Thread.stopped hTicked).trans hStop) with
    ⟨hIs, hThread₂⟩
  dsimp only
  rw [waitThread_of_stop hAttached.tidPos (by rwa [hWait]),
    hWait]
  exact ⟨hIs, hThread₂.trans hTicked⟩

/- A thread that stops at the trap is left without it. -/
theorem thread_runToBreakpoint
    {pc : BitVec 64}
    {id : Int}
    {m : BreakpointManager}
    {k' : κ}
    {n : Nat}
    (hLaws : SteppingLaws execute c.currentTid thread)
    (hAttached : Attached c)
    (hTables : Consistent c.breakpointManager)
    (hStopped : (thread k).stopped = true)
    (hRuns : RunsTo c k pc id m k')
    (hStop :
      (Thread.after execute (thread k') n).stopped = true) :
    let done :=
      runToBreakpoint id { c with breakpointManager := m } k'
    done.result.isSuccess = true ∧
      thread done.world =
        (Thread.after execute (thread k') n).withMemory
          (thread k).memory := by
  intro done
  rcases hRuns.trapped hLaws hAttached hTables with
    ⟨-, hTrapped, hLookup⟩
  have hHeld : (thread k').stopped = true := by
    rw [hTrapped]
    exact hStopped
  have hResumed :
      Attached { c with breakpointManager := m } :=
    ⟨hAttached.pidPos, hAttached.tidPos, hAttached.traced⟩
  rcases resumeAndWait_of_stop
      (c := { c with breakpointManager := m }) hLaws hResumed
      hHeld hStop with
    ⟨hIs, hThread⟩
  rcases hWrite :
    MemoryControl.writeMemory c.currentTid
      (nextPc (thread k))
      (encode 4 (word (thread k).memory (nextPc (thread k))))
      (resumeAndWait { c with breakpointManager := m } k').2
    with ⟨ok, k₃⟩
  rcases hLaws.write hAttached.tidPos hWrite with
    ⟨rfl, hRestored⟩
  rcases removeBreakpoint_of_write hLookup rfl
      (congrArg Prod.fst hWrite) with
    ⟨hRemoved, -, hWorld⟩
  constructor
  · exact (runToBreakpoint_isSuccess_iff _ _ _).mpr
      ⟨hRemoved, hIs⟩
  · have hEnd : done.world = k₃ :=
      (runToBreakpoint_world _ _ _).trans
        (hWorld.trans (congrArg Prod.snd hWrite))
    have hCode :
        ByteMemory.write
            (Thread.after execute (thread k') n).memory
            (nextPc (thread k))
            (encode 4
              (word (thread k).memory (nextPc (thread k)))) =
          (thread k).memory := by
      rw [Thread.memory_after, hTrapped]
      exact write_write_word _ _ _
    rw [hEnd, hRestored, hThread, hCode]

end DebuggerCore

end AnDbg

------------------------------------------------------------
-- Following The Flow
------------------------------------------------------------

namespace AnDbg

namespace DebuggerCore

open BreakpointManager Run
open Thread (after Completes trapped)

variable {κ δ : Type}
variable [Kernel κ] [MemoryControl κ] [Regset κ]
variable {execute : Execute δ}
variable {depth : CodeAddr → δ → Int}
variable {thread : κ → Thread δ}
variable {c : DebuggerCore} {k : κ}

/-
  A thread is stopped at an address, with the pc, the data
  and the executed instructions of the program.
-/
structure StoppedAs
    (address : Addr)
    (t program : Thread δ) : Prop where
  stopped : t.stopped = true
  atAddress : (t.pc : Addr) = address
  pc : t.pc = program.pc
  data : t.data = program.data
  executed : t.executed = program.executed

/-
  The step comes to run the thread, the thread stops at the
  trap when the program has completed the instruction, and
  a step that succeeds leaves it as the program is then.
-/
structure FollowsFlow
    (execute : Execute δ)
    (depth : CodeAddr → δ → Int)
    (thread : κ → Thread δ)
    (c : DebuggerCore)
    (k : κ) : Prop where
  traps :
    ∃ pc id m k' n j,
      RunsTo c k pc id m k' ∧
        Completes execute depth (thread k) j ∧
        StoppedAs (pc + 4) (after execute (thread k') n)
          (after execute (thread k) j)
  leaves :
    Succeeded (c.stepOver k) →
      ∃ j,
        Completes execute depth (thread k) j ∧
          thread (c.stepOver k).world =
            { after execute (thread k) j with stopped := true }

/-
  After `j` instructions, and not before, the program is at
  the word behind the current instruction.
-/
structure LandsNext
    (execute : Execute δ)
    (t : Thread δ)
    (j : Nat) : Prop where
  lands : ((after execute t j).pc : Addr) = nextPc t
  first :
    ∀ i, 0 < i → i < j →
      ((after execute t i).pc : Addr) ≠ nextPc t

/- An instruction is not behind itself. -/
theorem pc_ne_nextPc
    (t : Thread δ) :
    (t.pc : Addr) ≠ nextPc t := by
  unfold nextPc
  bv_omega

theorem LandsNext.off
    {t : Thread δ}
    {j : Nat}
    (hLands : LandsNext execute t j) :
    ∀ l < j, ((after execute t l).pc : Addr) ≠ nextPc t := by
  intro l hl
  rcases Nat.eq_zero_or_pos l with rfl | hPos
  · exact pc_ne_nextPc t
  · exact hLands.first l hPos hl

/- Where the program lands behind it, the step follows. -/
theorem followsFlow_of_landsNext
    {j : Nat}
    (hLaws : SteppingLaws execute c.currentTid thread)
    (hAttached : Attached c)
    (hTables : Consistent c.breakpointManager)
    (hNone : ∀ id, c.breakpointManager.breakpoints.lookup id =
      none)
    (hStopped : (thread k).stopped = true)
    (hDone : Completes execute depth (thread k) j)
    (hLands : LandsNext execute (thread k) j) :
    FollowsFlow execute depth thread c k := by
  rcases exists_runsTo (k := k) hLaws hAttached hTables hNone
    with ⟨id, m, k', hRuns, hStep⟩
  have hTrapped :=
    (hRuns.trapped hLaws hAttached hTables).2.1
  have hEnd :
      after execute (thread k') (j + 1) =
        { (after execute (thread k) j).trapped
            (nextPc (thread k)) with
          stopped := true } := by
    rw [hTrapped]
    exact Thread.trapped_stop (aligned_nextPc _) hDone.runs
      hLands.off hLands.lands _ (Nat.lt_succ_self j)
  have hStop := congrArg Thread.stopped hEnd
  rcases thread_runToBreakpoint hLaws hAttached hTables
    hStopped hRuns hStop with ⟨-, hWorld⟩
  constructor
  case traps =>
    refine ⟨_, id, m, k', j + 1, j, hRuns, hDone, ?_⟩
    rw [hEnd]
    exact ⟨rfl, hLands.lands, rfl, rfl, rfl⟩
  case leaves =>
    intro _
    refine ⟨j, hDone, ?_⟩
    rw [hStep]
    refine hWorld.trans ?_
    rw [hEnd, ← Thread.memory_after execute (thread k) j]
    rfl

/-
  Where the thread stops at the trap as the program is after
  the instruction, the program lands behind it: had it come
  there before, the thread would have stopped there.
-/
theorem landsNext_of_stoppedAs
    {t : Thread δ}
    {n j : Nat}
    (hDone : Completes execute depth t j)
    (hStopped :
      StoppedAs (nextPc t)
        (after execute (t.trapped (nextPc t)) n)
        (after execute t j)) :
    LandsNext execute t j := by
  have hLands : ((after execute t j).pc : Addr) = nextPc t := by
    rw [← hStopped.pc]
    exact hStopped.atAddress
  refine ⟨hLands, ?_⟩
  intro i _ hi hHere
  have hComes :
      ∃ i, ((after execute t i).pc : Addr) = nextPc t :=
    ⟨i, hHere⟩
  classical
  have hFirst := Nat.find_spec hComes
  have hBefore := fun l hl => Nat.find_min (m := l) hComes hl
  have hLess : Nat.find hComes < j :=
    Nat.lt_of_le_of_lt (Nat.find_min' hComes hHere) hi
  generalize Nat.find hComes = first at hFirst hBefore hLess
  have hRuns := fun l hl =>
    hDone.runs l (Nat.lt_trans hl hLess)
  rcases Nat.lt_or_ge first n with hAfter | hEarly
  · -- the thread is held at the first visit
    have hLength :
        t.executed.length + first = t.executed.length + j := by
      rw [← (Thread.after_running hRuns).2,
        ← (Thread.after_running hDone.runs).2,
        ← hStopped.executed,
        Thread.trapped_stop (aligned_nextPc t) hRuns hBefore
          hFirst n hAfter]
      rfl
    omega
  · -- the thread has not come to the trap yet
    have hRunning := hStopped.stopped
    rw [Thread.trapped_run (aligned_nextPc t)
        (fun l hl => hRuns l (Nat.lt_of_lt_of_le hl hEarly))
        (fun l hl => hBefore l (Nat.lt_of_lt_of_le hl hEarly))]
      at hRunning
    have hNot := (Thread.after_running fun l hl =>
      hRuns l (Nat.lt_of_lt_of_le hl hEarly)).1
    exact Bool.false_ne_true (hNot.symm.trans hRunning)

theorem FollowsFlow.landsNext
    {j : Nat}
    (hLaws : SteppingLaws execute c.currentTid thread)
    (hAttached : Attached c)
    (hTables : Consistent c.breakpointManager)
    (hDone : Completes execute depth (thread k) j)
    (hFollows : FollowsFlow execute depth thread c k) :
    LandsNext execute (thread k) j := by
  rcases hFollows.traps with
    ⟨pc, id, m, k', n, j', hRuns, hDone', hStopped⟩
  rcases hRuns.trapped hLaws hAttached hTables with
    ⟨rfl, hTrapped, -⟩
  cases hDone.unique hDone'
  rw [hTrapped] at hStopped
  exact landsNext_of_stoppedAs hDone hStopped

/-
  In every reachable state without a live breakpoint, for a
  thread that is stopped and a program of any kind that
  completes its current instruction: stepping over follows
  it exactly if it lands behind the instruction, and was
  not there before.
-/
theorem followsFlow_iff
    [HashOrder κ DBRegister]
    (dump : Json → StdString)
    (ops : List Op)
    (k : κ)
    (j : Nat) :
    let s := run (step dump) ops (Session.start k)
    SteppingLaws execute s.core.currentTid thread →
    Attached s.core →
    (∀ id,
      s.core.breakpointManager.breakpoints.lookup id = none) →
    (thread s.world).stopped = true →
    Completes execute depth (thread s.world) j →
    (FollowsFlow execute depth thread s.core s.world ↔
      LandsNext execute (thread s.world) j) := by
  intro s hLaws hAttached hNone hStopped hDone
  have hTables : Consistent s.core.breakpointManager :=
    consistent_run dump ops k
  constructor
  · intro hFollows
    exact hFollows.landsNext hLaws hAttached hTables hDone
  · intro hLands
    exact followsFlow_of_landsNext hLaws hAttached hTables
      hNone hStopped hDone hLands

end DebuggerCore

end AnDbg

------------------------------------------------------------
-- A Thread That Is Waited For
------------------------------------------------------------

namespace AnDbg

open Kernel DebuggerCore

/- A thread that runs until it stops while it is waited for. -/
structure WaitedThread
    {δ : Type}
    (execute : Execute δ) where
  thread : Thread δ

namespace WaitedThread

variable {δ : Type} {execute : Execute δ}

/- If it never stops, the wait is given up at once. -/
open Classical in
noncomputable instance : Kernel (WaitedThread execute) where
  ptrace request _ w :=
    (true,
      if request = .cont then ⟨w.thread.continued⟩ else w)
  waitpid tid w :=
    if hStops :
        ∃ n,
          ((Thread.tick execute)^[n] w.thread).stopped = true
      then
        ((tid, 0x137f),
          ⟨(Thread.tick execute)^[Nat.find hStops] w.thread⟩)
    else
      ((-1, 0), w)
  kill _ _ w := (0, w)
  getThreadIds pid w := ([pid], w)
  getProcessState _ w :=
    (if w.thread.stopped then .tracingStop else .running, w)
  sleepFor _ w := w
  errno _ := 3
  strerror _ _ := ascii "No such process"

instance : MemoryControl (WaitedThread execute) where
  readMemory tid address buffer w :=
    let answer :=
      MemoryControl.readMemory tid address buffer w.thread
    (answer.1, answer.2.1, ⟨answer.2.2⟩)
  writeMemory tid address buffer w :=
    let answer :=
      MemoryControl.writeMemory tid address buffer w.thread
    (answer.1, ⟨answer.2⟩)

/- Of the registers, the general ones can be read. -/
instance : Regset (WaitedThread execute) where
  getRegset type _ w :=
    match type with
    | .gpr => (some ⟨fun _ => 0, 0, w.thread.pc, 0⟩, w)
    | _ => (none, w)
  setRegset _ _ _ w := (false, w)

instance : HashOrder (WaitedThread execute) DBRegister where
  first s _ := SimulatedTarget.firstOf s
  first_mem _ _ hNonempty :=
    SimulatedTarget.firstOf_mem hNonempty

open Classical in
/- A wait for a thread that stops ends where it stops. -/
theorem waitpid_of_stops
    {tid : Pid}
    {w : WaitedThread execute}
    (hStops :
      ∃ n,
        ((Thread.tick execute)^[n] w.thread).stopped = true) :
    waitpid tid w =
      ((tid, 0x137f),
        ⟨(Thread.tick execute)^[Nat.find hStops] w.thread⟩) :=
  dif_pos hStops

open Classical in
theorem steppingLaws
    (execute : Execute δ)
    (tid : Pid) :
    SteppingLaws execute tid
      fun w : WaitedThread execute => w.thread where
  read {pid address buffer _ _ k _} hPid hRead := by
    have hGranted :
        MemoryControl.readMemory pid address buffer k.thread =
          (true,
            ByteMemory.read k.thread.memory address
              buffer.length,
            k.thread) :=
      if_pos hPid
    change (_, _, _) = _ at hRead
    rw [hGranted] at hRead
    cases hRead
    exact ⟨rfl, rfl, rfl⟩
  write {pid address buffer _ k _} hPid hWrite := by
    have hGranted :
        MemoryControl.writeMemory pid address buffer k.thread =
          (true,
            k.thread.withMemory
              (ByteMemory.write k.thread.memory address
                buffer)) :=
      if_pos hPid
    change (_, _) = _ at hWrite
    rw [hGranted] at hWrite
    cases hWrite
    exact ⟨rfl, rfl⟩
  registers hGet := by
    cases hGet
    exact ⟨_, rfl, rfl, rfl⟩
  cont _ hCont := by
    cases hCont
    exact ⟨rfl, rfl⟩
  wait {_ k _ n} hWait hStop := by
    have hStops :
        ∃ n,
          ((Thread.tick execute)^[n] k.thread).stopped =
            true :=
      ⟨n, hStop⟩
    rw [waitpid_of_stops hStops] at hWait
    cases hWait
    refine ⟨⟨rfl, (by decide : wifstopped 0x137f = true)⟩, ?_⟩
    exact (Thread.iterate_of_stopped (Nat.find_spec hStops)
      (Nat.find_min' hStops hStop)).symm

end WaitedThread

end AnDbg

------------------------------------------------------------
-- A Straight Line And A Branch
------------------------------------------------------------

namespace AnDbg

namespace DebuggerCore

open BreakpointManager Run
open Thread (after Completes)

/- A program that goes on to the next word. -/
def straightLine : Execute Unit :=
  fun _ pc data =>
    (⟨(pc : Addr) + 4,
      aligned_iff.mpr
        (ByteMemory.Aligned.add (aligned_iff.mp pc.2)
          (by decide) (by decide))⟩,
      data)

/- The thread that stops at its first word, and is attached. -/
noncomputable def attachedTo
    (execute : Execute Unit) : Session (WaitedThread execute) :=
  run (step fun _ => []) [.attach 7]
    (Session.start ⟨atBranch⟩)

theorem attached_attachedTo
    (execute : Execute Unit) :
    Attached (attachedTo execute).core where
  pidPos := (by decide : (1 : Int) ≤ 7)
  tidPos := (by decide : (1 : Int) ≤ 7)
  traced := List.mem_singleton_self (7 : Pid)

/- Its first instruction ends with its execution. -/
theorem completes_attachedTo
    (execute : Execute Unit) :
    Completes execute (fun _ _ => 0)
      (attachedTo execute).world.thread 1 where
  pos := Nat.one_pos
  runs i hi := by
    cases Nat.lt_one_iff.mp hi
    change LittleEndian.decode 32 [0, 0, 0, 0] ≠ _
    decide
  inside i hPos hi := by omega
  outside := Int.le_refl 0

/- On a straight line, a step goes with the program. -/
theorem followsFlow_straightLine :
    let s := run (step fun _ => []) [.attach 7]
      (Session.start
        (⟨atBranch⟩ : WaitedThread straightLine))
    FollowsFlow straightLine (fun _ _ => 0)
      WaitedThread.thread s.core s.world := by
  apply (followsFlow_iff (fun _ => []) [.attach 7]
    (⟨atBranch⟩ : WaitedThread straightLine) 1
    (WaitedThread.steppingLaws straightLine 7)
    (attached_attachedTo straightLine) (fun _ => rfl) rfl
    (completes_attachedTo straightLine)).mpr
  constructor
  case lands =>
    rw [after, Function.iterate_one]
    decide
  case first =>
    intro i hPos hi
    omega

/-
  On a branch that is taken, here to itself, the thread
  never comes to the trap.
-/
theorem not_followsFlow_branch :
    let s := attachedTo branchToSelf
    SteppingLaws branchToSelf s.core.currentTid
        (fun w : WaitedThread branchToSelf => w.thread) ∧
      Attached s.core ∧
      (∀ id,
        s.core.breakpointManager.breakpoints.lookup id =
          none) ∧
      s.world.thread.stopped = true ∧
      Completes branchToSelf (fun _ _ => 0) s.world.thread 1 ∧
      ¬ FollowsFlow branchToSelf (fun _ _ => 0)
        WaitedThread.thread s.core s.world := by
  intro s
  have hLaws :
      SteppingLaws branchToSelf s.core.currentTid
        fun w : WaitedThread branchToSelf => w.thread :=
    WaitedThread.steppingLaws branchToSelf 7
  have hAttached := attached_attachedTo branchToSelf
  have hDone := completes_attachedTo branchToSelf
  refine ⟨hLaws, hAttached, fun _ => rfl, rfl, hDone, ?_⟩
  intro hFollows
  have hTables : Consistent s.core.breakpointManager :=
    consistent_run (fun _ => []) [.attach 7]
      (⟨atBranch⟩ : WaitedThread branchToSelf)
  have hLands :=
    (hFollows.landsNext hLaws hAttached hTables hDone).lands
  exact absurd hLands (by decide)

end DebuggerCore

end AnDbg
