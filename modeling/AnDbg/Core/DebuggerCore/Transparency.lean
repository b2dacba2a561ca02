import AnDbg.Core.BreakpointManager.Image
import AnDbg.Core.DebuggerCore.Model
import AnDbg.Core.Execution
import AnDbg.Lib.Stuttering

/-
  Whether breakpoints can be seen in what the target
  executes, when it is resumed after every stop.

  `resume` and `resume_thread` do nothing to a stopped thread
  but PTRACE_CONT.  A thread that is stopped at a breakpoint
  fetches the breakpoint instruction again, so it stays
  there however often it is resumed: the thread follows the
  program exactly as long as that comes to no breakpoint.

  Main declarations:
    * `AnDbg.DebuggerCore.resumeThread_thread`
    * `AnDbg.DebuggerCore.resume_thread`
    * `AnDbg.DebuggerCore.debugged`
    * `AnDbg.DebuggerCore.Transparent`
    * `AnDbg.DebuggerCore.transparent_iff`
-/

------------------------------------------------------------
-- Resuming The Thread
------------------------------------------------------------

namespace AnDbg

namespace DebuggerCore

open Kernel

/- The session of a process with one thread. -/
structure HasOneThread
    (c : DebuggerCore)
    (tid : Pid) : Prop where
  pid_pos : 0 < c.pid
  tids : c.tids = [tid]

variable {κ δ : Type}
variable [Kernel κ]
variable {execute : Execute δ} {tid : Pid}
variable {thread : κ → Thread δ} {tick : κ → κ}
variable {c : DebuggerCore} {k : κ}

/- `resume_thread` lets a stopped thread go on. -/
theorem resumeThread_thread
    (hLaws : ExecutionLaws execute tid thread tick)
    (hThread : c.HasOneThread tid)
    (hStopped : (thread k).stopped = true) :
    (c.resumeThread tid k).1.isFail = false ∧
      thread (c.resumeThread tid k).2 =
        (thread k).continued := by
  have hKnown : ¬ tid ∉ c.tids := by
    simp [hThread.tids]
  rw [resumeThread, if_neg hKnown]
  rcases hCont : ptrace .cont tid k with ⟨done, k'⟩
  rcases hLaws.cont hStopped hCont with ⟨rfl, hContinued⟩
  exact ⟨rfl, hContinued⟩

/- So does `resume`. -/
theorem resume_thread
    (hLaws : ExecutionLaws execute tid thread tick)
    (hThread : c.HasOneThread tid)
    (hStopped : (thread k).stopped = true) :
    (c.resume k).1.isFail = false ∧
      thread (c.resume k).2 = (thread k).continued := by
  have hAttached : ¬ (c.pid ≤ 0 ∨ c.tids = []) := by
    rintro (hPid | hNone)
    · exact absurd hThread.pid_pos (Int.not_lt.mpr hPid)
    · rw [hThread.tids] at hNone
      cases hNone
  rw [resume, if_neg hAttached, hThread.tids]
  rcases hState : getProcessState tid k with ⟨state, k₁⟩
  rcases hLaws.state hState with ⟨hTracing, hSame⟩
  have hTracingStop : state = .tracingStop :=
    hTracing.mpr hStopped
  rw [← hSame] at hStopped ⊢
  rcases resumeThread_thread hLaws hThread hStopped with
    ⟨hDone, hContinued⟩
  simp only [forThreads, hState, hTracingStop, decide_true,
    if_true, hDone]
  exact ⟨rfl, hContinued⟩

end DebuggerCore

end AnDbg

------------------------------------------------------------
-- The Debugged Run
------------------------------------------------------------

namespace AnDbg

/-
  A round of a thread that is resumed after every stop: it
  is resumed, or it executes.
-/
def Thread.round
    {δ : Type}
    (execute : Execute δ)
    (t : Thread δ) : Thread δ :=
  if t.stopped then t.continued else t.tick execute

namespace DebuggerCore

open Kernel

/- The two ways to resume a thread. -/
inductive Resumption
  | resume
  | resumeThread

variable {κ δ : Type}
variable [Kernel κ]

/- The call by which the user resumes the thread. -/
def Resumption.perform
    (tid : Pid)
    (c : DebuggerCore)
    (k : κ) : Resumption → Status × κ
| .resume => c.resume k
| .resumeThread => c.resumeThread tid k

/-
  The worlds of a run in which the user resumes the thread
  after every stop, in one way or the other.
-/
def debugged
    (thread : κ → Thread δ)
    (tick : κ → κ)
    (tid : Pid)
    (c : DebuggerCore)
    (calls : Nat → Resumption)
    (k : κ) : Nat → κ
| 0 => k
| n + 1 =>
    let k := debugged thread tick tid c calls k n
    if (thread k).stopped then
      ((calls n).perform tid c k).2
    else
      tick k

/-
  The program without breakpoints and without a debugger:
  it runs on its own code.
-/
def undebugged
    (execute : Execute δ)
    (base : Memory)
    (t : Thread δ)
    (n : Nat) : Thread δ :=
  (Thread.tick execute)^[n]
    { t with memory := base, stopped := false }

variable {execute : Execute δ} {tid : Pid}
variable {thread : κ → Thread δ} {tick : κ → κ}
variable {c : DebuggerCore}

/- The debugger adds nothing to the rounds of the thread. -/
theorem thread_debugged
    (hLaws : ExecutionLaws execute tid thread tick)
    (hThread : c.HasOneThread tid)
    (calls : Nat → Resumption)
    (k : κ)
    (n : Nat) :
    thread (debugged thread tick tid c calls k n) =
      (Thread.round execute)^[n] (thread k) := by
  induction n with
  | zero => rfl
  | succ n ih =>
      rw [Function.iterate_succ_apply', ← ih, debugged,
        Thread.round]
      split
      next hStopped =>
        cases calls n with
        | resume =>
            exact (resume_thread hLaws hThread hStopped).2
        | resumeThread =>
            exact (resumeThread_thread hLaws hThread
              hStopped).2
      next => exact hLaws.tick _

end DebuggerCore

end AnDbg

------------------------------------------------------------
-- Following The Program
------------------------------------------------------------

namespace AnDbg

namespace DebuggerCore

open BreakpointManager

variable {δ : Type}

/-
  A thread `d` that runs on patched code has come as far as
  `u`, which runs on the base: all but the code and the stop
  is the same, and if `u` has stopped, it has met a
  breakpoint instruction of the program itself.
-/
structure Follows
    (base : Memory)
    (m : BreakpointManager)
    (d u : Thread δ) : Prop where
  image : Image base m d.memory
  memory : u.memory = base
  pc : d.pc = u.pc
  data : d.data = u.data
  executed : d.executed = u.executed
  halted :
    u.stopped = true →
      u.instruction = Breakpoint.BRK_OPCODE

/- The next instruction is not under a breakpoint. -/
def AtNoBreakpoint
    (m : BreakpointManager)
    (t : Thread δ) : Prop :=
  (t.pc : Addr) ∉ patchedWords m

/- The breakpoints cover no breakpoint instruction. -/
def CoversInstructions
    (base : Memory)
    (m : BreakpointManager) : Prop :=
  ∀ address ∈ patchedWords m,
    word base address ≠ Breakpoint.BRK_OPCODE

variable {execute : Execute δ}
variable {base : Memory} {m : BreakpointManager}
variable {d u : Thread δ}

theorem Follows.instruction_eq
    (hFollows : Follows base m d u)
    (hFree : AtNoBreakpoint m u) :
    d.instruction = u.instruction := by
  rw [Thread.instruction, Thread.instruction, hFollows.pc,
    hFollows.memory]
  exact hFollows.image.word_eq u.pc.2 hFree

theorem Follows.instruction_brk
    (hFollows : Follows base m d u)
    (hPatched : ¬ AtNoBreakpoint m u) :
    d.instruction = Breakpoint.BRK_OPCODE := by
  rw [Thread.instruction, hFollows.pc]
  exact hFollows.image.word_brk u.pc.2 (not_not.mp hPatched)

/- A stop of the debugged thread is not seen. -/
theorem Follows.stop
    (hFollows : Follows base m d u)
    (stopped : Bool) :
    Follows base m { d with stopped := stopped } u where
  image := hFollows.image
  memory := hFollows.memory
  pc := hFollows.pc
  data := hFollows.data
  executed := hFollows.executed
  halted := hFollows.halted

/- Off the breakpoints both execute the same instruction. -/
theorem Follows.tick
    (hFollows : Follows base m d u)
    (hFree : AtNoBreakpoint m u)
    (hRunning : d.stopped = false)
    (hRunning' : u.stopped = false) :
    Follows base m (d.tick execute) (u.tick execute) := by
  have hSame := hFollows.instruction_eq hFree
  by_cases hBrk : u.instruction = Breakpoint.BRK_OPCODE
  · rw [Thread.tick_of_brk hRunning (hSame.trans hBrk),
      Thread.tick_of_brk hRunning' hBrk]
    exact {
      image := hFollows.image
      memory := hFollows.memory
      pc := hFollows.pc
      data := hFollows.data
      executed := hFollows.executed
      halted := fun _ => hBrk }
  · rw [Thread.tick_of_instruction hRunning (hSame ▸ hBrk),
      Thread.tick_of_instruction hRunning' hBrk, hSame,
      hFollows.pc, hFollows.data, hFollows.executed]
    exact {
      image := hFollows.image
      memory := hFollows.memory
      pc := rfl
      data := rfl
      executed := rfl
      halted := fun hStopped =>
        absurd (hRunning'.symm.trans hStopped)
          Bool.false_ne_true }

/- A program that has stopped is followed by stops. -/
theorem Follows.tick_halted
    (hFollows : Follows base m d u)
    (hFree : AtNoBreakpoint m u)
    (hRunning : d.stopped = false)
    (hHalted : u.stopped = true) :
    Follows base m (d.tick execute) u := by
  have hBrk : d.instruction = Breakpoint.BRK_OPCODE :=
    (hFollows.instruction_eq hFree).trans
      (hFollows.halted hHalted)
  rw [Thread.tick_of_brk hRunning hBrk]
  exact hFollows.stop true

/- The thread follows the program off the breakpoints. -/
theorem follows_simulation
    (execute : Execute δ)
    (base : Memory)
    (m : BreakpointManager) :
    Stuttering.Simulation (Thread.round execute)
      (Thread.tick execute) (Follows base m)
      (AtNoBreakpoint m) where
  follows d u hFollows hFree := by
    rw [Thread.round]
    cases hStopped : d.stopped with
    | true => exact .inl (hFollows.stop false)
    | false =>
        cases hHalted : u.stopped with
        | true =>
            exact .inl
              (hFollows.tick_halted hFree hStopped hHalted)
        | false =>
            exact .inr (hFollows.tick hFree hStopped hHalted)
  catchesUp d u hFollows hFree := by
    cases hHalted : u.stopped with
    | true =>
        refine ⟨0, ?_⟩
        rw [Thread.tick_of_stopped hHalted]
        exact hFollows
    | false =>
        cases hStopped : d.stopped with
        | true =>
            -- one round to resume it, one to execute
            refine ⟨2, ?_⟩
            have hResumed : d.round execute = d.continued := by
              rw [Thread.round, if_pos hStopped]
            change Follows base m
              ((d.round execute).round execute) _
            rw [hResumed]
            exact (hFollows.stop false).tick hFree rfl hHalted
        | false =>
            refine ⟨1, ?_⟩
            change Follows base m (d.round execute) _
            rw [Thread.round, hStopped,
              if_neg Bool.false_ne_true]
            exact hFollows.tick hFree hStopped hHalted

end DebuggerCore

end AnDbg

------------------------------------------------------------
-- Stuck At A Breakpoint
------------------------------------------------------------

namespace AnDbg

namespace Thread

variable {δ : Type}
variable {execute : Execute δ} {t : Thread δ}

/- At a breakpoint instruction only the stop changes. -/
theorem round_of_brk
    (hBrk : t.instruction = Breakpoint.BRK_OPCODE) :
    t.round execute = { t with stopped := !t.stopped } := by
  rw [round]
  cases hStopped : t.stopped with
  | true => rfl
  | false =>
      rw [if_neg Bool.false_ne_true,
        tick_of_brk hStopped hBrk]
      rfl

/- However often it is resumed, it executes nothing. -/
theorem executed_of_brk
    (hBrk : t.instruction = Breakpoint.BRK_OPCODE)
    (n : Nat) :
    ((round execute)^[n] t).executed = t.executed := by
  induction n generalizing t with
  | zero => rfl
  | succ n ih =>
      rw [Function.iterate_succ_apply, round_of_brk hBrk]
      exact ih hBrk

theorem length_executed_round
    (execute : Execute δ)
    (t : Thread δ) :
    t.executed.length ≤
      (t.round execute).executed.length := by
  rw [round]
  split
  · exact Nat.le_refl _
  · exact length_executed_tick execute t

end Thread

end AnDbg

------------------------------------------------------------
-- Transparency
------------------------------------------------------------

namespace AnDbg

namespace DebuggerCore

open BreakpointManager Run Stuttering

variable {δ : Type}

/-
  Breakpoints that cannot be seen: the thread executes what
  the program executes, and between two stops at a
  breakpoint the instruction that it replaced.
-/
structure Transparent
    (execute : Execute δ)
    (base : Memory)
    (m : BreakpointManager)
    (threads : Nat → Thread δ) : Prop where
  sameInstructions :
    SameLogs (fun j => (threads j).executed)
      (fun n =>
        (undebugged execute base (threads 0) n).executed)
  resumesPast :
    ∀ i j, i < j →
      (threads i).stopped = true →
      (threads j).stopped = true →
      (threads j).pc = (threads i).pc →
      ((threads i).pc : Addr) ∈ patchedWords m →
      ∃ later,
        (threads j).executed =
          (threads i).executed ++
            ((threads i).pc,
              word base (threads i).pc) :: later

/- The program never comes to a breakpoint. -/
def AvoidsBreakpoints
    (execute : Execute δ)
    (base : Memory)
    (m : BreakpointManager)
    (t : Thread δ) : Prop :=
  ∀ n, AtNoBreakpoint m (undebugged execute base t n)

variable {execute : Execute δ}
variable {base : Memory} {m : BreakpointManager}
variable {t : Thread δ}

/- The thread starts where the program does. -/
theorem follows_start
    (hImage : Image base m t.memory) :
    Follows base m t
      { t with memory := base, stopped := false } where
  image := hImage
  memory := rfl
  pc := rfl
  data := rfl
  executed := rfl
  halted hStopped := absurd hStopped Bool.false_ne_true

/- The logs of the two runs. -/
theorem sameInstructions_iff
    (hImage : Image base m t.memory)
    (hCovers : CoversInstructions base m) :
    SameLogs
        (fun j => ((Thread.round execute)^[j] t).executed)
        (fun n => (undebugged execute base t n).executed) ↔
      AvoidsBreakpoints execute base m t := by
  apply sameLogs_iff (follows_simulation execute base m)
  case hAgree => exact fun _ _ hFollows => hFollows.executed
  case hMono => exact Thread.length_executed_round execute
  case hStuck =>
    intro d u hFollows hPatched n
    exact Thread.executed_of_brk
      (hFollows.instruction_brk hPatched) n
  case hWrites =>
    intro d u hFollows hPatched
    have hInstruction :
        u.instruction ≠ Breakpoint.BRK_OPCODE := by
      rw [Thread.instruction, hFollows.memory]
      exact hCovers _ (not_not.mp hPatched)
    have hRunning : u.stopped = false := by
      rw [← Bool.not_eq_true]
      exact fun hHalted =>
        hInstruction (hFollows.halted hHalted)
    rw [Thread.tick_of_instruction hRunning hInstruction]
    simp
  case hStart => exact follows_start hImage

/- The same of all that the user can see. -/
theorem transparent_rounds_iff
    (hImage : Image base m t.memory)
    (hCovers : CoversInstructions base m) :
    Transparent execute base m
        (fun j => (Thread.round execute)^[j] t) ↔
      AvoidsBreakpoints execute base m t := by
  constructor
  · intro hTransparent
    exact (sameInstructions_iff hImage hCovers).mp
      hTransparent.sameInstructions
  · intro hAvoids
    refine ⟨(sameInstructions_iff hImage hCovers).mpr hAvoids,
      ?_⟩
    intro i _ _ _ _ _ hPatched
    -- the thread is never at a breakpoint
    rcases
        (follows_simulation execute base m).exists_leader
          (follows_start hImage) hAvoids i with
      ⟨n, hFollows⟩
    rw [hFollows.pc] at hPatched
    exact absurd hPatched (hAvoids n)

variable {κ : Type}
variable [Kernel κ] [MemoryControl κ] [Regset κ]
variable [HashOrder κ DBRegister]
variable {tid : Pid}
variable {thread : κ → Thread δ} {tick : κ → κ}

/-
  For the breakpoints that any operations have set, and any
  ways to resume the thread, they cannot be seen exactly if
  the program never comes to one of those that are enabled.
-/
theorem transparent_iff
    (hMemory : MemoryLaws (fun k => (thread k).memory))
    (hLaws : ExecutionLaws execute tid thread tick)
    (ops : List BreakpointManager.Op)
    (k : κ)
    (c : DebuggerCore)
    (calls : Nat → Resumption) :
    let s :=
      run BreakpointManager.step ops
        (BreakpointManager.Session.start k)
    let base := (thread k).memory
    c.HasOneThread tid →
      c.breakpointManager = s.manager →
      CoversInstructions base c.breakpointManager →
      (Transparent execute base c.breakpointManager
          (fun n =>
            thread (debugged thread tick tid c calls
              s.world n)) ↔
        AvoidsBreakpoints execute base c.breakpointManager
          (thread s.world)) := by
  intro s base hThread hManager hCovers
  have hImage :
      Image base c.breakpointManager
        (thread s.world).memory := by
    rw [hManager]
    exact image_run hMemory ops (image_init base)
  simp only [thread_debugged hLaws hThread]
  exact transparent_rounds_iff hImage hCovers

/- A program of one instruction that branches to itself. -/
def branchToSelf : Execute Unit :=
  fun _ pc data => (pc, data)

/- The thread that is about to execute it. -/
def atBranch : Thread Unit where
  memory _ := 0
  pc := ⟨0x1000, by decide⟩
  data := ()
  stopped := true
  executed := []

/- The debugger after a software breakpoint was set. -/
def withBreakpointAt (address : Addr) : DebuggerCore where
  pid := 7
  tids := [7]
  currentTid := 7
  breakpointManager :=
    (run BreakpointManager.step
      [.setSoftwareBreakpoint 7 address]
      (BreakpointManager.Session.start atBranch)).manager

/- The target after that. -/
def patchedAt (address : Addr) : Thread Unit :=
  (run BreakpointManager.step
    [.setSoftwareBreakpoint 7 address]
    (BreakpointManager.Session.start atBranch)).world

theorem image_patchedAt
    (address : Addr) :
    Image atBranch.memory
      (withBreakpointAt address).breakpointManager
      (patchedAt address).memory :=
  image_run Thread.memoryLaws _ (image_init atBranch.memory)

theorem coversInstructions_atBranch
    (m : BreakpointManager) :
    CoversInstructions atBranch.memory m := by
  intro address _
  change LittleEndian.decode 32 [0, 0, 0, 0] ≠ _
  decide

theorem hasOneThread_withBreakpointAt
    (address : Addr) :
    (withBreakpointAt address).HasOneThread 7 where
  pid_pos := (by decide : (0 : Int) < 7)
  tids := rfl

theorem undebugged_branch
    (t : Thread Unit)
    (n : Nat) :
    (undebugged branchToSelf atBranch.memory t n).pc = t.pc := by
  induction n with
  | zero => rfl
  | succ n ih =>
      rw [undebugged, Function.iterate_succ_apply',
        ← undebugged, Thread.tick]
      split
      · exact ih
      · split
        · exact ih
        · exact ih

theorem transparent_iff_elsewhere :
    Transparent branchToSelf atBranch.memory
      (withBreakpointAt 0x2000).breakpointManager
      (fun n =>
        debugged (fun t => t) (Thread.tick branchToSelf) 7
          (withBreakpointAt 0x2000) (fun _ => .resume)
          (patchedAt 0x2000) n) := by
  have hAvoids :
      AvoidsBreakpoints branchToSelf atBranch.memory
        (withBreakpointAt 0x2000).breakpointManager
        (patchedAt 0x2000) := by
    intro n hPatched
    rw [undebugged_branch] at hPatched
    have hWord :=
      (image_patchedAt 0x2000).word_brk
        (patchedAt 0x2000).pc.2 hPatched
    exact absurd hWord (by decide +kernel)
  exact
    (transparent_iff Thread.memoryLaws
      (Thread.executionLaws branchToSelf 7)
      [.setSoftwareBreakpoint 7 0x2000] atBranch
      (withBreakpointAt 0x2000) (fun _ => .resume)
      (hasOneThread_withBreakpointAt 0x2000) rfl
      (coversInstructions_atBranch _)).mpr hAvoids

/-
  With a breakpoint on the branch the thread executes
  nothing, and the program the branch for ever.
-/
theorem not_transparent_on_branch :
    (withBreakpointAt 0x1000).HasOneThread 7 ∧
      CoversInstructions atBranch.memory
        (withBreakpointAt 0x1000).breakpointManager ∧
      ¬ Transparent branchToSelf atBranch.memory
        (withBreakpointAt 0x1000).breakpointManager
        (fun n =>
          debugged (fun t => t) (Thread.tick branchToSelf) 7
            (withBreakpointAt 0x1000) (fun _ => .resume)
            (patchedAt 0x1000) n) := by
  have hThread := hasOneThread_withBreakpointAt 0x1000
  refine ⟨hThread, coversInstructions_atBranch _, ?_⟩
  have hRounds :=
    thread_debugged (Thread.executionLaws branchToSelf 7)
      hThread (fun _ => .resume) (patchedAt 0x1000)
  rw [funext hRounds,
    transparent_rounds_iff (image_patchedAt 0x1000)
      (coversInstructions_atBranch _)]
  intro hAvoids
  apply hAvoids 0
  exact ⟨1, softwareBreakpoint 1 7 0x1000 0,
    by decide +kernel, ⟨rfl, rfl⟩, rfl⟩

end DebuggerCore

end AnDbg
