import AnDbg.Core.DebuggerCore.Registers
import AnDbg.Core.SimulatedTarget
import AnDbg.Lib.Run

/-
  The session over whole runs of the debugger.

  The main thread and the current thread are members of the
  thread list as long as the list is not empty.  Only
  `attach`, `switchThread` and `kill` touch these fields;
  `detach` leaves all of them as they are, and `kill`
  forgets the current thread and the breakpoints.  So the
  session is in order exactly until a `detach` or a `kill`
  goes through.

  Main declarations:
    * `AnDbg.DebuggerCore.exec` and `AnDbg.DebuggerCore.step`
    * `AnDbg.DebuggerCore.SessionFields`
    * `AnDbg.DebuggerCore.TornDown`
    * `AnDbg.DebuggerCore.KeepsSession`
    * `AnDbg.DebuggerCore.session_iff`
-/

------------------------------------------------------------
-- Operations
------------------------------------------------------------

namespace AnDbg

namespace DebuggerCore

/- The operations with their arguments. -/
inductive Op
  | attach (pid : Pid)
  | switchThread (tid : Pid)
  | setBreakpoint (type : BreakpointType) (address : Addr)
  | removeBreakpoint (breakpointId : Int)
  | enableBreakpoint (breakpointId : Int)
  | disableBreakpoint (breakpointId : Int)
  | getBreakpoint (breakpointId : Int)
  | getBreakpointAt (address : Addr)
  | getBreakpoints
  | getBreakpointsOf (tid : Pid)
  | readRegisters (jsonData : Json)
  | writeRegisters (jsonData : Json)
  | readMemory (address : Addr) (buffer : List Byte)
  | writeMemory (address : Addr) (buffer : List Byte)
  | resumeThread (tid : Pid)
  | resume
  | pauseThread (tid : Pid)
  | pause
  | stepInto
  | hardwareStepInto
  | softwareStepInto
  | stepOver
  | detach
  | kill

/- How an operation ends. -/
inductive Reply
  | status (s : Status)
  | threw (e : StdException)
  | undefined

/- The ending of an operation that may throw. -/
def Reply.ofExcept : Except StdException Status → Reply
| .ok s => .status s
| .error e => .threw e

/- The debugger together with the world it acts on. -/
structure Session (κ : Type) where
  core : DebuggerCore
  world : κ

variable {κ : Type}
variable [Kernel κ] [MemoryControl κ] [Regset κ]
variable [HashOrder κ DBRegister]
variable (dump : Json → StdString)

/- An operation of the debugger. -/
def exec
    (op : Op)
    (s : Session κ) : Outcome DebuggerCore κ Reply :=
  let c := s.core
  let k := s.world
  let changed (done : Outcome DebuggerCore κ Status) :
      Outcome DebuggerCore κ Reply :=
    ⟨.status done.result, done.object, done.world⟩
  let mayThrow
      (done :
        Outcome DebuggerCore κ (Except StdException Status)) :
      Outcome DebuggerCore κ Reply :=
    ⟨.ofExcept done.result, done.object, done.world⟩
  let kept (done : Status × κ) : Outcome DebuggerCore κ Reply :=
    ⟨.status done.1, c, done.2⟩
  match op with
  | .attach pid => changed (c.attach pid k)
  | .switchThread tid => changed (c.switchThread tid k)
  | .setBreakpoint type address =>
    let done := c.setBreakpoint type address k
    ⟨.ofExcept (done.result.map Prod.fst), done.object,
      done.world⟩
  | .removeBreakpoint breakpointId =>
    changed (c.removeBreakpoint breakpointId k)
  | .enableBreakpoint breakpointId =>
    changed (c.enableBreakpoint breakpointId k)
  | .disableBreakpoint breakpointId =>
    changed (c.disableBreakpoint breakpointId k)
  | .getBreakpoint breakpointId =>
    kept ((c.getBreakpoint breakpointId).1, k)
  | .getBreakpointAt address =>
    match c.getBreakpointAt address with
    | none => ⟨.undefined, c, k⟩
    | some found => kept (found.1, k)
  | .getBreakpoints => kept (c.getBreakpoints.1, k)
  | .getBreakpointsOf tid => kept ((c.getBreakpointsOf tid).1, k)
  | .readRegisters jsonData =>
    let done := c.readRegisters dump jsonData .null k
    kept (done.1.1, done.2)
  | .writeRegisters jsonData =>
    let done := c.writeRegisters jsonData k
    ⟨.ofExcept done.1, c, done.2⟩
  | .readMemory address buffer =>
    let done := c.readMemory address buffer k
    kept (done.1.1, done.2)
  | .writeMemory address buffer =>
    kept (c.writeMemory address buffer k)
  | .resumeThread tid => kept (c.resumeThread tid k)
  | .resume => kept (c.resume k)
  | .pauseThread tid => kept (c.pauseThread tid k)
  | .pause => kept (c.pause k)
  | .stepInto => mayThrow (c.stepInto k)
  | .hardwareStepInto => kept (c.hardwareStepInto k)
  | .softwareStepInto => mayThrow (c.softwareStepInto k)
  | .stepOver => mayThrow (c.stepOver k)
  | .detach => changed (c.detach k)
  | .kill => changed (c.kill k)

/- The state that an operation leaves behind. -/
def step (op : Op) (s : Session κ) : Session κ :=
  ⟨(exec dump op s).object, (exec dump op s).world⟩

/- The state of a new debugger. -/
def Session.start (k : κ) : Session κ :=
  ⟨init, k⟩

end DebuggerCore

end AnDbg

------------------------------------------------------------
-- What The Operations Do To The Session
------------------------------------------------------------

namespace AnDbg

namespace DebuggerCore

open Kernel

/- The session fields are the same. -/
structure SameSession (c c' : DebuggerCore) : Prop where
  pid : c'.pid = c.pid
  tids : c'.tids = c.tids
  currentTid : c'.currentTid = c.currentTid

variable {κ : Type}

theorem sameSession_refl
    (c : DebuggerCore) :
    SameSession c c := ⟨rfl, rfl, rfl⟩

/- The breakpoint manager has no part in the session. -/
theorem sameSession_withManager
    {α : Type}
    (c : DebuggerCore)
    (done : Outcome BreakpointManager κ α) :
    SameSession c (c.withManager done).object :=
  ⟨rfl, rfl, rfl⟩

theorem sameSession_setBreakpoint
    [MemoryControl κ]
    [Regset κ]
    [HashOrder κ DBRegister]
    (type : BreakpointType)
    (address : Addr)
    (c : DebuggerCore)
    (k : κ) :
    SameSession c (c.setBreakpoint type address k).object := by
  rw [setBreakpoint]
  split
  · exact ⟨rfl, rfl, rfl⟩
  · split
    · exact ⟨rfl, rfl, rfl⟩
    · exact sameSession_refl c

variable [Kernel κ]

/- `detach` leaves the debugger as it is. -/
theorem object_detach
    (c : DebuggerCore)
    (k : κ) :
    (c.detach k).object = c := by
  rw [detach]
  split
  · rfl
  · dsimp only
    split <;> rfl

variable [MemoryControl κ] [Regset κ]

theorem sameSession_runToBreakpoint
    (breakpointId : Int)
    (c : DebuggerCore)
    (k : κ) :
    SameSession c (c.runToBreakpoint breakpointId k).object := by
  rw [runToBreakpoint]
  dsimp only
  split
  · exact ⟨rfl, rfl, rfl⟩
  · split <;> exact ⟨rfl, rfl, rfl⟩

theorem sameSession_singleStepImpl
    (mode : SingleStepMode)
    (c : DebuggerCore)
    (k : κ) :
    SameSession c (c.singleStepImpl mode k).object := by
  rw [singleStepImpl]
  rcases RegisterControl.getGpr c.currentTid .pc k with
    ⟨_ | pc, k₁⟩
  · exact sameSession_refl c
  · cases mode with
    | stepInto => exact sameSession_refl c
    | stepOver =>
        dsimp only
        rcases MemoryControl.readMemory c.pid (pc + 4)
            (LittleEndian.encode 4 (0 : Word)) k₁ with
          ⟨_ | _, _, k₂⟩
        · exact sameSession_refl c
        · dsimp only
          cases (c.withManager
              (c.breakpointManager.setSoftwareBreakpoint
                c.currentTid (pc + 4) k₂)).result with
          | error e => exact ⟨rfl, rfl, rfl⟩
          | ok breakpointId =>
              dsimp only
              split
              · exact ⟨rfl, rfl, rfl⟩
              · rcases
                    sameSession_runToBreakpoint breakpointId
                      (c.withManager
                        (c.breakpointManager.setSoftwareBreakpoint
                          c.currentTid (pc + 4) k₂)).object
                      (c.withManager
                        (c.breakpointManager.setSoftwareBreakpoint
                          c.currentTid (pc + 4) k₂)).world
                    with ⟨hPid, hTids, hTid⟩
                exact ⟨hPid, hTids, hTid⟩

theorem sameSession_stepInto
    (c : DebuggerCore)
    (k : κ) :
    SameSession c (c.stepInto k).object := by
  rw [stepInto]
  rcases c.hardwareStepInto k with ⟨hwStatus, k₁⟩
  dsimp only
  split
  · exact sameSession_refl c
  · have hSame := sameSession_singleStepImpl .stepInto c k₁
    rw [← softwareStepInto] at hSame
    cases (c.softwareStepInto k₁).result with
    | error e => exact hSame
    | ok swStatus =>
        dsimp only
        split <;> exact hSame

end DebuggerCore

end AnDbg

------------------------------------------------------------
-- A Session In Order
------------------------------------------------------------

namespace AnDbg

namespace DebuggerCore

open Kernel

/-
  Without threads there is no main and no current thread,
  and otherwise both are among the threads.
-/
structure SessionFields (c : DebuggerCore) : Prop where
  empty : c.tids = [] → c.pid = -1 ∧ c.currentTid = -1
  member :
    c.tids ≠ [] → c.pid ∈ c.tids ∧ c.currentTid ∈ c.tids

/- A session in order whose threads are real ones. -/
structure SessionInvariant (c : DebuggerCore) : Prop where
  fields : SessionFields c
  nonneg : ∀ tid ∈ c.tids, 0 ≤ tid

theorem sessionInvariant_init : SessionInvariant init where
  fields := ⟨fun _ => ⟨rfl, rfl⟩, fun hTids => absurd rfl hTids⟩
  nonneg := fun _ hMem => absurd hMem List.not_mem_nil

theorem SameSession.invariant
    {c c' : DebuggerCore}
    (hSame : SameSession c c')
    (hInv : SessionInvariant c) :
    SessionInvariant c' := by
  rcases c' with ⟨pid', tids', currentTid', m'⟩
  rcases hSame with ⟨rfl, rfl, rfl⟩
  exact ⟨⟨hInv.fields.empty, hInv.fields.member⟩, hInv.nonneg⟩

/- A debugger with a main thread has a current thread. -/
theorem SessionInvariant.currentTid_nonneg
    {c : DebuggerCore}
    (hInv : SessionInvariant c)
    (hPid : 0 ≤ c.pid) :
    0 ≤ c.currentTid := by
  have hTids : c.tids ≠ [] := by
    intro hEmpty
    rw [(hInv.fields.empty hEmpty).1] at hPid
    exact absurd hPid (by decide)
  exact hInv.nonneg _ (hInv.fields.member hTids).2

theorem invariant_switchThread
    {κ : Type}
    {c : DebuggerCore}
    (hInv : SessionInvariant c)
    (tid : Pid)
    (k : κ) :
    SessionInvariant (c.switchThread tid k).object := by
  rw [switchThread]
  split
  next hMem =>
    refine ⟨⟨fun hEmpty => ?_, fun hTids => ?_⟩, hInv.nonneg⟩
    · change c.tids = [] at hEmpty
      rw [hEmpty] at hMem
      exact absurd hMem List.not_mem_nil
    · exact ⟨(hInv.fields.member hTids).1, hMem⟩
  next => exact hInv

variable {κ : Type}
variable [Kernel κ]

/- Only listed threads are recorded. -/
theorem mem_of_mem_attachThreads
    {tids : List Pid}
    {k : κ}
    {tid : Pid}
    (hMem : tid ∈ (attachThreads tids k).1) :
    tid ∈ tids := by
  induction tids generalizing k with
  | nil => exact hMem
  | cons t tids ih =>
      rw [attachThreads] at hMem
      generalize attachThread t k = round at hMem
      rcases round with ⟨_ | _, k₁⟩
      · exact List.mem_cons_of_mem t (ih hMem)
      · rcases List.mem_cons.mp hMem with rfl | hRest
        · exact List.mem_cons_self
        · exact List.mem_cons_of_mem t (ih hRest)

theorem invariant_attach
    (hIds : ThreadIdsNonneg κ)
    {c : DebuggerCore}
    (hInv : SessionInvariant c)
    (pid : Pid)
    (k : κ) :
    SessionInvariant (c.attach pid k).object := by
  have hNonneg := hIds.getThreadIds pid k
  rw [attach]
  generalize getThreadIds pid k = listed at hNonneg
  rcases listed with ⟨tids, k₁⟩
  dsimp only at hNonneg ⊢
  split
  · exact hInv
  · have hListed :
        ∀ tid ∈ (attachThreads tids k₁).1, 0 ≤ tid :=
      fun tid hMem =>
        hNonneg tid (mem_of_mem_attachThreads hMem)
    split
    · exact hInv
    next hTids =>
      split
      · exact hInv
      next hMain =>
        have hMember := not_not.mp hMain
        exact ⟨⟨fun hEmpty => absurd hEmpty hTids,
          fun _ => ⟨hMember, hMember⟩⟩, hListed⟩

end DebuggerCore

end AnDbg

------------------------------------------------------------
-- Detaching And Killing That Go Through
------------------------------------------------------------

namespace AnDbg

namespace DebuggerCore

open Kernel

variable {κ : Type}
variable [Kernel κ]

/-
  Every thread in turn is detached by the kernel, or has
  become a zombie.
-/
def EachDetaches : List Pid → κ → Prop
| [], _ => True
| tid :: tids, k =>
    match ptrace .detach tid k with
    | (true, k) => EachDetaches tids k
    | (false, k) =>
      (getProcessState tid k).1 = .zombie ∧
        EachDetaches tids (getProcessState tid k).2

/- Every thread in turn is detached by the kernel. -/
def EachDetachSucceeds : List Pid → κ → Prop
| [], _ => True
| tid :: tids, k =>
    (ptrace .detach tid k).1 = true ∧
      EachDetachSucceeds tids (ptrace .detach tid k).2

theorem detachThreads_iff
    (tids : List Pid)
    (k : κ) :
    (detachThreads tids k).1.1 = true ↔
      EachDetaches tids k := by
  induction tids generalizing k with
  | nil => exact iff_of_true rfl trivial
  | cons tid tids ih =>
      rw [detachThreads, detachThread, EachDetaches]
      rcases ptrace .detach tid k with ⟨_ | _, k₁⟩
      · dsimp only
        rw [Bool.and_eq_true, decide_eq_true_iff, ih]
      · dsimp only
        rw [Bool.true_and, ih]

theorem detach_isSuccess_iff
    (c : DebuggerCore)
    (k : κ) :
    (c.detach k).result.isSuccess = true ↔
      0 ≤ c.pid ∧
        EachDetaches c.tids
          (Kernel.kill c.pid .sigcont k).2 := by
  rw [← detachThreads_iff, detach]
  split
  next hPid =>
    exact iff_of_false Bool.false_ne_true
      fun hBoth => absurd hBoth.1 (Int.not_le.mpr hPid)
  next hPid =>
    have hNonneg : 0 ≤ c.pid := Int.not_lt.mp hPid
    dsimp only
    split
    next hAll => exact iff_of_true rfl ⟨hNonneg, hAll⟩
    next hAll =>
      exact iff_of_false Bool.false_ne_true
        fun hBoth => hAll hBoth.2

/- The signal of `kill` is delivered. -/
def KillDelivered
    (c : DebuggerCore)
    (k : κ) : Prop :=
  (Kernel.kill c.pid .sigkill (c.beforeSigkill k)).1 = 0

theorem kill_of_delivered
    {c : DebuggerCore}
    {k : κ}
    (hPid : 0 ≤ c.pid)
    (hKill : KillDelivered c k) :
    (c.kill k).result.isSuccess = true ∧
      (c.kill k).object = { c with pid := -1, tids := [] } := by
  rw [kill, if_neg (Int.not_lt.mpr hPid)]
  rw [KillDelivered] at hKill
  dsimp only
  rw [if_neg (not_not_intro hKill)]
  exact ⟨rfl, rfl⟩

theorem kill_of_not_delivered
    {c : DebuggerCore}
    {k : κ}
    (hKill : ¬ (0 ≤ c.pid ∧ KillDelivered c k)) :
    (c.kill k).result.isSuccess = false ∧
      (c.kill k).object = c := by
  rw [kill]
  split
  next => exact ⟨rfl, rfl⟩
  next hPid =>
    have hFails : ¬ KillDelivered c k :=
      fun hDelivered => hKill ⟨Int.not_lt.mp hPid, hDelivered⟩
    rw [KillDelivered] at hFails
    dsimp only
    rw [if_pos hFails]
    exact ⟨rfl, rfl⟩

end DebuggerCore

end AnDbg

------------------------------------------------------------
-- Teardown
------------------------------------------------------------

namespace AnDbg

namespace DebuggerCore

variable {κ : Type}
variable [Kernel κ]

/- The debugger without a session. -/
structure NoSession (c : DebuggerCore) : Prop where
  pid : c.pid = -1
  tids : c.tids = []
  currentTid : c.currentTid = -1
  breakpoints : c.breakpointManager.breakpoints = ∅

/-
  The memory of the target has the original instruction at
  every software breakpoint that was set.
-/
def Restored
    (c : DebuggerCore)
    (m : Memory) : Prop :=
  ∀ id bp,
    c.breakpointManager.breakpoints.lookup id = some bp →
      bp.type = .software →
        word m bp.address = bp.originalInstruction

/-
  A `detach` or `kill` that succeeds ends the session, and a
  `detach` whose calls all succeed restores the memory.
-/
def TornDown
    (memory : κ → Memory)
    (op : Op)
    (s : Session κ) : Prop :=
  match op with
  | .detach =>
    (s.core.detach s.world).result.isSuccess = true →
      NoSession (s.core.detach s.world).object ∧
        ((Kernel.kill s.core.pid .sigcont s.world).1 = 0 →
          EachDetachSucceeds s.core.tids
            (Kernel.kill s.core.pid .sigcont s.world).2 →
            Restored s.core
              (memory (s.core.detach s.world).world))
  | .kill =>
    (s.core.kill s.world).result.isSuccess = true →
      NoSession (s.core.kill s.world).object
  | _ => True

/- The operation is no `detach` or `kill` that goes through. -/
def KeepsSession
    (op : Op)
    (s : Session κ) : Prop :=
  match op with
  | .detach =>
    ¬ (0 ≤ s.core.pid ∧
      EachDetaches s.core.tids
        (Kernel.kill s.core.pid .sigcont s.world).2)
  | .kill => ¬ (0 ≤ s.core.pid ∧ KillDelivered s.core s.world)
  | _ => True

/- Such an operation is no teardown that is left undone. -/
theorem tornDown_of_keeps
    (memory : κ → Memory)
    {s : Session κ}
    {op : Op}
    (hKeeps : KeepsSession op s) :
    TornDown memory op s := by
  cases op with
  | detach =>
      intro hSuccess
      exact absurd
        ((detach_isSuccess_iff s.core s.world).mp hSuccess)
        hKeeps
  | kill =>
      intro hSuccess
      rw [(kill_of_not_delivered hKeeps).1] at hSuccess
      cases hSuccess
  | _ => trivial

/- A `detach` or `kill` that goes through is left undone. -/
theorem keeps_of_tornDown
    {memory : κ → Memory}
    {s : Session κ}
    {op : Op}
    (hInv : SessionInvariant s.core)
    (hTornDown : TornDown memory op s) :
    KeepsSession op s := by
  cases op with
  | detach =>
      intro hThrough
      have hSuccess :=
        (detach_isSuccess_iff s.core s.world).mpr hThrough
      have hPid := (hTornDown hSuccess).1.pid
      rw [object_detach] at hPid
      have hNonneg := hThrough.1
      rw [hPid] at hNonneg
      exact absurd hNonneg (by decide)
  | kill =>
      rintro ⟨hPid, hDelivered⟩
      rcases kill_of_delivered hPid hDelivered with
        ⟨hSuccess, hObject⟩
      have hTid := (hTornDown hSuccess).currentTid
      rw [hObject] at hTid
      have hNonneg := hInv.currentTid_nonneg hPid
      change s.core.currentTid = -1 at hTid
      rw [hTid] at hNonneg
      exact absurd hNonneg (by decide)
  | _ => trivial

end DebuggerCore

end AnDbg

------------------------------------------------------------
-- The Session Over A Run
------------------------------------------------------------

namespace AnDbg

namespace DebuggerCore

open Run

variable {κ : Type}
variable [Kernel κ] [MemoryControl κ] [Regset κ]
variable [HashOrder κ DBRegister]
variable (dump : Json → StdString)

/- Every operation that keeps the session keeps it in order. -/
theorem step_invariant
    (hIds : ThreadIdsNonneg κ)
    (s : Session κ)
    (op : Op)
    (hInv : SessionInvariant s.core)
    (hKeeps : KeepsSession op s) :
    SessionInvariant (step dump op s).core := by
  cases op with
  | attach pid => exact invariant_attach hIds hInv pid s.world
  | switchThread tid =>
      exact invariant_switchThread hInv tid s.world
  | kill =>
      change SessionInvariant (s.core.kill s.world).object
      rw [(kill_of_not_delivered hKeeps).2]
      exact hInv
  | detach =>
      change SessionInvariant (s.core.detach s.world).object
      rw [object_detach]
      exact hInv
  | setBreakpoint type address =>
      exact (sameSession_setBreakpoint type address s.core
        s.world).invariant hInv
  | removeBreakpoint id =>
      exact (sameSession_withManager s.core _).invariant hInv
  | enableBreakpoint id =>
      exact (sameSession_withManager s.core _).invariant hInv
  | disableBreakpoint id =>
      exact (sameSession_withManager s.core _).invariant hInv
  | stepInto =>
      exact (sameSession_stepInto s.core s.world).invariant hInv
  | softwareStepInto =>
      exact (sameSession_singleStepImpl .stepInto s.core
        s.world).invariant hInv
  | stepOver =>
      exact (sameSession_singleStepImpl .stepOver s.core
        s.world).invariant hInv
  | getBreakpointAt address =>
      rw [step, exec]
      dsimp only
      split <;> exact hInv
  | _ => exact hInv

/-
  The session is in order in every state of a run and torn
  down by every `detach` and `kill` that succeeds, exactly
  if none of them goes through.
-/
theorem session_iff
    (hIds : ThreadIdsNonneg κ)
    (memory : κ → Memory)
    (k : κ)
    (ops : List Op) :
    ((∀ ops', ops' <+: ops →
        SessionFields
          (run (step dump) ops' (Session.start k)).core) ∧
      Along (step dump) (fun s op => TornDown memory op s) ops
        (Session.start k)) ↔
      Along (step dump) (fun s op => KeepsSession op s) ops
        (Session.start k) := by
  constructor
  · rintro ⟨-, hTornDown⟩
    have hStep :
        ∀ (s : Session κ) (op : Op),
          SessionInvariant s.core →
            TornDown memory op s →
              KeepsSession op s ∧
                SessionInvariant (step dump op s).core := by
      intro s op hInv hHere
      have hKeeps := keeps_of_tornDown hInv hHere
      exact ⟨hKeeps, step_invariant dump hIds s op hInv hKeeps⟩
    exact along_of_invariant hStep sessionInvariant_init
      hTornDown
  · intro hKeeps
    refine ⟨fun ops' hPrefix => ?_, ?_⟩
    · rcases hPrefix with ⟨rest, rfl⟩
      exact (run_induction (step_invariant dump hIds)
        sessionInvariant_init hKeeps.of_append).fields
    · exact hKeeps.mono fun s op hHere =>
        tornDown_of_keeps memory hHere

/- The main thread is attached to, and a pause is asked for. -/
theorem session_iff_attached :
    let k := SimulatedTarget.fresh []
    let ops : List Op := [.attach 7, .switchThread 7, .pause]
    ((∀ ops', ops' <+: ops →
        SessionFields
          (run (step fun _ => []) ops'
            (Session.start k)).core) ∧
      Along (step fun _ => [])
        (fun s op => TornDown SimulatedTarget.memory op s) ops
        (Session.start k)) := by
  intro k ops
  exact (session_iff (fun _ => [])
    SimulatedTarget.threadIdsNonneg SimulatedTarget.memory k
      ops).mpr ⟨trivial, trivial, trivial, trivial⟩

/-
  With a software breakpoint set, `detach` leaves the
  session and the patched word behind, and `kill` the
  current thread and the breakpoint.
-/
theorem left_behind :
    let k := SimulatedTarget.fresh []
    let ops : List Op :=
      [.attach 7, .setBreakpoint .software 0x1000]
    let s := run (step fun _ => []) ops (Session.start k)
    let detached := s.core.detach s.world
    let killed := s.core.kill s.world
    (detached.result.isSuccess = true ∧
      detached.object.pid = 7 ∧
      detached.object.tids = [7] ∧
      detached.object.currentTid = 7 ∧
      detached.object.breakpointManager.breakpoints ≠ ∅ ∧
      word detached.world.memory 0x1000 =
        Breakpoint.BRK_OPCODE ∧
      word k.memory 0x1000 ≠ Breakpoint.BRK_OPCODE) ∧
    (killed.result.isSuccess = true ∧
      killed.object.tids = [] ∧
      killed.object.currentTid = 7 ∧
      killed.object.breakpointManager.breakpoints ≠ ∅) ∧
    ¬ Along (step fun _ => [])
        (fun s op => TornDown SimulatedTarget.memory op s)
        (ops ++ [.detach]) (Session.start k) ∧
      ¬ Along (step fun _ => [])
        (fun s op => TornDown SimulatedTarget.memory op s)
        (ops ++ [.kill]) (Session.start k) := by
  intro k ops s detached killed
  refine ⟨by decide +kernel, by decide +kernel, ?_, ?_⟩
  · intro hTornDown
    have hPid :=
      (hTornDown.at_step (show detached.result.isSuccess = true
        by decide +kernel)).1.pid
    exact absurd hPid (by decide +kernel)
  · intro hTornDown
    have hTid :=
      (hTornDown.at_step (show killed.result.isSuccess = true
        by decide +kernel)).currentTid
    exact absurd hTid (by decide +kernel)

end DebuggerCore

end AnDbg
