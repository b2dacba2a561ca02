import AnDbg.Core.BreakpointManager.WrittenImage
import AnDbg.Core.DebuggerCore.Session

/-
  Writes of the user between operations on software
  breakpoints.

  Next to the debugger runs the image that the user has
  written: the memory at the start with the writes of the
  run applied in order.  An operation keeps this image shown
  behind the breakpoints exactly if it is no write into the
  word of an enabled breakpoint and no enabling or removal
  of a disabled one whose saved word has been written over.

  Main declarations:
    * `AnDbg.DebuggerCore.PatchOp`
    * `AnDbg.DebuggerCore.userImage`
    * `AnDbg.DebuggerCore.KeepsUpdates`
    * `AnDbg.DebuggerCore.no_lost_update_iff`
-/

------------------------------------------------------------
-- Operations
------------------------------------------------------------

namespace AnDbg

namespace DebuggerCore

open ByteMemory BreakpointManager Run

/- The operations that write to the memory of the target. -/
inductive PatchOp
  | writeMemory (address : Addr) (buffer : List Byte)
  | setBreakpoint (address : Addr)
  | enableBreakpoint (breakpointId : Int)
  | disableBreakpoint (breakpointId : Int)
  | removeBreakpoint (breakpointId : Int)

/- The operation of the debugger that it is. -/
def PatchOp.toOp : PatchOp → Op
| .writeMemory address buffer => .writeMemory address buffer
| .setBreakpoint address => .setBreakpoint .software address
| .enableBreakpoint id => .enableBreakpoint id
| .disableBreakpoint id => .disableBreakpoint id
| .removeBreakpoint id => .removeBreakpoint id

/- What an operation does to the image of the user. -/
def userWrite : PatchOp → Memory → Memory
| .writeMemory address buffer, image =>
    write image address buffer
| _, image => image

/- A base image with the user's writes applied in order. -/
def userImage
    (base : Memory)
    (ops : List PatchOp) : Memory :=
  run userWrite ops base

/- The operation ends with the status of a success. -/
def Reply.isSuccess : Reply → Bool
| .status s => s.isSuccess
| _ => false

variable {κ : Type}
variable [Kernel κ] [MemoryControl κ] [Regset κ]
variable [HashOrder κ DBRegister]
variable (dump : Json → StdString)

/- One of these operations of the debugger. -/
def patch
    (op : PatchOp)
    (s : Session κ) : Session κ :=
  step dump op.toOp s

/- It succeeds. -/
def Succeeds
    (s : Session κ)
    (op : PatchOp) : Prop :=
  (exec dump op.toOp s).result.isSuccess = true

omit [Kernel κ] [MemoryControl κ] [Regset κ]
  [HashOrder κ DBRegister] in
/-
  No update gets lost by the operation: a write does not
  reach into a breakpoint that stands in memory, and a
  disabled one that is enabled or removed still has its
  saved word in memory.
-/
def KeepsUpdates
    (memory : κ → Memory)
    (s : Session κ) : PatchOp → Prop
| .writeMemory address buffer =>
    SparesPatched address buffer s.core.breakpointManager
| .enableBreakpoint id =>
    SavedIfDisabled id s.core.breakpointManager
      (memory s.world)
| .removeBreakpoint id =>
    SavedIfDisabled id s.core.breakpointManager
      (memory s.world)
| _ => True

end DebuggerCore

end AnDbg

------------------------------------------------------------
-- One Operation
------------------------------------------------------------

namespace AnDbg

namespace DebuggerCore

open ByteMemory BreakpointManager Run

variable {κ : Type}
variable [Kernel κ] [MemoryControl κ] [Regset κ]
variable [HashOrder κ DBRegister]
variable {dump : Json → StdString}
variable {memory : κ → Memory} {image : Memory}
variable {s : Session κ}

omit [Regset κ] [HashOrder κ DBRegister] in
/- A write of the user that succeeds. -/
theorem memory_writeMemory
    (hAccess : ExactAccess memory)
    {address : Addr}
    {buffer : List Byte}
    {c : DebuggerCore}
    {k : κ}
    (hSuccess :
      (c.writeMemory address buffer k).1.isSuccess = true) :
    memory (c.writeMemory address buffer k).2 =
      write (memory k) address buffer := by
  unfold writeMemory at hSuccess ⊢
  split at hSuccess
  next => cases hSuccess
  next hAddress =>
    split at hSuccess
    next => cases hSuccess
    next hBuffer =>
      rw [if_neg hAddress, if_neg hBuffer]
      rcases hWrite :
        MemoryControl.writeMemory c.pid address buffer k with
        ⟨_ | _, k'⟩
      · rw [hWrite] at hSuccess
        cases hSuccess
      · exact hAccess.write_true hWrite

/- An id that was given for a software breakpoint. -/
theorem result_setBreakpoint
    {address : Addr}
    (hSuccess : Succeeds dump s (.setBreakpoint address)) :
    ∃ id, id ≠ -1 ∧
      (s.core.breakpointManager.setSoftwareBreakpoint
        s.core.currentTid address s.world).result = .ok id := by
  have hReply :
      (Reply.ofExcept
        (((s.core.breakpointManager.setSoftwareBreakpoint
          s.core.currentTid address s.world).result.map
            breakpointSet).map Prod.fst)).isSuccess = true :=
    hSuccess
  generalize
    (s.core.breakpointManager.setSoftwareBreakpoint
      s.core.currentTid address s.world).result = result
    at hReply
  cases result with
  | error e => exact absurd hReply Bool.false_ne_true
  | ok id =>
      refine ⟨id, ?_, rfl⟩
      rintro rfl
      exact Bool.false_ne_true hReply

/-
  Where the image shows, an operation that succeeds keeps
  the tables in order, and it keeps the image shown exactly
  if no update gets lost by it.
-/
theorem shownIff_patch
    (hAccess : ExactAccess memory)
    (hShown :
      Shown image s.core.breakpointManager (memory s.world))
    (op : PatchOp)
    (hSuccess : Succeeds dump s op) :
    let s' := patch dump op s
    ShownIff (userWrite op image) s'.core.breakpointManager
      (memory s'.world) (KeepsUpdates memory s op) := by
  intro s'
  let m := s.core.breakpointManager
  cases op with
  | writeMemory address buffer =>
      have hMemory :
          memory s'.world =
            write (memory s.world) address buffer :=
        memory_writeMemory hAccess hSuccess
      refine ⟨hShown.tables, hShown.software, ?_⟩
      rw [hMemory]
      exact showsImage_write_iff hShown.shows address buffer
  | setBreakpoint address =>
      rcases result_setBreakpoint hSuccess with
        ⟨id, hId, hResult⟩
      have hExit :=
        setSoftwareBreakpoint_exit hShown.tables.fresh
          s.core.currentTid address s.world
      rw [hResult] at hExit
      have hAfter := hExit.shown hAccess hShown hId
      exact ⟨hAfter.tables, hAfter.software,
        iff_of_true hAfter.shows trivial⟩
  | enableBreakpoint id =>
      have hExit := enable_exit id m s.world
      have hDone :
          (m.enable id s.world).result.isSuccess = true :=
        hSuccess
      rw [hDone] at hExit
      exact (hExit.shown hAccess hShown).congr
        (imp_iff_right rfl)
  | disableBreakpoint id =>
      have hExit := disable_exit id m s.world
      have hDone :
          (m.disable id s.world).result.isSuccess = true :=
        hSuccess
      rw [hDone] at hExit
      exact (hExit.shown hAccess hShown).congr
        (iff_of_true (fun hOn => Bool.noConfusion hOn) trivial)
  | removeBreakpoint id =>
      have hExit := removeBreakpoint_exit id m s.world
      have hDone :
          (m.removeBreakpoint id s.world).result.isSuccess =
            true := hSuccess
      rw [hDone] at hExit
      exact hExit.shown hAccess hShown

end DebuggerCore

end AnDbg

------------------------------------------------------------
-- Runs
------------------------------------------------------------

namespace AnDbg

namespace DebuggerCore

open BreakpointManager Run

variable {κ : Type}
variable [Kernel κ] [MemoryControl κ] [Regset κ]
variable [HashOrder κ DBRegister]
variable {memory : κ → Memory}

/- An operation on the debugger and on the user's image. -/
def patchBoth
    (dump : Json → StdString)
    (op : PatchOp)
    (p : Session κ × Memory) : Session κ × Memory :=
  (patch dump op p.1, userWrite op p.2)

/-
  In a run of operations that succeed, the image of the user
  shows in every state exactly if every operation keeps the
  updates.
-/
theorem no_lost_update_iff
    (hAccess : ExactAccess memory)
    (dump : Json → StdString)
    (ops : List PatchOp)
    (s : Session κ)
    (hFresh :
      s.core.breakpointManager = BreakpointManager.init)
    (hSuccess : Along (patch dump) (Succeeds dump) ops s) :
    (∀ ops', ops' <+: ops →
        ShowsImage (userImage (memory s.world) ops')
          (run (patch dump) ops' s).core.breakpointManager
          (memory (run (patch dump) ops' s).world)) ↔
      Along (patch dump) (KeepsUpdates memory) ops s := by
  let start : Session κ × Memory := (s, memory s.world)
  let inv (p : Session κ × Memory) : Prop :=
    Shown p.2 p.1.core.breakpointManager (memory p.1.world)
  let goal (p : Session κ × Memory) : Prop :=
    ShowsImage p.2 p.1.core.breakpointManager
      (memory p.1.world)
  have hCore (ops' : List PatchOp) :
      (run (patchBoth dump) ops' start).1 =
        run (patch dump) ops' s :=
    map_run Prod.fst (fun _ _ => rfl) ops' start
  have hImage (ops' : List PatchOp) :
      (run (patchBoth dump) ops' start).2 =
        userImage (memory s.world) ops' :=
    map_run Prod.snd (fun _ _ => rfl) ops' start
  have hStart : inv start := by
    unfold inv start
    rw [hFresh]
    exact shown_init _
  have hKept :
      ∀ p op, inv p → Succeeds dump p.1 op →
        ShownIff (userWrite op p.2)
          (patch dump op p.1).core.breakpointManager
          (memory (patch dump op p.1).world)
          (KeepsUpdates memory p.1 op) :=
    fun p op hInv hDone => shownIff_patch hAccess hInv op hDone
  have hAll :
      (∀ ops', ops' <+: ops →
          goal (run (patchBoth dump) ops' start)) ↔
        Along (patchBoth dump)
          (fun p op => KeepsUpdates memory p.1 op) ops start :=
    forall_prefix_iff_along goal (fun p hInv => hInv.shows)
      (fun p op hInv hDone hKeeps =>
        have hAfter := hKept p op hInv hDone
        ⟨hAfter.tables, hAfter.software,
          hAfter.shows_iff.mpr hKeeps⟩)
      (fun p op hInv hDone =>
        (hKept p op hInv hDone).shows_iff.mp)
      hStart
      ((along_map Prod.fst (fun _ _ => rfl)).mpr hSuccess)
  have hGood :
      Along (patchBoth dump)
          (fun p op => KeepsUpdates memory p.1 op) ops start ↔
        Along (patch dump) (KeepsUpdates memory) ops s :=
    along_map Prod.fst (fun _ _ => rfl)
  rw [← hGood, ← hAll]
  refine forall_congr' fun ops' => forall_congr' fun _ => ?_
  unfold goal
  rw [hCore, hImage]

/- A session with thread 7 and no breakpoints. -/
def simulatedSession : Session SimulatedTarget :=
  ⟨{ init with pid := 7, tids := [7], currentTid := 7 },
    SimulatedTarget.fresh []⟩

/- A breakpoint, and a write of the user next to it. -/
theorem no_lost_update_iff_apart :
    let ops : List PatchOp :=
      [.setBreakpoint 0x1000, .writeMemory 0x1004 [1, 2, 3],
        .disableBreakpoint 1, .enableBreakpoint 1,
        .removeBreakpoint 1]
    let s := simulatedSession
    (∀ ops', ops' <+: ops →
        ShowsImage (userImage s.world.memory ops')
          (run (patch fun _ => []) ops'
            s).core.breakpointManager
          (run (patch fun _ => []) ops' s).world.memory) ↔
      Along (patch fun _ => [])
        (KeepsUpdates SimulatedTarget.memory) ops s :=
  no_lost_update_iff SimulatedTarget.exactAccess (fun _ => [])
    [.setBreakpoint 0x1000, .writeMemory 0x1004 [1, 2, 3],
      .disableBreakpoint 1, .enableBreakpoint 1,
      .removeBreakpoint 1]
    simulatedSession rfl
    ⟨by unfold Succeeds; decide +kernel,
      by unfold Succeeds; decide +kernel,
      by unfold Succeeds; decide +kernel,
      by unfold Succeeds; decide +kernel,
      by unfold Succeeds; decide +kernel, trivial⟩

/-
  A write over a breakpoint disarms it while it is still
  enabled, and disabling it undoes the write.
-/
theorem not_showsImage_over :
    let write : PatchOp := .writeMemory 0x1000 [1, 2, 3, 4]
    let ops : List PatchOp := [.setBreakpoint 0x1000, write]
    let s := simulatedSession
    let overwritten := run (patch fun _ => []) ops s
    let off :=
      patch (fun _ => []) (.disableBreakpoint 1) overwritten
    Along (patch fun _ => []) (Succeeds fun _ => [])
        (ops ++ [.disableBreakpoint 1]) s ∧
      ¬ ShowsImage (userImage s.world.memory ops)
        overwritten.core.breakpointManager
        overwritten.world.memory ∧
      word off.world.memory 0x1000 ≠
        word (userImage s.world.memory ops) 0x1000 := by
  intro write ops s overwritten off
  refine ⟨?_, ?_, by decide +kernel⟩
  · exact ⟨by unfold Succeeds; decide +kernel,
      by unfold Succeeds; decide +kernel,
      by unfold Succeeds; decide +kernel, trivial⟩
  · intro hShows
    have hArmed :=
      hShows.armed 1 (softwareBreakpoint 1 7 0x1000 0)
        (by decide +kernel) ⟨rfl, rfl⟩
    exact absurd hArmed (by decide +kernel)

end DebuggerCore

end AnDbg
