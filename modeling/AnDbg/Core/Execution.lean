import AnDbg.Core.BreakpointManager.Model
import AnDbg.Core.Laws
import AnDbg.Core.SimulatedTarget

/-
  A thread that executes the words of its memory.

  What an instruction does is left open: it is a function of
  its word, its address and the data, which stand for the
  registers and for all memory that holds no code.  Only the
  breakpoint instruction is known: it stops the thread where
  it is.

  Main declarations:
    * `AnDbg.Thread` and `AnDbg.Thread.tick`
    * `AnDbg.ExecutionLaws`
-/

------------------------------------------------------------
-- The Thread
------------------------------------------------------------

namespace AnDbg

/- An address that an instruction can lie at. -/
abbrev CodeAddr := { address : Addr // address &&& 0x3 = 0 }

/- What each instruction does to the pc and to the data. -/
abbrev Execute (δ : Type) :=
  Word → CodeAddr → δ → CodeAddr × δ

/-
  A thread with its code, whether it is in a tracing stop,
  and the instructions it has executed so far.
-/
structure Thread (δ : Type) where
  memory : Memory
  pc : CodeAddr
  data : δ
  stopped : Bool
  executed : List (CodeAddr × Word)

namespace Thread

variable {δ : Type}

/- The word that the thread fetches next. -/
def instruction (t : Thread δ) : Word :=
  word t.memory t.pc

/- One instruction of a thread that is not stopped. -/
def tick
    (execute : Execute δ)
    (t : Thread δ) : Thread δ :=
  if t.stopped then
    t
  else if t.instruction = Breakpoint.BRK_OPCODE then
    { t with stopped := true }
  else
    let (pc, data) := execute t.instruction t.pc t.data
    { t with
      pc := pc
      data := data
      executed := t.executed ++ [(t.pc, t.instruction)] }

/- The thread after PTRACE_CONT. -/
def continued (t : Thread δ) : Thread δ :=
  { t with stopped := false }

variable {execute : Execute δ} {t : Thread δ}

theorem tick_of_stopped
    (hStopped : t.stopped = true) :
    t.tick execute = t := by
  rw [tick, if_pos hStopped]

theorem tick_of_brk
    (hRunning : t.stopped = false)
    (hBrk : t.instruction = Breakpoint.BRK_OPCODE) :
    t.tick execute = { t with stopped := true } := by
  rw [tick, hRunning, if_neg Bool.false_ne_true, if_pos hBrk]

theorem tick_of_instruction
    (hRunning : t.stopped = false)
    (hInstruction :
      t.instruction ≠ Breakpoint.BRK_OPCODE) :
    t.tick execute =
      { t with
        pc := (execute t.instruction t.pc t.data).1
        data := (execute t.instruction t.pc t.data).2
        executed :=
          t.executed ++ [(t.pc, t.instruction)] } := by
  rw [tick, hRunning, if_neg Bool.false_ne_true,
    if_neg hInstruction]

/- What was executed stays executed. -/
theorem length_executed_tick
    (execute : Execute δ)
    (t : Thread δ) :
    t.executed.length ≤
      (t.tick execute).executed.length := by
  rw [tick]
  split
  · exact Nat.le_refl _
  · split
    · exact Nat.le_refl _
    · simp

end Thread

end AnDbg

------------------------------------------------------------
-- A World With One Thread
------------------------------------------------------------

namespace AnDbg

open Kernel

/-
  A world in which one thread runs: its state can be asked
  for, PTRACE_CONT makes it go on when it is stopped, and
  `tick` lets it execute one instruction.
-/
structure ExecutionLaws
    {κ δ : Type}
    [Kernel κ]
    (execute : Execute δ)
    (tid : Pid)
    (thread : κ → Thread δ)
    (tick : κ → κ) : Prop where
  state :
    ∀ {state k k'},
      getProcessState tid k = (state, k') →
      (state = .tracingStop ↔ (thread k).stopped = true) ∧
        thread k' = thread k
  cont :
    ∀ {done k k'},
      (thread k).stopped = true →
      ptrace .cont tid k = (done, k') →
      done = true ∧ thread k' = (thread k).continued
  tick :
    ∀ k, thread (tick k) = (thread k).tick execute

namespace Thread

open ByteMemory

variable {δ : Type}

/-
  A thread is such a world by itself, in which no request
  but PTRACE_CONT is known and nothing can be asked of the
  registers.
-/
instance : Kernel (Thread δ) where
  ptrace request _ t :=
    if request = .cont then (true, t.continued) else (false, t)
  waitpid _ t := ((-1, 0), t)
  kill _ _ t := (-1, t)
  getThreadIds pid t := ([pid], t)
  getProcessState _ t :=
    (if t.stopped then .tracingStop else .running, t)
  sleepFor _ t := t
  errno _ := 3
  strerror _ _ := ascii "No such process"

instance : MemoryControl (Thread δ) where
  readMemory tid address buffer t :=
    if 1 ≤ tid then
      (true, read t.memory address buffer.length, t)
    else
      (false, buffer, t)
  writeMemory tid address buffer t :=
    if 1 ≤ tid then
      (true,
        { t with memory := write t.memory address buffer })
    else
      (false, t)

instance : Regset (Thread δ) where
  getRegset _ _ t := (none, t)
  setRegset _ _ _ t := (false, t)

instance : HashOrder (Thread δ) DBRegister where
  first s _ := SimulatedTarget.firstOf s
  first_mem _ _ hNonempty :=
    SimulatedTarget.firstOf_mem hNonempty

theorem executionLaws
    (execute : Execute δ)
    (tid : Pid) :
    ExecutionLaws execute tid (fun t : Thread δ => t)
      (fun t => t.tick execute) where
  state {_ t _} hState := by
    cases hState
    cases t.stopped <;> simp
  cont _ hCont := by
    cases hCont
    exact ⟨rfl, rfl⟩
  tick _ := rfl

theorem memoryLaws :
    MemoryLaws (fun t : Thread δ => t.memory) where
  read_memory {tid _ _ _ _ _ _} _ _ hRead := by
    change (if 1 ≤ tid then _ else _) = _ at hRead
    split at hRead <;> cases hRead <;> rfl
  read_true {tid _ _ _ _ _} _ hLength hRead := by
    change (if 1 ≤ tid then _ else _) = _ at hRead
    split at hRead
    next hTid =>
      cases hRead
      exact ⟨hTid, by rw [hLength]⟩
    next => cases hRead
  write_true {tid _ _ _ _} _ _ hWrite := by
    change (if 1 ≤ tid then _ else _) = _ at hWrite
    split at hWrite
    next hTid =>
      cases hWrite
      exact ⟨hTid, rfl⟩
    next => cases hWrite
  write_false {tid _ _ _ _} _ _ hWrite := by
    change (if 1 ≤ tid then _ else _) = _ at hWrite
    split at hWrite
    next => cases hWrite
    next =>
      cases hWrite
      rfl
  getRegset hGet := by
    cases hGet
    rfl
  setRegset hSet := by
    cases hSet
    rfl

end Thread

end AnDbg
