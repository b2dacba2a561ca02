import AnDbg.Core.BreakpointManager.WrittenImage
import AnDbg.Core.Execution

/-
  A thread with a breakpoint instruction in its code.

  As long as it does not come to the instruction, the thread
  goes with the program that has none; where it does, it is
  stopped and stays.

  Main declarations:
    * `AnDbg.Thread.after` and `AnDbg.Thread.Completes`
    * `AnDbg.Thread.trapped_run` and `trapped_stop`
-/

------------------------------------------------------------
-- A Thread With A Trap
------------------------------------------------------------

namespace AnDbg

open ByteMemory LittleEndian

/- The bytes of a breakpoint instruction. -/
def brk : List Byte :=
  encode 4 Breakpoint.BRK_OPCODE

/- A write of a word leaves every other aligned word alone. -/
theorem word_write_of_ne
    {a b : Addr}
    (hAligned : Aligned 4 a)
    (hAligned' : Aligned 4 b)
    (hNe : a ≠ b)
    (m : Memory)
    (v : Word) :
    word (write m b (encode 4 v)) a = word m a := by
  apply (BreakpointManager.word_write_iff rfl).mpr
  intro x hCovers hCovers'
  rw [length_encode] at hCovers'
  exact absurd hCovers'
    (apart_of_aligned hAligned hAligned' (by decide)
      (by decide) hNe x hCovers)

/- Writing the old word back undoes a write. -/
theorem write_write_word
    (m : Memory)
    (a : Addr)
    (v : Word) :
    write (write m a (encode 4 v)) a (encode 4 (word m a)) =
      m := by
  symm
  rw [eq_write_iff (by rw [length_encode]; decide)]
  constructor
  · intro i hi
    rw [length_encode] at hi
    rw [BreakpointManager.encode_word,
      getElem?_read_of_lt m a hi]
  · intro x hOutside
    rw [length_encode] at hOutside
    rw [write_of_not_covers]
    rwa [length_encode]

namespace Thread

variable {δ : Type}

/- The program from where the thread is. -/
def after
    (execute : Execute δ)
    (t : Thread δ)
    (i : Nat) : Thread δ :=
  (tick execute)^[i] t.continued

/- The thread with other code. -/
def withMemory
    (m : Memory)
    (t : Thread δ) : Thread δ :=
  { t with memory := m }

/- The thread with a breakpoint instruction at an address. -/
def trapped
    (address : Addr)
    (t : Thread δ) : Thread δ :=
  t.withMemory (write t.memory address brk)

/-
  The program completes the current instruction, which for a
  call includes the call: after `j` instructions it is for
  the first time no deeper in calls than before.
-/
structure Completes
    (execute : Execute δ)
    (depth : CodeAddr → δ → Int)
    (t : Thread δ)
    (j : Nat) : Prop where
  pos : 0 < j
  runs :
    ∀ i < j,
      (after execute t i).instruction ≠ Breakpoint.BRK_OPCODE
  inside :
    ∀ i, 0 < i → i < j →
      depth t.pc t.data <
        depth (after execute t i).pc (after execute t i).data
  outside :
    depth (after execute t j).pc (after execute t j).data ≤
      depth t.pc t.data

variable {execute : Execute δ} {depth : CodeAddr → δ → Int}
variable {t : Thread δ} {j : Nat}

theorem after_succ
    (execute : Execute δ)
    (t : Thread δ)
    (i : Nat) :
    after execute t (i + 1) =
      (after execute t i).tick execute :=
  Function.iterate_succ_apply' _ _ _

theorem memory_tick
    (execute : Execute δ)
    (t : Thread δ) :
    (t.tick execute).memory = t.memory := by
  unfold tick
  split
  · rfl
  · split
    · rfl
    · rfl

theorem memory_after
    (execute : Execute δ)
    (t : Thread δ)
    (i : Nat) :
    (after execute t i).memory = t.memory := by
  induction i with
  | zero => rfl
  | succ i ih => rw [after_succ, memory_tick, ih]

/- While it executes instructions the program is not stopped. -/
theorem after_running
    {i : Nat}
    (hRuns :
      ∀ l < i,
        (after execute t l).instruction ≠
          Breakpoint.BRK_OPCODE) :
    (after execute t i).stopped = false ∧
      (after execute t i).executed.length =
        t.executed.length + i := by
  induction i with
  | zero => exact ⟨rfl, rfl⟩
  | succ i ih =>
      rcases ih fun l hl => hRuns l (Nat.lt_succ_of_lt hl) with
        ⟨hRunning, hLength⟩
      rw [after_succ, tick_of_instruction hRunning
        (hRuns i (Nat.lt_succ_self i))]
      refine ⟨hRunning, ?_⟩
      rw [List.length_append, hLength]
      rfl

/- There is one end of the instruction. -/
theorem Completes.unique
    {j' : Nat}
    (hDone : Completes execute depth t j)
    (hDone' : Completes execute depth t j') :
    j = j' := by
  rcases Nat.lt_trichotomy j j' with hLt | hEq | hGt
  · exact absurd (hDone'.inside j hDone.pos hLt)
      (Int.not_lt.mpr hDone.outside)
  · exact hEq
  · exact absurd (hDone.inside j' hDone'.pos hGt)
      (Int.not_lt.mpr hDone'.outside)

/- A thread that is stopped stays as it is. -/
theorem iterate_of_stopped
    {m n : Nat}
    (hStopped : ((tick execute)^[m] t).stopped = true)
    (hLe : m ≤ n) :
    (tick execute)^[n] t =
      (tick execute)^[m] t := by
  rcases Nat.exists_eq_add_of_le' hLe with ⟨l, rfl⟩
  rw [Function.iterate_add_apply]
  exact Function.iterate_fixed
    (tick_of_stopped hStopped) l

theorem instruction_trapped_self
    {address : Addr}
    (hPc : (t.pc : Addr) = address) :
    (t.trapped address).instruction = Breakpoint.BRK_OPCODE := by
  subst hPc
  exact BreakpointManager.word_write_self _ _ _

theorem instruction_trapped_of_ne
    {address : Addr}
    (hAligned : Aligned 4 address)
    (hPc : (t.pc : Addr) ≠ address) :
    (t.trapped address).instruction = t.instruction :=
  word_write_of_ne (aligned_iff.mp t.pc.2) hAligned hPc _ _

/-
  Off the trap, the thread goes with the program: after as
  many instructions it differs in its code only.
-/
theorem trapped_run
    {address : Addr}
    {i : Nat}
    (hAligned : Aligned 4 address)
    (hRuns :
      ∀ l < i,
        (after execute t l).instruction ≠
          Breakpoint.BRK_OPCODE)
    (hOff :
      ∀ l < i, ((after execute t l).pc : Addr) ≠ address) :
    after execute (t.trapped address) i =
      (after execute t i).trapped address := by
  induction i with
  | zero => rfl
  | succ i ih =>
      have hBefore := fun l hl =>
        hRuns l (Nat.lt_succ_of_lt hl)
      have hSame := ih hBefore fun l hl =>
        hOff l (Nat.lt_succ_of_lt hl)
      have hRunning := (after_running hBefore).1
      have hHere := hRuns i (Nat.lt_succ_self i)
      have hFetch := instruction_trapped_of_ne hAligned
        (hOff i (Nat.lt_succ_self i))
      have hRunning' :
          ((after execute t i).trapped address).stopped =
            false :=
        hRunning
      rw [after_succ, hSame, after_succ,
        tick_of_instruction hRunning hHere,
        tick_of_instruction hRunning' (hFetch.trans_ne hHere),
        hFetch]
      rfl

/- At the trap the thread stops, and stays. -/
theorem trapped_stop
    {address : Addr}
    {i : Nat}
    (hAligned : Aligned 4 address)
    (hRuns :
      ∀ l < i,
        (after execute t l).instruction ≠
          Breakpoint.BRK_OPCODE)
    (hOff :
      ∀ l < i, ((after execute t l).pc : Addr) ≠ address)
    (hPc : ((after execute t i).pc : Addr) = address)
    (n : Nat)
    (hn : i < n) :
    after execute (t.trapped address) n =
      { (after execute t i).trapped address with
        stopped := true } := by
  induction n with
  | zero => cases hn
  | succ n ih =>
      rw [after_succ]
      rcases Nat.lt_succ_iff_lt_or_eq.mp hn with hLt | hEq
      · rw [ih hLt, tick_of_stopped rfl]
      · subst hEq
        rw [trapped_run hAligned hRuns hOff, tick_of_brk]
        · exact (after_running hRuns).1
        · exact instruction_trapped_self hPc

end Thread

end AnDbg
