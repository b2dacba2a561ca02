import AnDbg.Core.Kernel
import AnDbg.Core.Laws

/-
  A target that runs inside the model.

  Memory and registers are kept as they are written, every
  call for a thread id below one fails, and a script says of
  the calls to come which ones are refused; when it has run
  out, all succeed.  The laws of the world hold of it, so
  the results on the debugger can be tried out on it.

  Main declarations:
    * `AnDbg.SimulatedTarget`
    * `AnDbg.SimulatedTarget.memoryLaws` and
      `AnDbg.SimulatedTarget.exactAccess`
    * `AnDbg.SimulatedTarget.registerLaws`
-/

------------------------------------------------------------
-- The Target
------------------------------------------------------------

namespace AnDbg

/- What the target holds, and the script of its answers. -/
structure SimulatedTarget where
  memory : Memory
  registers : (type : RegisterType) → Pid → type.Data
  threads : List Pid
  states : Pid → ProcessState
  traced : Finset Pid
  script : List Bool

namespace SimulatedTarget

open ByteMemory

/- Whether the next call, made for a thread, goes through. -/
def grants
    (t : SimulatedTarget)
    (tid : Pid) : Bool :=
  t.script.headD true && decide (1 ≤ tid)

/- The script after one call. -/
def advance (t : SimulatedTarget) : SimulatedTarget :=
  { t with script := t.script.tail }

instance : MemoryControl SimulatedTarget where
  readMemory tid address buffer t :=
    (t.grants tid,
      if t.grants tid then read t.memory address buffer.length
      else buffer,
      t.advance)
  writeMemory tid address buffer t :=
    (t.grants tid,
      if t.grants tid then
        { t.advance with
          memory := write t.memory address buffer }
      else t.advance)

instance : Regset SimulatedTarget where
  getRegset type tid t :=
    (if t.grants tid then some (t.registers type tid) else none,
      t.advance)
  setRegset type tid data t :=
    (t.grants tid,
      if t.grants tid then
        { t.advance with
          registers :=
            Function.update t.registers type
              (Function.update (t.registers type) tid data) }
      else t.advance)

instance : Kernel SimulatedTarget where
  ptrace request tid t :=
    (t.grants tid,
      if t.grants tid then
        match request with
        | .attach =>
          { t.advance with traced := insert tid t.traced }
        | .detach =>
          { t.advance with traced := t.traced.erase tid }
        | .setOptions => t.advance
        | .cont =>
          { t.advance with
            states := Function.update t.states tid .running }
        | .singlestep => t.advance
      else t.advance)
  waitpid tid t :=
    if t.grants tid then
      ((tid, 0x137f),
        { t.advance with
          states :=
            Function.update t.states tid .tracingStop })
    else
      ((-1, 0), t.advance)
  kill pid _ t := (if t.grants pid then 0 else -1, t.advance)
  getThreadIds _ t :=
    (t.threads.filter fun tid => decide (0 ≤ tid), t)
  getProcessState tid t := (t.states tid, t)
  sleepFor _ t := t
  errno _ := 3
  strerror _ _ := ascii "No such process"

/- The registers in the order of their enumeration. -/
def allRegisters : List DBRegister :=
  (List.range 19).map DBRegister.ofNat

theorem mem_allRegisters
    (reg : DBRegister) :
    reg ∈ allRegisters := by
  cases reg with
  | dbg i => revert i; decide
  | dbgInfo => decide
  | maxRegisters => decide
  | invalid => decide

/- The first register of a set in that order. -/
def firstOf (s : Finset DBRegister) : DBRegister :=
  (allRegisters.find? (fun reg => reg ∈ s)).getD .invalid

theorem firstOf_mem
    {s : Finset DBRegister}
    (hNonempty : s.Nonempty) :
    firstOf s ∈ s := by
  rcases hNonempty with ⟨reg, hMem⟩
  rw [firstOf]
  cases hFind : allRegisters.find? (fun reg => reg ∈ s) with
  | none =>
      have hNone := List.find?_eq_none.mp hFind reg
        (mem_allRegisters reg)
      exact absurd (decide_eq_true hMem) hNone
  | some found =>
      have hFound := List.find?_some hFind
      exact of_decide_eq_true hFound

instance : HashOrder SimulatedTarget DBRegister where
  first s _ := firstOf s
  first_mem _ _ hNonempty := firstOf_mem hNonempty

end SimulatedTarget

end AnDbg

------------------------------------------------------------
-- Its Laws
------------------------------------------------------------

namespace AnDbg

namespace SimulatedTarget

theorem one_le_of_grants
    {t : SimulatedTarget}
    {tid : Pid}
    (hGrants : t.grants tid = true) :
    1 ≤ tid := by
  rw [grants, Bool.and_eq_true] at hGrants
  exact of_decide_eq_true hGrants.2

theorem grants_of_lt
    (t : SimulatedTarget)
    {tid : Pid}
    (hTid : tid < 1) :
    t.grants tid = false := by
  by_contra hGrants
  rw [Bool.not_eq_false] at hGrants
  exact absurd hTid (Int.not_lt.mpr (one_le_of_grants hGrants))

/- The memory of the debug registers of every thread. -/
def debugRegisters
    (t : SimulatedTarget) : Pid → UserHwdebugState :=
  t.registers .dbg

theorem memoryLaws : MemoryLaws SimulatedTarget.memory where
  read_memory _ _ hRead := by
    cases hRead
    rfl
  read_true {tid _ _ _ t _} _ hLength hRead := by
    rcases Prod.mk.inj hRead with ⟨hGrants, hRest⟩
    rw [if_pos hGrants, hLength] at hRest
    exact ⟨one_le_of_grants hGrants,
      (congrArg Prod.fst hRest).symm⟩
  write_true {tid _ _ t _} _ _ hWrite := by
    rcases Prod.mk.inj hWrite with ⟨hGrants, hWorld⟩
    rw [if_pos hGrants] at hWorld
    subst hWorld
    exact ⟨one_le_of_grants hGrants, rfl⟩
  write_false {tid _ _ t _} _ _ hWrite := by
    rcases Prod.mk.inj hWrite with ⟨hGrants, hWorld⟩
    rw [hGrants, if_neg Bool.false_ne_true] at hWorld
    subst hWorld
    rfl
  getRegset hGet := by
    cases hGet
    rfl
  setRegset hSet := by
    cases hSet
    split <;> rfl

theorem exactAccess : ExactAccess SimulatedTarget.memory where
  read_true {tid _ _ _ t _} hLength hRead := by
    rcases Prod.mk.inj hRead with ⟨hGrants, hRest⟩
    rw [if_pos hGrants, hLength] at hRest
    rcases Prod.mk.inj hRest with ⟨hBytes, hWorld⟩
    subst hWorld
    exact ⟨hBytes.symm, rfl⟩
  write_true {tid _ _ t _} hWrite := by
    rcases Prod.mk.inj hWrite with ⟨hGrants, hWorld⟩
    rw [if_pos hGrants] at hWorld
    subst hWorld
    rfl

theorem registerLaws :
    RegisterLaws SimulatedTarget.debugRegisters where
  get_some {tid _ t _} hGet := by
    have hFound := congrArg Prod.fst hGet
    change (if t.grants tid then _ else _) = some _ at hFound
    split at hFound
    next => exact (Option.some.inj hFound).symm
    next => cases hFound
  get_debug hGet := by
    cases hGet
    rfl
  set_true {tid _ t _} hSet := by
    rcases Prod.mk.inj hSet with ⟨hGrants, hWorld⟩
    rw [if_pos hGrants] at hWorld
    subst hWorld
    simp only [debugRegisters, Function.update_self]
    rfl
  set_false {tid _ t _} hSet := by
    rcases Prod.mk.inj hSet with ⟨hGrants, hWorld⟩
    rw [hGrants, if_neg Bool.false_ne_true] at hWorld
    subst hWorld
    rfl
  readMemory hRead := by
    cases hRead
    rfl
  writeMemory hWrite := by
    cases hWrite
    split <;> rfl

/- Thread ids are nonnegative. -/
theorem threadIdsNonneg : ThreadIdsNonneg SimulatedTarget where
  getThreadIds _ _ _ hMem :=
    of_decide_eq_true (List.mem_filter.mp hMem).2

theorem regsetNeedsTid : RegsetNeedsTid SimulatedTarget where
  getRegset type tid t hTid := by
    change (if t.grants tid then _ else _) = none
    rw [if_neg (by simp [grants_of_lt t hTid])]
  setRegset type tid data t hTid := grants_of_lt t hTid

/-
  A target of one thread that nothing was done to, which
  answers as the script says.
-/
def fresh (script : List Bool) : SimulatedTarget where
  memory _ := 0
  registers
    | .gpr, _ => ⟨fun _ => 0, 0, 0, 0⟩
    | .fpr, _ => ⟨fun _ => 0, 0, 0⟩
    | .dbg, _ => ⟨0, fun _ => ⟨0, 0⟩⟩
  threads := [7]
  states _ := .running
  traced := ∅
  script := script

end SimulatedTarget

end AnDbg
