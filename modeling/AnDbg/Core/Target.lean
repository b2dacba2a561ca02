import AnDbg.Base.Status
import AnDbg.Lib.ByteMemory
import Mathlib.Data.Finset.Basic

/-
  What the debugger asks of the world it runs in.

  The state `κ` of the world holds the kernel, the target
  and whatever else the program leaves open: which call
  fails, what a failed call leaves in a buffer, and in what
  order an unordered container is walked.  Every call takes
  the state of the world and returns the next one, so one
  state fixes the whole pattern of answers of a run.

  Main declarations:
    * `AnDbg.Outcome`
    * `AnDbg.MemoryControl`
    * `AnDbg.RegisterType.Data` and `AnDbg.Regset`
    * `AnDbg.HashOrder`
-/

------------------------------------------------------------
-- Identifiers And Words
------------------------------------------------------------

namespace AnDbg

/- `pid_t`. -/
abbrev Pid := Int

/- An address of the target, a `uint64_t`. -/
abbrev Addr := BitVec 64

/- An instruction word, a `uint32_t`. -/
abbrev Word := BitVec 32

/- The memory of the target. -/
abbrev Memory := ByteMemory.Memory 64

/- The instruction word at an address. -/
def word (m : Memory) (a : Addr) : Word :=
  LittleEndian.decode 32 (ByteMemory.read m a 4)

end AnDbg

------------------------------------------------------------
-- Register Sets
------------------------------------------------------------

namespace AnDbg

/- `struct user_pt_regs`. -/
structure UserPtRegs where
  regs : Fin 31 → BitVec 64
  sp : BitVec 64
  pc : BitVec 64
  pstate : BitVec 64

/- `struct user_fpsimd_state`. -/
structure UserFpsimdState where
  vregs : Fin 32 → BitVec 128
  fpsr : BitVec 32
  fpcr : BitVec 32

/- One debug register of `struct user_hwdebug_state`. -/
structure DbgReg where
  addr : BitVec 64
  ctrl : BitVec 32
deriving DecidableEq

/- `struct user_hwdebug_state`. -/
structure UserHwdebugState where
  dbgInfo : BitVec 32
  dbgRegs : Fin 16 → DbgReg

/- The register sets the debugger asks for. -/
inductive RegisterType
  | gpr
  | fpr
  | dbg
deriving DecidableEq

/- The structure that holds a register set. -/
def RegisterType.Data : RegisterType → Type
| .gpr => UserPtRegs
| .fpr => UserFpsimdState
| .dbg => UserHwdebugState

end AnDbg

------------------------------------------------------------
-- Calls Into The World
------------------------------------------------------------

namespace AnDbg

/-
  What a method returns, with the object and the world that
  it leaves behind.
-/
structure Outcome (σ κ α : Type) where
  result : α
  object : σ
  world : κ

/-
  `read_memory` fills a buffer and says whether all of it
  was read; `write_memory` says whether all of the buffer
  was written.
-/
class MemoryControl (κ : Type) where
  readMemory (pid : Pid) (address : Addr)
    (buffer : List Byte) : κ → Bool × List Byte × κ
  writeMemory (pid : Pid) (address : Addr)
    (buffer : List Byte) : κ → Bool × κ

/- `PTRACE_GETREGSET` and `PTRACE_SETREGSET`. -/
class Regset (κ : Type) where
  getRegset (type : RegisterType) (tid : Pid) :
    κ → Option type.Data × κ
  setRegset (type : RegisterType) (tid : Pid)
    (data : type.Data) : κ → Bool × κ

/-
  The element that `begin()` of an unordered set denotes:
  some element of the set, which one is left open.
-/
class HashOrder (κ ρ : Type) where
  first : Finset ρ → κ → ρ
  first_mem :
    ∀ (s : Finset ρ) (k : κ), s.Nonempty → first s k ∈ s

end AnDbg
