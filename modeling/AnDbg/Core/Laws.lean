import AnDbg.Core.RegisterControl

/-
  What the results of the breakpoint manager rest on about
  the calls into the world.

  Every law is a hypothesis on the calls: a world is
  observed through its memory or its debug registers, and a
  call that succeeds does exactly what it says while one
  that fails does nothing.  Nothing is said about which
  calls fail.

  Main declarations:
    * `AnDbg.MemoryLaws` and `AnDbg.ExactAccess`
    * `AnDbg.RegisterLaws`
    * `AnDbg.RegsetNeedsTid`
    * `AnDbg.aligned_iff`
-/

------------------------------------------------------------
-- Memory
------------------------------------------------------------

namespace AnDbg

open ByteMemory MemoryControl Regset

/- An address whose two low bits are clear is aligned. -/
theorem aligned_iff
    {address : Addr} :
    address &&& 0x3 = 0 ↔ Aligned 4 address := by
  have hLow : (address &&& 0x3).toNat = address.toNat % 4 := by
    rw [BitVec.toNat_and]
    exact Nat.and_two_pow_sub_one_eq_mod address.toNat 2
  rw [Aligned, ← hLow, ← BitVec.toNat_inj]
  rfl

/-
  Aligned accesses of four bytes transfer exactly these
  bytes or report a failure and change nothing.
-/
structure MemoryLaws
    {κ : Type}
    [MemoryControl κ]
    [Regset κ]
    (memory : κ → Memory) : Prop where
  read_memory :
    ∀ {tid address buffer done bytes k k'},
      Aligned 4 address → buffer.length = 4 →
      readMemory tid address buffer k = (done, bytes, k') →
      memory k' = memory k
  read_true :
    ∀ {tid address buffer bytes k k'},
      Aligned 4 address → buffer.length = 4 →
      readMemory tid address buffer k = (true, bytes, k') →
      1 ≤ tid ∧ bytes = read (memory k) address 4
  write_true :
    ∀ {tid address buffer k k'},
      Aligned 4 address → buffer.length = 4 →
      writeMemory tid address buffer k = (true, k') →
      1 ≤ tid ∧ memory k' = write (memory k) address buffer
  write_false :
    ∀ {tid address buffer k k'},
      Aligned 4 address → buffer.length = 4 →
      writeMemory tid address buffer k = (false, k') →
      memory k' = memory k
  getRegset :
    ∀ {type tid found k k'},
      getRegset type tid k = (found, k') →
      memory k' = memory k
  setRegset :
    ∀ {type tid data done k k'},
      setRegset type tid data k = (done, k') →
      memory k' = memory k

/- Reading a general register leaves memory alone. -/
theorem MemoryLaws.getGpr
    {κ : Type}
    [MemoryControl κ]
    [Regset κ]
    {memory : κ → Memory}
    (hLaws : MemoryLaws memory)
    {tid : Pid}
    {reg : GPRegister}
    {found : Option (BitVec 64)}
    {k k' : κ}
    (hGet : RegisterControl.getGpr tid reg k = (found, k')) :
    memory k' = memory k := by
  rcases RegisterControl.getGpr_cases hGet with ⟨all, hAll, -⟩
  exact hLaws.getRegset hAll

/- Reading memory, at any address, changes none of it. -/
structure ReadsKeepMemory
    {κ : Type}
    [MemoryControl κ]
    (memory : κ → Memory) : Prop where
  readMemory :
    ∀ {pid address buffer done bytes k k'},
      readMemory pid address buffer k = (done, bytes, k') →
      memory k' = memory k

/-
  A word that is read is the one in memory, and a write that
  succeeds stores exactly its bytes, however many.
-/
structure ExactAccess
    {κ : Type}
    [MemoryControl κ]
    (memory : κ → Memory) : Prop where
  read_true :
    ∀ {pid address buffer bytes k k'},
      buffer.length = 4 →
      readMemory pid address buffer k = (true, bytes, k') →
      bytes = read (memory k) address 4 ∧
        memory k' = memory k
  write_true :
    ∀ {pid address buffer k k'},
      writeMemory pid address buffer k = (true, k') →
      memory k' = write (memory k) address buffer

end AnDbg

------------------------------------------------------------
-- Debug Registers
------------------------------------------------------------

namespace AnDbg

open MemoryControl Regset

/-
  Reading the debug registers of a thread yields them, a
  write that succeeds stores what was given, and nothing
  else changes any of them.
-/
structure RegisterLaws
    {κ : Type}
    [MemoryControl κ]
    [Regset κ]
    (debug : κ → Pid → UserHwdebugState) : Prop where
  get_some :
    ∀ {tid dbg k k'},
      getRegset .dbg tid k = (some dbg, k') →
      dbg = debug k tid
  get_debug :
    ∀ {tid found k k'},
      getRegset .dbg tid k = (found, k') →
      debug k' = debug k
  set_true :
    ∀ {tid} {dbg : UserHwdebugState} {k k'},
      setRegset .dbg tid dbg k = (true, k') →
      debug k' = Function.update (debug k) tid dbg
  set_false :
    ∀ {tid} {dbg : UserHwdebugState} {k k'},
      setRegset .dbg tid dbg k = (false, k') →
      debug k' = debug k
  readMemory :
    ∀ {tid address buffer done bytes k k'},
      readMemory tid address buffer k = (done, bytes, k') →
      debug k' = debug k
  writeMemory :
    ∀ {tid address buffer done k k'},
      writeMemory tid address buffer k = (done, k') →
      debug k' = debug k

/- Register calls for a thread id below one fail. -/
structure RegsetNeedsTid
    (κ : Type)
    [Regset κ] : Prop where
  getRegset :
    ∀ type tid (k : κ), tid < 1 →
      (getRegset type tid k).1 = none
  setRegset :
    ∀ type tid data (k : κ), tid < 1 →
      (setRegset type tid data k).1 = false

/- Memory accesses for a thread id below one fail. -/
structure AccessNeedsTid
    (κ : Type)
    [MemoryControl κ] : Prop where
  readMemory :
    ∀ tid address buffer (k : κ), tid < 1 →
      (readMemory tid address buffer k).1 = false
  writeMemory :
    ∀ tid address buffer (k : κ), tid < 1 →
      (writeMemory tid address buffer k).1 = false

namespace RegisterControl

variable {κ : Type}
variable [Regset κ]

/- A debug register is only ever set for a thread id. -/
theorem one_le_of_setDbg
    (hCalls : RegsetNeedsTid κ)
    {tid : Pid}
    {reg : DBRegister}
    {value : BitVec 64 × BitVec 32}
    {k k' : κ}
    (hSet : setDbg tid reg value k = (true, k')) :
    1 ≤ tid := by
  by_contra hTid
  have hGet : (getAllDbg tid k).1 = none :=
    hCalls.getRegset .dbg tid k (Int.not_le.mp hTid)
  rcases setDbg_cases hSet with
    ⟨hDone, -⟩ | ⟨dbg, pointer, k₁, hAll, -, -⟩
  · cases hDone
  · rw [hAll] at hGet
    cases hGet

end RegisterControl

end AnDbg
