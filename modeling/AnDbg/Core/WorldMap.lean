import AnDbg.Core.Kernel
import AnDbg.Core.Laws

/-
  Maps between worlds that every call respects.

  A world may hold more than another one, such as a record
  of the answers that were given.  If forgetting the rest
  commutes with every call, it commutes with whatever is
  made of the calls, so nothing that is done in the larger
  world differs from what is done in the smaller one.

  Main declarations:
    * `AnDbg.Outcome.mapWorld`
    * `AnDbg.MapsMemory`, `AnDbg.MapsRegset` and
      `AnDbg.MapsKernel`
    * `AnDbg.MapsRegset.getGpr`, `getDbg` and `setDbg`
    * `AnDbg.MapsMemory.memoryLaws` and
      `AnDbg.MapsMemory.registerLaws`
-/

------------------------------------------------------------
-- Maps
------------------------------------------------------------

namespace AnDbg

variable {κ κ' σ α : Type}

/- An outcome with its world seen through a map. -/
def Outcome.mapWorld
    (f : κ' → κ)
    (done : Outcome σ κ' α) : Outcome σ κ α :=
  ⟨done.result, done.object, f done.world⟩

/- Memory accesses commute with the map. -/
structure MapsMemory
    [MemoryControl κ']
    [MemoryControl κ]
    (f : κ' → κ) : Prop where
  readMemory :
    ∀ pid address buffer k,
      MemoryControl.readMemory pid address buffer (f k) =
        let answer :=
          MemoryControl.readMemory pid address buffer k
        (answer.1, answer.2.1, f answer.2.2)
  writeMemory :
    ∀ pid address buffer k,
      MemoryControl.writeMemory pid address buffer (f k) =
        let answer :=
          MemoryControl.writeMemory pid address buffer k
        (answer.1, f answer.2)

/- Accesses to register sets commute with the map. -/
structure MapsRegset
    [Regset κ']
    [Regset κ]
    (f : κ' → κ) : Prop where
  getRegset :
    ∀ type tid k,
      Regset.getRegset type tid (f k) =
        let answer := Regset.getRegset type tid k
        (answer.1, f answer.2)
  setRegset :
    ∀ type tid data k,
      Regset.setRegset type tid data (f k) =
        let answer := Regset.setRegset type tid data k
        (answer.1, f answer.2)

/- Sets are walked in the same order on both sides. -/
structure MapsHashOrder
    (ρ : Type)
    [HashOrder κ' ρ]
    [HashOrder κ ρ]
    (f : κ' → κ) : Prop where
  first :
    ∀ (s : Finset ρ) k,
      HashOrder.first s (f k) = HashOrder.first s k

/- The calls that control a thread commute with the map. -/
structure MapsKernel
    [Kernel κ']
    [Kernel κ]
    (f : κ' → κ) : Prop where
  ptrace :
    ∀ request pid k,
      Kernel.ptrace request pid (f k) =
        let answer := Kernel.ptrace request pid k
        (answer.1, f answer.2)
  waitpid :
    ∀ pid k,
      Kernel.waitpid pid (f k) =
        let answer := Kernel.waitpid pid k
        (answer.1, f answer.2)
  errno :
    ∀ k, Kernel.errno (f k) = Kernel.errno k
  strerror :
    ∀ n k, Kernel.strerror n (f k) = Kernel.strerror n k

end AnDbg

------------------------------------------------------------
-- Single Registers
------------------------------------------------------------

namespace AnDbg

namespace MapsRegset

open RegisterControl

variable {κ κ' : Type}
variable [Regset κ'] [Regset κ]
variable {f : κ' → κ}

theorem getAllDbg
    (hRegset : MapsRegset f)
    (tid : Pid)
    (k : κ') :
    RegisterControl.getAllDbg tid (f k) =
      ((RegisterControl.getAllDbg tid k).1,
        f (RegisterControl.getAllDbg tid k).2) :=
  hRegset.getRegset .dbg tid k

theorem setAllDbg
    (hRegset : MapsRegset f)
    (tid : Pid)
    (dbg : UserHwdebugState)
    (k : κ') :
    RegisterControl.setAllDbg tid dbg (f k) =
      ((RegisterControl.setAllDbg tid dbg k).1,
        f (RegisterControl.setAllDbg tid dbg k).2) :=
  hRegset.setRegset .dbg tid dbg k

theorem getGpr
    (hRegset : MapsRegset f)
    (tid : Pid)
    (reg : GPRegister)
    (k : κ') :
    RegisterControl.getGpr tid reg (f k) =
      ((RegisterControl.getGpr tid reg k).1,
        f (RegisterControl.getGpr tid reg k).2) := by
  unfold RegisterControl.getGpr getAllGpr
  rw [hRegset.getRegset]
  rcases Regset.getRegset .gpr tid k with ⟨_ | gpr, k₁⟩
  · rfl
  · rfl

theorem getDbg
    (hRegset : MapsRegset f)
    (tid : Pid)
    (reg : DBRegister)
    (k : κ') :
    RegisterControl.getDbg tid reg (f k) =
      ((RegisterControl.getDbg tid reg k).1,
        f (RegisterControl.getDbg tid reg k).2) := by
  unfold RegisterControl.getDbg
  rw [hRegset.getAllDbg]
  rcases RegisterControl.getAllDbg tid k with ⟨_ | dbg, k₁⟩
  · rfl
  · rfl

theorem setDbg
    (hRegset : MapsRegset f)
    (tid : Pid)
    (reg : DBRegister)
    (value : BitVec 64 × BitVec 32)
    (k : κ') :
    RegisterControl.setDbg tid reg value (f k) =
      ((RegisterControl.setDbg tid reg value k).1,
        f (RegisterControl.setDbg tid reg value k).2) := by
  unfold RegisterControl.setDbg
  rw [hRegset.getAllDbg]
  rcases RegisterControl.getAllDbg tid k with ⟨_ | dbg, k₁⟩
  · rfl
  dsimp only
  rcases getDbgPointer reg with _ | pointer
  · rfl
  · exact hRegset.setAllDbg tid (pointer.store dbg value) k₁

end MapsRegset

end AnDbg

------------------------------------------------------------
-- Laws
------------------------------------------------------------

namespace AnDbg

namespace MapsMemory

variable {κ κ' : Type}
variable [MemoryControl κ'] [MemoryControl κ]
variable [Regset κ'] [Regset κ]
variable {f : κ' → κ}

/- What is laid down for one world holds in the other. -/
theorem memoryLaws
    {memory : κ → Memory}
    (hMemory : MapsMemory f)
    (hRegset : MapsRegset f)
    (hLaws : MemoryLaws memory) :
    MemoryLaws fun k => memory (f k) where
  read_memory {tid address buffer _ _ k _} hAligned hLength
      hRead := by
    have hHere := hMemory.readMemory tid address buffer k
    rw [hRead] at hHere
    exact hLaws.read_memory hAligned hLength hHere
  read_true {tid address buffer _ k _} hAligned hLength
      hRead := by
    have hHere := hMemory.readMemory tid address buffer k
    rw [hRead] at hHere
    exact hLaws.read_true hAligned hLength hHere
  write_true {tid address buffer k _} hAligned hLength
      hWrite := by
    have hHere := hMemory.writeMemory tid address buffer k
    rw [hWrite] at hHere
    exact hLaws.write_true hAligned hLength hHere
  write_false {tid address buffer k _} hAligned hLength
      hWrite := by
    have hHere := hMemory.writeMemory tid address buffer k
    rw [hWrite] at hHere
    exact hLaws.write_false hAligned hLength hHere
  getRegset {type tid _ k _} hGet := by
    have hHere := hRegset.getRegset type tid k
    rw [hGet] at hHere
    exact hLaws.getRegset hHere
  setRegset {type tid data _ k _} hSet := by
    have hHere := hRegset.setRegset type tid data k
    rw [hSet] at hHere
    exact hLaws.setRegset hHere

theorem registerLaws
    {debug : κ → Pid → UserHwdebugState}
    (hMemory : MapsMemory f)
    (hRegset : MapsRegset f)
    (hLaws : RegisterLaws debug) :
    RegisterLaws fun k => debug (f k) where
  get_some {tid _ k _} hGet := by
    have hHere := hRegset.getRegset .dbg tid k
    rw [hGet] at hHere
    exact hLaws.get_some hHere
  get_debug {tid _ k _} hGet := by
    have hHere := hRegset.getRegset .dbg tid k
    rw [hGet] at hHere
    exact hLaws.get_debug hHere
  set_true {tid dbg k _} hSet := by
    have hHere := hRegset.setRegset .dbg tid dbg k
    rw [hSet] at hHere
    exact hLaws.set_true hHere
  set_false {tid dbg k _} hSet := by
    have hHere := hRegset.setRegset .dbg tid dbg k
    rw [hSet] at hHere
    exact hLaws.set_false hHere
  readMemory {tid address buffer _ _ k _} hRead := by
    have hHere := hMemory.readMemory tid address buffer k
    rw [hRead] at hHere
    exact hLaws.readMemory hHere
  writeMemory {tid address buffer _ k _} hWrite := by
    have hHere := hMemory.writeMemory tid address buffer k
    rw [hWrite] at hHere
    exact hLaws.writeMemory hHere

end MapsMemory

end AnDbg
