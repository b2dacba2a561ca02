import AnDbg.Core.WorldMap

/-
  A world that notes whether a call was refused.

  `Watched κ` answers every call as `κ` does and keeps a flag
  that is cleared by the first call that fails, so that "all
  calls made so far succeed" is a statement on its state.
  What the calls are assumed to do carries over.

  Main declarations:
    * `AnDbg.Watched`
    * `AnDbg.Watched.clean_of_writeMemory` and the like
    * `AnDbg.RegisterControl.clean_of_getDbg` and
      `AnDbg.RegisterControl.clean_of_setDbg`
    * `AnDbg.Watched.memoryLaws` and
      `AnDbg.Watched.registerLaws`
-/

------------------------------------------------------------
-- Watching The Calls
------------------------------------------------------------

namespace AnDbg

/- A world, and whether no call in it has failed. -/
structure Watched (κ : Type) where
  world : κ
  clean : Bool

namespace Watched

variable {κ : Type}

/- A world whose calls are watched from now on. -/
def start (k : κ) : Watched κ := ⟨k, true⟩

instance [MemoryControl κ] : MemoryControl (Watched κ) where
  readMemory tid address buffer k :=
    let answer :=
      MemoryControl.readMemory tid address buffer k.world
    (answer.1, answer.2.1,
      ⟨answer.2.2, k.clean && answer.1⟩)
  writeMemory tid address buffer k :=
    let answer :=
      MemoryControl.writeMemory tid address buffer k.world
    (answer.1, ⟨answer.2, k.clean && answer.1⟩)

instance [Regset κ] : Regset (Watched κ) where
  getRegset type tid k :=
    let answer := Regset.getRegset type tid k.world
    (answer.1, ⟨answer.2, k.clean && answer.1.isSome⟩)
  setRegset type tid data k :=
    let answer := Regset.setRegset type tid data k.world
    (answer.1, ⟨answer.2, k.clean && answer.1⟩)

instance {ρ : Type} [HashOrder κ ρ] :
    HashOrder (Watched κ) ρ where
  first s k := HashOrder.first s k.world
  first_mem s k hNonempty :=
    HashOrder.first_mem s k.world hNonempty

end Watched

end AnDbg

------------------------------------------------------------
-- Clean Calls
------------------------------------------------------------

namespace AnDbg

namespace Watched

open MemoryControl Regset

variable {κ : Type}
variable {k k' : Watched κ}
variable {tid : Pid}

/- A call after which the flag stands went through. -/
theorem clean_of_readMemory
    [MemoryControl κ]
    {address : Addr}
    {buffer bytes : List Byte}
    {done : Bool}
    (hRead :
      readMemory tid address buffer k = (done, bytes, k'))
    (hClean : k'.clean = true) :
    k.clean = true ∧ done = true := by
  cases hRead
  exact Bool.and_eq_true_iff.mp hClean

theorem clean_of_writeMemory
    [MemoryControl κ]
    {address : Addr}
    {buffer : List Byte}
    {done : Bool}
    (hWrite : writeMemory tid address buffer k = (done, k'))
    (hClean : k'.clean = true) :
    k.clean = true ∧ done = true := by
  cases hWrite
  exact Bool.and_eq_true_iff.mp hClean

theorem clean_of_getRegset
    [Regset κ]
    {type : RegisterType}
    {found : Option type.Data}
    (hGet : getRegset type tid k = (found, k'))
    (hClean : k'.clean = true) :
    k.clean = true ∧ found.isSome = true := by
  cases hGet
  exact Bool.and_eq_true_iff.mp hClean

theorem clean_of_setRegset
    [Regset κ]
    {type : RegisterType}
    {data : type.Data}
    {done : Bool}
    (hSet : setRegset type tid data k = (done, k'))
    (hClean : k'.clean = true) :
    k.clean = true ∧ done = true := by
  cases hSet
  exact Bool.and_eq_true_iff.mp hClean

end Watched

namespace RegisterControl

open Watched

variable {κ : Type}
variable [Regset κ]
variable {k k' : Watched κ}
variable {tid : Pid} {i : Fin 16}

/- Reading a slot only fails with its call. -/
theorem clean_of_getDbg
    {found : Option (BitVec 64 × BitVec 32)}
    (hGet : getDbg tid (.dbg i) k = (found, k'))
    (hClean : k'.clean = true) :
    k.clean = true ∧ found.isSome = true := by
  rcases getDbg_cases hGet with ⟨all, hAll, hFound⟩
  have hCall := clean_of_getRegset hAll hClean
  rcases Option.isSome_iff_exists.mp hCall.2 with ⟨dbg, rfl⟩
  rw [hFound]
  exact ⟨hCall.1, rfl⟩

/- Setting a slot only fails with one of its calls. -/
theorem clean_of_setDbg
    {value : BitVec 64 × BitVec 32}
    {done : Bool}
    (hSet : setDbg tid (.dbg i) value k = (done, k'))
    (hClean : k'.clean = true) :
    k.clean = true ∧ done = true := by
  rcases setDbg_cases hSet with
    ⟨-, all, hAll, hNone | hNone⟩ |
    ⟨dbg, pointer, k₁, hAll, -, hStore⟩
  · have hSome := (clean_of_getRegset hAll hClean).2
    rw [hNone] at hSome
    cases hSome
  · cases hNone
  · have hStored := clean_of_setRegset hStore hClean
    exact ⟨(clean_of_getRegset hAll hStored.1).1, hStored.2⟩

end RegisterControl

end AnDbg

------------------------------------------------------------
-- Laws Of A Watched World
------------------------------------------------------------

namespace AnDbg

namespace Watched

variable {κ : Type}
variable [MemoryControl κ] [Regset κ]

omit [Regset κ] in
/- Every call in a watched world is one in the world itself. -/
theorem mapsMemory :
    MapsMemory (Watched.world : Watched κ → κ) where
  readMemory _ _ _ _ := rfl
  writeMemory _ _ _ _ := rfl

omit [MemoryControl κ] in
theorem mapsRegset :
    MapsRegset (Watched.world : Watched κ → κ) where
  getRegset _ _ _ := rfl
  setRegset _ _ _ _ := rfl

theorem memoryLaws
    {memory : κ → Memory}
    (hLaws : MemoryLaws memory) :
    MemoryLaws fun k : Watched κ => memory k.world :=
  mapsMemory.memoryLaws mapsRegset hLaws

theorem registerLaws
    {debug : κ → Pid → UserHwdebugState}
    (hLaws : RegisterLaws debug) :
    RegisterLaws fun k : Watched κ => debug k.world :=
  mapsMemory.registerLaws mapsRegset hLaws

omit [MemoryControl κ] in
theorem regsetNeedsTid
    (hCalls : RegsetNeedsTid κ) :
    RegsetNeedsTid (Watched κ) where
  getRegset type tid k := hCalls.getRegset type tid k.world
  setRegset type tid data k :=
    hCalls.setRegset type tid data k.world

end Watched

end AnDbg
