import AnDbg.Core.BreakpointManager.SoundPools
import AnDbg.Core.BreakpointManager.Watching
import AnDbg.Core.SimulatedTarget

/-
  What the probe of the debug registers finds out.

  Of the sixteen slots a thread accepts writes to some.  The
  probe fills all of them with a test value, reads them back
  and restores them; it verifies slot by slot, but keeps the
  number of the verified slots only, and hands out that many
  registers from the first one on.  So the pool holds the
  slots that were verified exactly if these are the first.

  Main declarations:
    * `AnDbg.AcceptingSlots`
    * `AnDbg.BreakpointManager.ProbeExact`
    * `AnDbg.BreakpointManager.probeExact_iff`
-/

------------------------------------------------------------
-- Slots That Accept Writes
------------------------------------------------------------

namespace AnDbg

open Regset

/- What a register set holds after a write to some slots. -/
def storedIn
    (slots : Finset (Fin 16))
    (given old : UserHwdebugState) : UserHwdebugState where
  dbgInfo := old.dbgInfo
  dbgRegs i := if i ∈ slots then given.dbgRegs i
    else old.dbgRegs i

/- Writing back what was read undoes a write. -/
theorem storedIn_restore
    (slots : Finset (Fin 16))
    (given old : UserHwdebugState) :
    storedIn slots old (storedIn slots given old) = old := by
  unfold storedIn
  congr
  funext i
  split
  next => rfl
  next hNot => exact if_neg hNot

/-
  A thread accepts writes to certain slots; the other ones,
  and the word with their number, keep what they hold.
-/
structure AcceptingSlots
    {κ : Type}
    [Regset κ]
    (debug : κ → Pid → UserHwdebugState)
    (accepts : Pid → Finset (Fin 16)) : Prop where
  get_some :
    ∀ {tid dbg k k'},
      getRegset .dbg tid k = (some dbg, k') →
      dbg = debug k tid ∧ debug k' tid = debug k tid
  set_true :
    ∀ {tid} {dbg : UserHwdebugState} {k k'},
      setRegset .dbg tid dbg k = (true, k') →
      debug k' tid = storedIn (accepts tid) dbg (debug k tid)

theorem MapsRegset.acceptingSlots
    {κ κ' : Type}
    [Regset κ']
    [Regset κ]
    {f : κ' → κ}
    {debug : κ → Pid → UserHwdebugState}
    {accepts : Pid → Finset (Fin 16)}
    (hRegset : MapsRegset f)
    (hSlots : AcceptingSlots debug accepts) :
    AcceptingSlots (fun k => debug (f k)) accepts where
  get_some {tid _ k _} hGet := by
    have hHere := hRegset.getRegset .dbg tid k
    rw [hGet] at hHere
    exact hSlots.get_some hHere
  set_true {tid dbg k _} hSet := by
    have hHere := hRegset.setRegset .dbg tid dbg k
    rw [hSet] at hHere
    exact hSlots.set_true hHere

end AnDbg

------------------------------------------------------------
-- Counting And Filling
------------------------------------------------------------

namespace AnDbg

namespace BreakpointManager

/- The slots that never read back the test value by chance. -/
def OthersDiffer
    (slots : Finset (Fin 16))
    (origin : UserHwdebugState) : Prop :=
  ∀ i ∉ slots,
    origin.dbgRegs i ≠ ⟨testAddress, testControl⟩

theorem countP_mem_finRange
    (slots : Finset (Fin 16)) :
    (List.finRange 16).countP (fun i => decide (i ∈ slots)) =
      slots.card := by
  have hFilter : Finset.univ.filter (· ∈ slots) = slots := by
    simp
  have hCard := congrArg Finset.card hFilter
  rw [List.countP_eq_length_filter, ← hCard]
  rfl

/- The slots that keep the test value are the accepting ones. -/
theorem verifiedCount_storedIn
    {slots : Finset (Fin 16)}
    {origin : UserHwdebugState}
    (hOthers : OthersDiffer slots origin) :
    verifiedCount
        (storedIn slots (testDbg origin) origin) =
      slots.card := by
  rw [← countP_mem_finRange]
  unfold verifiedCount
  congr
  funext i
  by_cases hMem : i ∈ slots
  · simp [storedIn, testDbg, hMem]
  · simp [storedIn, hMem, hOthers i hMem]

/- The registers that filling a pool puts into it. -/
theorem image_ofNat_range
    {count : Nat}
    (hLe : count ≤ 16) :
    (Finset.range count).image DBRegister.ofNat =
      (Finset.univ.filter
        (fun i : Fin 16 => i.val < count)).image
          DBRegister.dbg := by
  ext reg
  simp only [Finset.mem_image, Finset.mem_range,
    Finset.mem_filter, Finset.mem_univ, true_and]
  constructor
  · intro hFound
    rcases hFound with ⟨i, hLt, rfl⟩
    exact ⟨⟨i, by omega⟩, hLt,
      (DBRegister.ofNat_of_lt (by omega)).symm⟩
  · intro hFound
    rcases hFound with ⟨i, hLt, rfl⟩
    exact ⟨i, hLt, DBRegister.ofNat_of_lt i.isLt⟩

/- Some slots are the first ones of all. -/
def AreFirst (slots : Finset (Fin 16)) : Prop :=
  ∀ i, i ∈ slots ↔ i.val < slots.card

instance (slots : Finset (Fin 16)) :
    Decidable (AreFirst slots) :=
  inferInstanceAs (Decidable (∀ _, _))

theorem image_eq_image_iff
    (slots : Finset (Fin 16)) :
    (Finset.range slots.card).image DBRegister.ofNat =
        slots.image DBRegister.dbg ↔
      AreFirst slots := by
  have hLe : slots.card ≤ 16 := Finset.card_le_univ slots
  have hInjective : Function.Injective DBRegister.dbg :=
    fun _ _ hEq => DBRegister.dbg.inj hEq
  rw [image_ofNat_range hLe,
    (Finset.image_injective hInjective).eq_iff,
    Finset.ext_iff]
  unfold AreFirst
  simp only [Finset.mem_filter, Finset.mem_univ, true_and]
  exact forall_congr' fun i => iff_comm

end BreakpointManager

end AnDbg

------------------------------------------------------------
-- An Exact Probe
------------------------------------------------------------

namespace AnDbg

namespace BreakpointManager

open Run UnorderedMap RegisterControl

variable {κ : Type}

/-
  The probe of a thread succeeds, leaves its registers as
  they were, and records and pools its accepting slots.
-/
structure ProbeExact
    [MemoryControl κ]
    [Regset κ]
    [HashOrder κ DBRegister]
    (debug : κ → Pid → UserHwdebugState)
    (slots : Finset (Fin 16))
    (tid : Pid)
    (s : Session κ) : Prop where
  succeeds :
    (s.manager.initHardwareRegister tid
      s.world).result.isSuccess = true
  restores :
    debug (step (.initHardwareRegister tid) s).world tid =
      debug s.world tid
  counts :
    (step (.initHardwareRegister tid)
        s).manager.hardwareRegistersCount.lookup tid =
      some slots.card
  pools :
    (step (.initHardwareRegister tid) s).manager.free tid =
      slots.image DBRegister.dbg

variable [Regset κ]
variable {debug : κ → Pid → UserHwdebugState}
variable {accepts : Pid → Finset (Fin 16)}
variable {m m' : BreakpointManager}
variable {tid : Pid} {k k' : κ}

/- A probe that completes has restored the registers. -/
theorem InitExit.accepting
    (hSlots : AcceptingSlots debug accepts)
    (hUnprobed : tid ∉ m.hardwareRegistersCount)
    (hOthers : OthersDiffer (accepts tid) (debug k tid))
    (hExit : InitExit tid m k true m' k') :
    debug k' tid = debug k tid ∧
      m' = m.fillPool tid (accepts tid).card := by
  cases hExit with
  | already hProbed => exact absurd hProbed hUnprobed
  | probed _ hOrigin hTest hVerify hRestore =>
      rcases hSlots.get_some hOrigin with ⟨rfl, hKept⟩
      have hStored := hSlots.set_true hTest
      rcases hSlots.get_some hVerify with ⟨rfl, hKept'⟩
      rw [hKept] at hStored
      constructor
      · rw [hSlots.set_true hRestore, hKept', hStored]
        exact storedIn_restore _ _ _
      · rw [hStored, verifiedCount_storedIn hOthers]

/- It has recorded the number of accepting slots. -/
theorem lookup_fillPool
    (count : Nat) :
    (m.fillPool tid count).hardwareRegistersCount.lookup tid =
      some count :=
  Finmap.lookup_insert _

variable [MemoryControl κ] [HashOrder κ DBRegister]

/-
  In every reachable state and for every thread that was not
  probed, a probe whose calls all go through is exact if and
  only if the slots that accept writes are the first ones.
-/
theorem probeExact_iff
    (hSlots : AcceptingSlots debug accepts)
    (ops : List Op)
    (k : κ)
    (tid : Pid) :
    let s := run step ops (Session.start k)
    tid ∉ s.manager.hardwareRegistersCount →
    OthersDiffer (accepts tid) (debug s.world tid) →
    CallsSucceed [.initHardwareRegister tid] s →
    (ProbeExact debug (accepts tid) tid s ↔
      AreFirst (accepts tid)) := by
  intro s hUnprobed hOthers hCalls
  have hPool : s.manager.free tid = ∅ :=
    (sound_run ops k).pools.probedIfFree tid hUnprobed
  have hSuccess :
      (s.manager.initHardwareRegister tid
        (Watched.start s.world)).result.isSuccess = true :=
    isSuccess_of_clean hCalls
  have hExit := initHardwareRegister_exit tid s.manager
    (Watched.start s.world)
  rw [hSuccess] at hExit
  rcases hExit.accepting
    (Watched.mapsRegset.acceptingSlots hSlots) hUnprobed
    hOthers with ⟨hRestored, hFilled⟩
  have hSame := initHardwareRegister_map Watched.mapsRegset
    tid s.manager (Watched.start s.world)
  have hManager :
      (step (.initHardwareRegister tid) s).manager =
        s.manager.fillPool tid (accepts tid).card := by
    rw [← hFilled]
    exact congrArg Outcome.object hSame.symm
  have hFree :
      (step (.initHardwareRegister tid) s).manager.free tid =
        (Finset.range (accepts tid).card).image
          DBRegister.ofNat := by
    rw [hManager, free_fillPool, if_pos rfl, hPool,
      Finset.empty_union]
  constructor
  · intro hExact
    apply (image_eq_image_iff (accepts tid)).mp
    rw [← hFree, hExact.pools]
  · intro hFirst
    constructor
    case succeeds =>
      rw [← hSuccess]
      exact congrArg (fun done => done.result.isSuccess)
        hSame.symm
    case restores =>
      have hWorld := congrArg
        (fun done => debug done.world tid) hSame.symm
      exact hWorld.trans hRestored
    case counts =>
      rw [hManager]
      exact lookup_fillPool _
    case pools =>
      rw [hFree]
      exact (image_eq_image_iff (accepts tid)).mpr hFirst

end BreakpointManager

end AnDbg

------------------------------------------------------------
-- Targets With Given Slots
------------------------------------------------------------

namespace AnDbg

/- A simulated target in which some slots accept writes. -/
structure SlottedTarget (slots : Finset (Fin 16)) where
  target : SimulatedTarget

namespace SlottedTarget

variable {slots : Finset (Fin 16)}

instance : MemoryControl (SlottedTarget slots) where
  readMemory tid address buffer t :=
    let answer :=
      MemoryControl.readMemory tid address buffer t.target
    (answer.1, answer.2.1, ⟨answer.2.2⟩)
  writeMemory tid address buffer t :=
    let answer :=
      MemoryControl.writeMemory tid address buffer t.target
    (answer.1, ⟨answer.2⟩)

/- What a write to a register set leaves of what was given. -/
def accepted
    (t : SlottedTarget slots)
    (tid : Pid) :
    (type : RegisterType) → type.Data → type.Data
| .gpr, data => data
| .fpr, data => data
| .dbg, data =>
    storedIn slots data (t.target.registers .dbg tid)

instance : Regset (SlottedTarget slots) where
  getRegset type tid t :=
    let answer := Regset.getRegset type tid t.target
    (answer.1, ⟨answer.2⟩)
  setRegset type tid data t :=
    let answer :=
      Regset.setRegset type tid (t.accepted tid type data)
        t.target
    (answer.1, ⟨answer.2⟩)

instance : HashOrder (SlottedTarget slots) DBRegister where
  first s t := HashOrder.first s t.target
  first_mem s t hNonempty :=
    HashOrder.first_mem s t.target hNonempty

/- The memory of the debug registers of every thread. -/
def debugRegisters
    (t : SlottedTarget slots) : Pid → UserHwdebugState :=
  t.target.debugRegisters

theorem acceptingSlots :
    AcceptingSlots
      (debugRegisters : SlottedTarget slots → _)
      fun _ => slots where
  get_some {tid _ t _} hGet := by
    injection hGet with hFound hWorld
    cases hWorld
    have hDbg := SimulatedTarget.registerLaws.get_some
      (Prod.ext hFound rfl)
    exact ⟨hDbg, rfl⟩
  set_true {tid dbg t _} hSet := by
    injection hSet with hDone hWorld
    cases hWorld
    have hStored := SimulatedTarget.registerLaws.set_true
      (Prod.ext hDone rfl)
    exact (congrFun hStored tid).trans
      (Function.update_self _ _ _)

end SlottedTarget

namespace BreakpointManager

open Run

/- A thread with two slots, the first ones, is probed exactly. -/
theorem probeExact_iff_two :
    ProbeExact SlottedTarget.debugRegisters {0, 1} 7
        (Session.start
          (⟨.fresh []⟩ : SlottedTarget {0, 1})) ↔
      AreFirst {0, 1} :=
  probeExact_iff SlottedTarget.acceptingSlots [] ⟨.fresh []⟩ 7
    (by decide) (by unfold OthersDiffer; decide +kernel)
    (by unfold CallsSucceed; decide +kernel)

/-
  A thread whose second slot is the only one that accepts
  writes gets the first one, which the probe has refuted.
-/
theorem not_probeExact_second :
    let s : Session (SlottedTarget {1}) :=
      Session.start ⟨.fresh []⟩
    CallsSucceed [.initHardwareRegister 7] s ∧
      OthersDiffer {1} (SlottedTarget.debugRegisters s.world 7) ∧
      ¬ ProbeExact SlottedTarget.debugRegisters {1} 7 s := by
  intro s
  refine ⟨by unfold CallsSucceed; decide +kernel,
    by unfold OthersDiffer; decide +kernel, ?_⟩
  intro hExact
  have hPool := hExact.pools
  exact absurd hPool (by decide +kernel)

end BreakpointManager

end AnDbg
