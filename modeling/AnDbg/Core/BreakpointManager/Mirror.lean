import AnDbg.Core.BreakpointManager.RegisterPool

/-
  The debug registers of the target mirror the live hardware
  breakpoints, except after a removal that failed unseen.

  While a breakpoint owns a register, the register has its
  address and is armed exactly when it is enabled; every
  operation that checks its register calls keeps this.
  `removeBreakpoint` does not check them and drops the
  breakpoint all the same, so a register may stay armed that
  no breakpoint owns.

  Main declarations:
    * `AnDbg.BreakpointManager.Owns`
    * `AnDbg.BreakpointManager.Mirrors`
    * `AnDbg.BreakpointManager.MirrorInvariant`
    * `AnDbg.BreakpointManager.RemovalDisarms`
    * `AnDbg.BreakpointManager.mirrors_iff`
-/

------------------------------------------------------------
-- Slots
------------------------------------------------------------

namespace AnDbg

/- The enable bit of a debug register. -/
def DbgReg.isArmed (slot : DbgReg) : Bool :=
  slot.ctrl.getLsbD 0

namespace BreakpointManager

open RegisterControl

/- One debug register of a thread. -/
def slot
    (d : Pid → UserHwdebugState)
    (tid : Pid)
    (i : Fin 16) : DbgReg :=
  (d tid).dbgRegs i

/- Change one debug register of a thread. -/
def setSlot
    (d : Pid → UserHwdebugState)
    (tid : Pid)
    (i : Fin 16)
    (value : DbgReg) : Pid → UserHwdebugState :=
  Function.update d tid
    { d tid with
      dbgRegs := Function.update (d tid).dbgRegs i value }

theorem slot_setSlot
    (d : Pid → UserHwdebugState)
    (tid : Pid)
    (i : Fin 16)
    (value : DbgReg)
    (tid' : Pid)
    (j : Fin 16) :
    slot (setSlot d tid i value) tid' j =
      if tid' = tid ∧ j = i then value else slot d tid' j := by
  rw [slot, setSlot, Function.update_apply]
  by_cases hTid : tid' = tid
  · rw [if_pos hTid]
    dsimp only
    by_cases hSlot : j = i
    · rw [if_pos ⟨hTid, hSlot⟩, hSlot, Function.update_self]
    · rw [if_neg (fun hBoth => hSlot hBoth.2),
        Function.update_of_ne hSlot, hTid]
      rfl
  · rw [if_neg hTid, if_neg (fun hBoth => hTid hBoth.1)]
    rfl

theorem isArmed_withEnable
    (address : BitVec 64)
    (control : BitVec 32) :
    DbgReg.isArmed ⟨address, withEnable control⟩ = true := by
  simp [DbgReg.isArmed, withEnable, DBGBCR_ENABLE]

theorem isArmed_withoutEnable
    (address : BitVec 64)
    (control : BitVec 32) :
    DbgReg.isArmed ⟨address, withoutEnable control⟩ =
      false := by
  simp [DbgReg.isArmed, withoutEnable, DBGBCR_ENABLE]

theorem isArmed_controlFor
    (on : Bool)
    (address : BitVec 64)
    (control : BitVec 32) :
    DbgReg.isArmed ⟨address, controlFor on control⟩ = on := by
  cases on with
  | true => exact isArmed_withEnable address control
  | false => exact isArmed_withoutEnable address control

/- The control word of a hardware type has the enable bit. -/
theorem isArmed_controlOf
    {type : BreakpointType}
    {control : BitVec 64}
    (hType : controlOf type = some control)
    (address : BitVec 64) :
    DbgReg.isArmed ⟨address, control.setWidth 32⟩ = true := by
  rw [DbgReg.isArmed]
  cases type with
  | software => cases hType
  | hardwareExecution =>
      cases hType
      dsimp only
      decide
  | hardwareWrite =>
      cases hType
      dsimp only
      decide
  | hardwareReadwrite =>
      cases hType
      dsimp only
      decide
  | other value => cases hType

end BreakpointManager

end AnDbg

------------------------------------------------------------
-- Register Calls
------------------------------------------------------------

namespace AnDbg

namespace BreakpointManager

open RegisterControl

variable {κ : Type}
variable [MemoryControl κ] [Regset κ]
variable {debug : κ → Pid → UserHwdebugState}
variable {tid : Pid} {i : Fin 16} {k k' : κ}

/- Reading one debug register. -/
theorem debug_getDbg
    (hLaws : RegisterLaws debug)
    {reg : DBRegister}
    {found : Option (BitVec 64 × BitVec 32)}
    (hGet : getDbg tid reg k = (found, k')) :
    debug k' = debug k := by
  rcases getDbg_cases hGet with ⟨all, hAll, -⟩
  exact hLaws.get_debug hAll

theorem getDbg_eq_some
    (hLaws : RegisterLaws debug)
    {address : BitVec 64}
    {control : BitVec 32}
    (hGet :
      getDbg tid (.dbg i) k = (some (address, control), k')) :
    slot (debug k) tid i = ⟨address, control⟩ := by
  rcases getDbg_cases hGet with ⟨_ | dbg, hAll, hFound⟩
  · cases hFound
  · cases hFound
    rw [slot, ← hLaws.get_some hAll]

/- Setting one debug register. -/
theorem debug_setDbg
    (hLaws : RegisterLaws debug)
    {value : BitVec 64 × BitVec 32}
    (hSet : setDbg tid (.dbg i) value k = (true, k')) :
    debug k' =
      setSlot (debug k) tid i ⟨value.1, value.2⟩ := by
  rcases setDbg_cases hSet with
    ⟨hDone, -⟩ | ⟨dbg, _, k₁, hAll, hPointer, hStore⟩
  · cases hDone
  · cases hPointer
    rw [hLaws.set_true hStore, hLaws.get_debug hAll,
      hLaws.get_some hAll]
    rfl

theorem debug_setDbg_failed
    (hLaws : RegisterLaws debug)
    {reg : DBRegister}
    {value : BitVec 64 × BitVec 32}
    (hSet : setDbg tid reg value k = (false, k')) :
    debug k' = debug k := by
  rcases setDbg_cases hSet with
    ⟨-, all, hAll, -⟩ | ⟨dbg, pointer, k₁, hAll, -, hStore⟩
  · exact hLaws.get_debug hAll
  · exact (hLaws.set_false hStore).trans
      (hLaws.get_debug hAll)

/- A probe that runs through puts all registers back. -/
theorem InitExit.debug_eq
    {m m' : BreakpointManager}
    (hLaws : RegisterLaws debug)
    (hExit : InitExit tid m k true m' k') :
    debug k' = debug k := by
  cases hExit with
  | already => rfl
  | @probed originDbg verifyDbg k₁ k₂ k₃ _ hUnprobed hOrigin
      hTest hVerify hRestore =>
      rw [hLaws.set_true hRestore, hLaws.get_debug hVerify,
        hLaws.set_true hTest, hLaws.get_debug hOrigin,
        Function.update_idem, hLaws.get_some hOrigin,
        Function.update_eq_self]

/- Whether the register calls of a removal go through. -/
def Disarms
    (bp : Breakpoint)
    (k : κ) : Prop :=
  ∃ address control k₁ k₂,
    getDbg bp.tid bp.hardwareRegister k =
        (some (address, control), k₁) ∧
      setDbg bp.tid bp.hardwareRegister
        (address, withoutEnable control) k₁ = (true, k₂)

/- What disarming does if its calls go through. -/
theorem debug_disarm
    {bp : Breakpoint}
    (hLaws : RegisterLaws debug)
    (hRegister : bp.hardwareRegister = .dbg i)
    (hDisarms : Disarms bp k) :
    ∃ control,
      debug (disarm bp k) =
        setSlot (debug k) bp.tid i
          ⟨(slot (debug k) bp.tid i).addr,
            withoutEnable control⟩ := by
  rcases hDisarms with
    ⟨address, control, k₁, k₂, hGet, hSet⟩
  refine ⟨control, ?_⟩
  rw [disarm, hGet]
  dsimp only
  rw [hSet]
  rw [hRegister] at hGet hSet
  rw [debug_setDbg hLaws hSet, debug_getDbg hLaws hGet,
    getDbg_eq_some hLaws hGet]

/- What it does otherwise. -/
theorem debug_disarm_failed
    {bp : Breakpoint}
    (hLaws : RegisterLaws debug)
    (hFails : ¬ Disarms bp k) :
    debug (disarm bp k) = debug k := by
  rw [disarm]
  rcases hGet : getDbg bp.tid bp.hardwareRegister k with
    ⟨_ | ⟨address, control⟩, k₁⟩
  · exact debug_getDbg hLaws hGet
  · dsimp only
    rcases hSet :
      setDbg bp.tid bp.hardwareRegister
        (address, withoutEnable control) k₁ with
      ⟨_ | _, k₂⟩
    · exact (debug_setDbg_failed hLaws hSet).trans
        (debug_getDbg hLaws hGet)
    · exact absurd ⟨address, control, k₁, k₂, hGet, hSet⟩
        hFails

end BreakpointManager

end AnDbg

------------------------------------------------------------
-- Mirrored Registers
------------------------------------------------------------

namespace AnDbg

namespace BreakpointManager

/- A live hardware breakpoint of the thread has the register. -/
def Owns
    (m : BreakpointManager)
    (tid : Pid)
    (i : Fin 16)
    (id : Int)
    (bp : Breakpoint) : Prop :=
  m.breakpoints.lookup id = some bp ∧
    bp.type ≠ .software ∧ bp.tid = tid ∧
    bp.hardwareRegister = .dbg i

/-
  A register is armed exactly when some live enabled
  hardware breakpoint owns it, and then has its address.
-/
def Mirrors
    (m : BreakpointManager)
    (d : Pid → UserHwdebugState) : Prop :=
  ∀ tid i,
    ((slot d tid i).isArmed = true ↔
      ∃ id bp, Owns m tid i id bp ∧ bp.enabled = true) ∧
      ∀ id bp, Owns m tid i id bp → bp.enabled = true →
        (slot d tid i).addr = bp.address

/-
  The same with what disabled breakpoints need to be enabled
  again: an owned register always has the address.
-/
structure Mirrored
    (m : BreakpointManager)
    (d : Pid → UserHwdebugState) : Prop where
  owned :
    ∀ tid i id bp, Owns m tid i id bp →
      (slot d tid i).addr = bp.address ∧
        (slot d tid i).isArmed = bp.enabled
  unowned :
    ∀ tid i, (∀ id bp, ¬ Owns m tid i id bp) →
      (slot d tid i).isArmed = false

variable {m m' : BreakpointManager}
variable {d : Pid → UserHwdebugState}
variable {tid : Pid} {i : Fin 16} {id : Int} {bp : Breakpoint}

theorem Mirrored.mirrors
    (hMirrored : Mirrored m d) :
    Mirrors m d := by
  intro tid i
  refine ⟨⟨?_, ?_⟩, ?_⟩
  · intro hArmed
    by_contra hNone
    have hUnowned : ∀ id bp, ¬ Owns m tid i id bp := by
      intro id bp hOwns
      apply hNone
      have hEnabled := (hMirrored.owned tid i id bp hOwns).2
      exact ⟨id, bp, hOwns, hEnabled ▸ hArmed⟩
    rw [hMirrored.unowned tid i hUnowned] at hArmed
    cases hArmed
  · rintro ⟨id, bp, hOwns, hEnabled⟩
    rw [(hMirrored.owned tid i id bp hOwns).2, hEnabled]
  · intro id bp hOwns _
    exact (hMirrored.owned tid i id bp hOwns).1

/- The owner of a register holds it in the pool. -/
theorem Owns.holder
    (hOwns : Owns m tid i id bp) :
    (m.poolOf tid).holder id = some (.dbg i) := by
  rcases hOwns with ⟨hLookup, hType, hTid, hRegister⟩
  rw [holder_eq_of_lookup hLookup, holds,
    if_pos ⟨hType, hTid⟩, hRegister]

/- A register has one owner. -/
theorem Owns.unique
    {id' : Int}
    {bp' : Breakpoint}
    (hPooled : WellPooled m)
    (hOwns : Owns m tid i id bp)
    (hOwns' : Owns m tid i id' bp') :
    id = id' := by
  rcases hPooled tid with ⟨count, -, hPart, -⟩
  exact hPart.unique id id' _ hOwns.holder hOwns'.holder

/- A breakpoint owns one register. -/
theorem Owns.same_slot
    {tid' : Pid}
    {j : Fin 16}
    {bp' : Breakpoint}
    (hOwns : Owns m tid i id bp)
    (hOwns' : Owns m tid' j id bp') :
    tid' = tid ∧ j = i := by
  have hSame : bp' = bp :=
    Option.some.inj (hOwns'.1.symm.trans hOwns.1)
  rcases hOwns with ⟨-, -, hTid, hSlot⟩
  rcases hOwns' with ⟨-, -, hTid', hSlot'⟩
  rw [hSame] at hTid' hSlot'
  exact ⟨hTid'.symm.trans hTid,
    DBRegister.dbg.inj (hSlot'.symm.trans hSlot)⟩

/- A software breakpoint owns none. -/
theorem Owns.ne_software
    {id' : Int}
    {bp' : Breakpoint}
    (hOwns : Owns m tid i id' bp')
    (hLookup : m.breakpoints.lookup id = some bp)
    (hType : bp.type = .software) :
    id' ≠ id := by
  rintro rfl
  have hSame : bp' = bp :=
    Option.some.inj (hOwns.1.symm.trans hLookup)
  exact hOwns.2.1 (hSame ▸ hType)

/- A free register has none. -/
theorem WellPooled.not_owns
    (hPooled : WellPooled m)
    (hFree : .dbg i ∈ m.free tid)
    (id : Int)
    (bp : Breakpoint) :
    ¬ Owns m tid i id bp := by
  intro hOwns
  rcases hPooled tid with ⟨count, -, hPart, -⟩
  exact hPart.disjoint (.dbg i) (Finset.mem_coe.mpr hFree)
    ⟨id, hOwns.holder⟩

/- Live hardware breakpoints own a slot. -/
theorem WellPooled.owns
    (hPooled : WellPooled m)
    (hLookup : m.breakpoints.lookup id = some bp)
    (hType : bp.type ≠ .software) :
    ∃ i, Owns m bp.tid i id bp := by
  rcases hPooled bp.tid with ⟨count, hLe, hPart, -⟩
  have hHolder :
      (m.poolOf bp.tid).holder id =
        some bp.hardwareRegister := by
    rw [holder_eq_of_lookup hLookup, holds,
      if_pos ⟨hType, rfl⟩]
  rcases (hPart.cover _).mp (.inr ⟨id, hHolder⟩) with
    ⟨j, hLt, hEq⟩
  rw [DBRegister.ofNat_of_lt (by omega)] at hEq
  exact ⟨_, hLookup, hType, rfl, hEq⟩

/- A free register is a slot. -/
theorem WellPooled.exists_slot
    {reg : DBRegister}
    (hPooled : WellPooled m)
    (hFree : reg ∈ m.free tid) :
    ∃ i, reg = .dbg i := by
  rcases hPooled tid with ⟨count, hLe, hPart, -⟩
  rcases
      (hPart.cover reg).mp (.inl (Finset.mem_coe.mpr hFree))
      with ⟨j, hLt, hEq⟩
  rw [DBRegister.ofNat_of_lt (by omega)] at hEq
  exact ⟨_, hEq⟩

theorem Mirrored.congr
    (hMirrored : Mirrored m d)
    (hBreakpoints : m'.breakpoints = m.breakpoints) :
    Mirrored m' d := by
  have hOwns {tid i id bp} :
      Owns m' tid i id bp ↔ Owns m tid i id bp := by
    rw [Owns, Owns, hBreakpoints]
  constructor
  · intro tid i id bp hOwner
    exact hMirrored.owned tid i id bp (hOwns.mp hOwner)
  · intro tid i hNone
    apply hMirrored.unowned tid i
    intro id bp hOwner
    exact hNone id bp (hOwns.mpr hOwner)

/- A breakpoint is entered together with its register. -/
theorem Mirrored.enter_hardware
    {control : BitVec 32}
    (hMirrored : Mirrored m d)
    (hFresh : bp.id ∉ m.breakpoints)
    (hType : bp.type ≠ .software)
    (hEnabled : bp.enabled = true)
    (hRegister : bp.hardwareRegister = .dbg i)
    (hFree : ∀ id found, ¬ Owns m bp.tid i id found)
    (hArmed :
      DbgReg.isArmed ⟨bp.address, control⟩ = true) :
    Mirrored (m.enter bp)
      (setSlot d bp.tid i ⟨bp.address, control⟩) := by
  have hNew : Owns (m.enter bp) bp.tid i bp.id bp :=
    ⟨by rw [lookup_enter, if_pos rfl], hType, rfl, hRegister⟩
  have hOld {tid j id found} (hOwns : Owns m tid j id found) :
      Owns (m.enter bp) tid j id found :=
    ⟨lookup_enter_of_fresh hFresh hOwns.1, hOwns.2⟩
  constructor
  case owned =>
    rintro tid j id found ⟨hLookup, hRest⟩
    rw [slot_setSlot]
    rcases lookup_enter_cases hLookup with
      ⟨-, rfl⟩ | ⟨-, hFound⟩
    · rcases hRest with ⟨-, hTid, hSlot⟩
      have hSame : j = i := by
        rw [hRegister] at hSlot
        exact (DBRegister.dbg.inj hSlot).symm
      rw [if_pos ⟨hTid.symm, hSame⟩]
      exact ⟨rfl, hArmed.trans hEnabled.symm⟩
    · have hOwns : Owns m tid j id found := ⟨hFound, hRest⟩
      rw [if_neg]
      · exact hMirrored.owned tid j id found hOwns
      · rintro ⟨rfl, rfl⟩
        exact hFree id found hOwns
  case unowned =>
    intro tid j hNone
    rw [slot_setSlot, if_neg]
    · apply hMirrored.unowned tid j
      intro id found hOwns
      exact hNone id found (hOld hOwns)
    · rintro ⟨rfl, rfl⟩
      exact hNone bp.id bp hNew

/- A software breakpoint owns no register. -/
theorem Mirrored.enter_software
    (hMirrored : Mirrored m d)
    (hFresh : bp.id ∉ m.breakpoints)
    (hType : bp.type = .software) :
    Mirrored (m.enter bp) d := by
  constructor
  case owned =>
    rintro tid j id found ⟨hLookup, hRest⟩
    rcases lookup_enter_cases hLookup with
      ⟨-, rfl⟩ | ⟨-, hFound⟩
    · exact absurd hType hRest.1
    · exact hMirrored.owned tid j id found ⟨hFound, hRest⟩
  case unowned =>
    intro tid j hNone
    apply hMirrored.unowned tid j
    intro id found hOwns
    exact hNone id found
      ⟨lookup_enter_of_fresh hFresh hOwns.1, hOwns.2⟩

theorem Owns.of_erase
    {id' : Int}
    {found : Breakpoint}
    (hOwns : Owns (m.eraseBreakpoint id bp) tid i id' found) :
    id' ≠ id ∧ Owns m tid i id' found := by
  rcases hOwns with ⟨hLookup, hRest⟩
  rw [lookup_eraseBreakpoint] at hLookup
  split at hLookup
  next => cases hLookup
  next hNe => exact ⟨hNe, hLookup, hRest⟩

theorem Owns.erase
    {id' : Int}
    {found : Breakpoint}
    (hOwns : Owns m tid i id' found)
    (hNe : id' ≠ id) :
    Owns (m.eraseBreakpoint id bp) tid i id' found := by
  refine ⟨?_, hOwns.2⟩
  rw [lookup_eraseBreakpoint, if_neg hNe, hOwns.1]

/- A breakpoint goes once its register is disarmed. -/
theorem Mirrored.erase_hardware
    {d' : Pid → UserHwdebugState}
    (hMirrored : Mirrored m d)
    (hPooled : WellPooled m)
    (hOwns : Owns m tid i id bp)
    (hOff : (slot d' tid i).isArmed = false)
    (hElse :
      ∀ tid' j, ¬ (tid' = tid ∧ j = i) →
        slot d' tid' j = slot d tid' j) :
    Mirrored (m.eraseBreakpoint id bp) d' := by
  constructor
  case owned =>
    intro tid' j id' found hFound
    rcases hFound.of_erase with ⟨hNe, hOld⟩
    have hOther : ¬ (tid' = tid ∧ j = i) := by
      rintro ⟨rfl, rfl⟩
      exact hNe (hOld.unique hPooled hOwns)
    rw [hElse tid' j hOther]
    exact hMirrored.owned tid' j id' found hOld
  case unowned =>
    intro tid' j hNone
    by_cases hHere : tid' = tid ∧ j = i
    · rw [hHere.1, hHere.2]
      exact hOff
    · rw [hElse tid' j hHere]
      apply hMirrored.unowned tid' j
      intro id' found hFound
      apply hNone id' found
      apply hFound.erase
      rintro rfl
      exact hHere (hOwns.same_slot hFound)

theorem Mirrored.erase_software
    (hMirrored : Mirrored m d)
    (hLookup : m.breakpoints.lookup id = some bp)
    (hType : bp.type = .software) :
    Mirrored (m.eraseBreakpoint id bp) d := by
  constructor
  case owned =>
    intro tid j id' found hFound
    exact hMirrored.owned tid j id' found hFound.of_erase.2
  case unowned =>
    intro tid j hNone
    apply hMirrored.unowned tid j
    intro id' found hFound
    exact hNone id' found
      (hFound.erase (hFound.ne_software hLookup hType))

/- Ownership does not depend on the flag. -/
theorem owns_setEnabled
    {on : Bool}
    {id' : Int}
    {found : Breakpoint}
    (hLookup : m.breakpoints.lookup id = some bp) :
    Owns (m.setEnabled id bp on) tid i id' found ↔
      ∃ old, Owns m tid i id' old ∧
        found =
          { old with
            enabled := if id' = id then on
              else old.enabled } := by
  constructor
  · rintro ⟨hFound, hRest⟩
    rcases lookup_setEnabled_cases hLookup hFound with
      ⟨old, hOld, rfl⟩
    exact ⟨old, ⟨hOld, hRest⟩, rfl⟩
  · rintro ⟨old, ⟨hOld, hRest⟩, rfl⟩
    refine ⟨?_, hRest⟩
    rw [lookup_setEnabled]
    by_cases hEq : id' = id
    · rw [hEq, hLookup] at hOld
      rw [if_pos hEq, if_pos hEq, Option.some.inj hOld]
    · rw [if_neg hEq, if_neg hEq, hOld]

/- A breakpoint is switched together with its register. -/
theorem Mirrored.switch_hardware
    {on : Bool}
    {control : BitVec 32}
    (hMirrored : Mirrored m d)
    (hPooled : WellPooled m)
    (hOwns : Owns m tid i id bp) :
    Mirrored (m.setEnabled id bp on)
      (setSlot d tid i
        ⟨(slot d tid i).addr, controlFor on control⟩) := by
  have hLookup := hOwns.1
  constructor
  case owned =>
    intro tid' j id' found hFound
    rcases (owns_setEnabled hLookup).mp hFound with
      ⟨old, hOld, rfl⟩
    rw [slot_setSlot]
    by_cases hHere : tid' = tid ∧ j = i
    · rcases hHere with ⟨rfl, rfl⟩
      have hId : id' = id := hOld.unique hPooled hOwns
      rw [if_pos ⟨rfl, rfl⟩, if_pos hId]
      exact ⟨(hMirrored.owned _ _ _ _ hOld).1,
        isArmed_controlFor on _ control⟩
    · have hNe : id' ≠ id := by
        rintro rfl
        have hSame : old = bp :=
          Option.some.inj (hOld.1.symm.trans hLookup)
        rcases hOld with ⟨-, -, hTid, hSlot⟩
        rcases hOwns with ⟨-, -, hTid', hSlot'⟩
        rw [hSame] at hTid hSlot
        exact hHere ⟨hTid.symm.trans hTid',
          DBRegister.dbg.inj (hSlot.symm.trans hSlot')⟩
      rw [if_neg hHere, if_neg hNe]
      exact hMirrored.owned tid' j id' old hOld
  case unowned =>
    intro tid' j hNone
    have hNoneOld : ∀ id' old, ¬ Owns m tid' j id' old := by
      intro id' old hOld
      exact hNone id' _
        ((owns_setEnabled hLookup).mpr ⟨old, hOld, rfl⟩)
    rw [slot_setSlot, if_neg]
    · exact hMirrored.unowned tid' j hNoneOld
    · rintro ⟨rfl, rfl⟩
      exact hNoneOld id bp hOwns

theorem Mirrored.switch_software
    {on : Bool}
    (hMirrored : Mirrored m d)
    (hLookup : m.breakpoints.lookup id = some bp)
    (hType : bp.type = .software) :
    Mirrored (m.setEnabled id bp on) d := by
  constructor
  case owned =>
    intro tid j id' found hFound
    rcases (owns_setEnabled hLookup).mp hFound with
      ⟨old, hOld, rfl⟩
    rw [if_neg (hOld.ne_software hLookup hType)]
    exact hMirrored.owned tid j id' old hOld
  case unowned =>
    intro tid j hNone
    apply hMirrored.unowned tid j
    intro id' old hOld
    exact hNone id' _
      ((owns_setEnabled hLookup).mpr ⟨old, hOld, rfl⟩)

end BreakpointManager

end AnDbg

------------------------------------------------------------
-- Operations And The Mirror
------------------------------------------------------------

namespace AnDbg

namespace BreakpointManager

open RegisterControl

variable {κ : Type}
variable [MemoryControl κ] [Regset κ]
variable {debug : κ → Pid → UserHwdebugState}
variable {m m' : BreakpointManager} {k k' : κ}
variable {tid : Pid} {address : Addr}

theorem SetSoftwareExit.mirrored
    {result : Except StdException Int}
    (hLaws : RegisterLaws debug)
    (hFresh : m.nextBreakpointId ∉ m.breakpoints)
    (hMirrored : Mirrored m (debug k))
    (hExit : SetSoftwareExit tid address m k result m' k') :
    Mirrored m' (debug k') := by
  cases hExit with
  | misaligned => exact hMirrored
  | duplicate => exact hMirrored
  | readFailed _ hRead =>
      rw [hLaws.readMemory hRead]
      exact hMirrored
  | writeFailed _ hRead hWrite =>
      rw [hLaws.writeMemory hWrite, hLaws.readMemory hRead]
      exact hMirrored
  | refused _ _ _ hRead hWrite =>
      rw [hLaws.writeMemory hWrite, hLaws.readMemory hRead]
      exact hMirrored.congr rfl
  | created _ _ _ hRead hWrite =>
      rw [hLaws.writeMemory hWrite, hLaws.readMemory hRead]
      exact hMirrored.enter_software hFresh rfl

/- The probe that precedes a setting changes nothing. -/
theorem SetHardwareExit.mirrored
    {type : BreakpointType}
    {result : Except StdException Int}
    (hLaws : RegisterLaws debug)
    (hCalls : RegsetNeedsTid κ)
    (hFresh : m.nextBreakpointId ∉ m.breakpoints)
    (hPooled : WellPooled m)
    (hType : type.isHardware = true)
    (hMirrored : Mirrored m (debug k))
    (hExit :
      SetHardwareExit tid address type m k result m' k') :
    Mirrored m' (debug k') := by
  have hProbed (hPool : m.free tid ≠ ∅) :
      tid ∈ m.hardwareRegistersCount := by
    by_contra hNot
    exact hPool (hPooled.free_eq_empty hNot)
  cases hExit with
  | misaligned => exact hMirrored
  | duplicate => exact hMirrored
  | noFree => exact hMirrored.congr rfl
  | initFailed hPool hInit =>
      rcases hInit.already_of_free (hProbed hPool) with
        ⟨-, -, hSuccess⟩
      cases hSuccess
  | wrongType _ _ _ hNone =>
      exact absurd hNone (controlOf_ne_none hType)
  | setFailed hPool hInit _ _ hSet =>
      rcases hInit.already_of_free (hProbed hPool) with
        ⟨rfl, rfl, -⟩
      rw [debug_setDbg_failed hLaws hSet]
      exact hMirrored.congr rfl
  | refused _ hTid _ _ _ _ hSet =>
      exact absurd hTid
        (Int.not_lt.mpr (one_le_of_setDbg hCalls hSet))
  | created _ _ _ hPool hInit hFree hControl hSet =>
      rcases hInit.already_of_free (hProbed hPool) with
        ⟨rfl, rfl, -⟩
      rw [free_touchFree] at hFree
      rcases hPooled.exists_slot hFree with ⟨i, rfl⟩
      have hSoftware : type ≠ .software := by
        rintro rfl
        cases hType
      rw [debug_setDbg hLaws hSet]
      refine Mirrored.congr
        (m := m.enter
          (hardwareBreakpoint m.nextBreakpointId tid address
            type (.dbg i))) ?_ rfl
      exact hMirrored.enter_hardware hFresh hSoftware rfl rfl
        (hPooled.not_owns hFree)
        (isArmed_controlOf hControl address)

/-
  A removal keeps the mirror if the register calls that it
  does not check go through, where the breakpoint is armed.
-/
theorem RemoveExit.mirrored
    {id : Int}
    {success : Bool}
    (hLaws : RegisterLaws debug)
    (hPooled : WellPooled m)
    (hMirrored : Mirrored m (debug k))
    (hDisarms :
      ∀ bp, m.breakpoints.lookup id = some bp →
        bp.type ≠ .software → bp.enabled = true →
          Disarms bp k)
    (hExit : RemoveExit id m k success m' k') :
    Mirrored m' (debug k') := by
  cases hExit with
  | absent => exact hMirrored
  | writeFailed _ _ hWrite =>
      rw [hLaws.writeMemory hWrite]
      exact hMirrored
  | restored hLookup hType hWrite =>
      rw [hLaws.writeMemory hWrite]
      exact hMirrored.erase_software hLookup hType
  | @released bp hLookup hType =>
      rcases hPooled.owns hLookup hType with ⟨i, hOwns⟩
      refine Mirrored.congr (m := m.eraseBreakpoint id bp)
        ?_ rfl
      by_cases hDone : Disarms bp k
      · rcases debug_disarm hLaws hOwns.2.2.2 hDone with
          ⟨control, hDebug⟩
        rw [hDebug]
        apply hMirrored.erase_hardware hPooled hOwns
        · rw [slot_setSlot, if_pos ⟨rfl, rfl⟩]
          exact isArmed_withoutEnable _ control
        · intro tid j hOther
          rw [slot_setSlot, if_neg hOther]
      · rw [debug_disarm_failed hLaws hDone]
        apply hMirrored.erase_hardware hPooled hOwns
        · rw [(hMirrored.owned _ _ _ _ hOwns).2]
          by_contra hEnabled
          rw [Bool.not_eq_false] at hEnabled
          exact hDone (hDisarms bp hLookup hType hEnabled)
        · intro tid j _
          rfl
  | @dropped bp hLookup hType hRegister =>
      rcases hPooled.owns hLookup hType with ⟨i, hOwns⟩
      rw [hOwns.2.2.2] at hRegister
      cases hRegister

/- After a removal that did not disarm, the mirror is broken. -/
theorem RemoveExit.not_mirrors
    {id : Int}
    {success : Bool}
    {bp : Breakpoint}
    (hLaws : RegisterLaws debug)
    (hPooled : WellPooled m)
    (hMirrored : Mirrored m (debug k))
    (hLookup : m.breakpoints.lookup id = some bp)
    (hType : bp.type ≠ .software)
    (hEnabled : bp.enabled = true)
    (hFails : ¬ Disarms bp k)
    (hExit : RemoveExit id m k success m' k') :
    ¬ Mirrors m' (debug k') := by
  rcases hPooled.owns hLookup hType with ⟨i, hOwns⟩
  have hUnique {found : Breakpoint}
      (hFound : m.breakpoints.lookup id = some found) :
      found = bp :=
    Option.some.inj (hFound.symm.trans hLookup)
  cases hExit with
  | absent hNone =>
      rw [hLookup] at hNone
      cases hNone
  | writeFailed hFound hSoftware =>
      exact absurd (hUnique hFound ▸ hSoftware) hType
  | restored hFound hSoftware =>
      exact absurd (hUnique hFound ▸ hSoftware) hType
  | @released found hFound =>
      rcases hUnique hFound with rfl
      intro hMirrors
      have hArmed :
          (slot (debug (disarm found k))
            found.tid i).isArmed = true := by
        rw [debug_disarm_failed hLaws hFails,
          (hMirrored.owned _ _ _ _ hOwns).2, hEnabled]
      rcases (hMirrors found.tid i).1.mp hArmed with
        ⟨id', owner, hOwner, -⟩
      have hErased :
          Owns (m.eraseBreakpoint id found) found.tid i id'
            owner :=
        hOwner
      rcases hErased.of_erase with ⟨hNe, hOld⟩
      exact hNe (hOld.unique hPooled hOwns)
  | dropped hFound _ hRegister =>
      rcases hUnique hFound with rfl
      rw [hOwns.2.2.2] at hRegister
      cases hRegister

theorem ToggleExit.mirrored
    {on : Bool}
    {id : Int}
    {success : Bool}
    (hLaws : RegisterLaws debug)
    (hPooled : WellPooled m)
    (hMirrored : Mirrored m (debug k))
    (hExit : ToggleExit on id m k success m' k') :
    Mirrored m' (debug k') := by
  cases hExit with
  | absent => exact hMirrored
  | already => exact hMirrored
  | writeFailed _ _ hWrite =>
      rw [hLaws.writeMemory hWrite]
      exact hMirrored
  | patched hLookup _ hType hWrite =>
      rw [hLaws.writeMemory hWrite]
      exact hMirrored.switch_software hLookup hType
  | getFailed _ _ hGet =>
      rw [debug_getDbg hLaws hGet]
      exact hMirrored
  | setFailed _ _ hGet hSet =>
      rw [debug_setDbg_failed hLaws hSet,
        debug_getDbg hLaws hGet]
      exact hMirrored
  | @switched bp address control _ _ hLookup _ hType hGet
      hSet =>
      rcases hPooled.owns hLookup hType with ⟨i, hOwns⟩
      rw [hOwns.2.2.2] at hGet hSet
      have hSlot := getDbg_eq_some hLaws hGet
      have hSwitched :
          Mirrored (m.setEnabled id bp on)
            (setSlot (debug k) bp.tid i
              ⟨(slot (debug k) bp.tid i).addr,
                controlFor on control⟩) :=
        hMirrored.switch_hardware hPooled hOwns
      rw [debug_setDbg hLaws hSet, debug_getDbg hLaws hGet]
      rw [hSlot] at hSwitched
      exact hSwitched
  | flagged hLookup _ hType hRegister =>
      rcases hPooled.owns hLookup hType with ⟨i, hOwns⟩
      rw [hOwns.2.2.2] at hRegister
      cases hRegister

/- A removal that reports success leaves no owner behind. -/
theorem RemoveExit.not_owns
    {id id' : Int}
    {i : Fin 16}
    {bp bp' : Breakpoint}
    (hPooled : WellPooled m)
    (hOwns : Owns m tid i id bp)
    (hExit : RemoveExit id m k true m' k') :
    ¬ Owns m' tid i id' bp' := by
  have hErased (found : Breakpoint) :
      ¬ Owns (m.eraseBreakpoint id found) tid i id' bp' := by
    intro hOwner
    rcases hOwner.of_erase with ⟨hNe, hOld⟩
    exact hNe (hOld.unique hPooled hOwns)
  cases hExit with
  | restored => exact hErased _
  | @released found => exact hErased found
  | dropped => exact hErased _

/- A switch that reports success leaves the flag as asked. -/
theorem ToggleExit.owns
    {on : Bool}
    {id : Int}
    {i : Fin 16}
    {bp : Breakpoint}
    (hOwns : Owns m tid i id bp)
    (hExit : ToggleExit on id m k true m' k') :
    Owns m' tid i id { bp with enabled := on } := by
  have hUnique {found : Breakpoint}
      (hFound : m.breakpoints.lookup id = some found) :
      found = bp :=
    Option.some.inj (hFound.symm.trans hOwns.1)
  have hFlag {found : Breakpoint}
      (hFound : m.breakpoints.lookup id = some found) :
      Owns (m.setEnabled id found on) tid i id
        { bp with enabled := on } := by
    refine (owns_setEnabled hFound).mpr ⟨bp, hOwns, ?_⟩
    rw [if_pos rfl]
  cases hExit with
  | already hFound hEnabled =>
      rcases hUnique hFound with rfl
      rw [← hEnabled]
      exact hOwns
  | patched hFound => exact hFlag hFound
  | switched hFound => exact hFlag hFound
  | flagged hFound => exact hFlag hFound

/- A setting that returns an id gives a register to it. -/
omit [MemoryControl κ] in
theorem SetHardwareExit.owns
    {type : BreakpointType}
    {id : Int}
    (hPooled : WellPooled m)
    (hType : type.isHardware = true)
    (hId : id ≠ -1)
    (hExit :
      SetHardwareExit tid address type m k (.ok id) m' k') :
    ∃ i bp, Owns m' tid i id bp ∧ bp.address = address ∧
      bp.enabled = true := by
  generalize hResult :
    (Except.ok id : Except StdException Int) = result at hExit
  cases hExit with
  | misaligned => cases hResult
  | duplicate => exact absurd (Except.ok.inj hResult) hId
  | noFree => exact absurd (Except.ok.inj hResult) hId
  | initFailed => exact absurd (Except.ok.inj hResult) hId
  | wrongType => exact absurd (Except.ok.inj hResult) hId
  | setFailed => exact absurd (Except.ok.inj hResult) hId
  | refused => cases hResult
  | created _ _ _ hPool hInit hFree =>
      have hProbed : tid ∈ m.hardwareRegistersCount := by
        by_contra hNot
        exact hPool (hPooled.free_eq_empty hNot)
      rcases hInit.already_of_free hProbed with ⟨rfl, -, -⟩
      rw [free_touchFree] at hFree
      rcases hPooled.exists_slot hFree with ⟨i, rfl⟩
      have hSoftware : type ≠ .software := by
        rintro rfl
        cases hType
      refine ⟨i, hardwareBreakpoint m.nextBreakpointId tid
        address type (.dbg i), ⟨?_, hSoftware, rfl, rfl⟩, rfl,
        rfl⟩
      rw [lookup_enter, Except.ok.inj hResult]
      exact if_pos rfl

end BreakpointManager

end AnDbg

------------------------------------------------------------
-- Runs
------------------------------------------------------------

namespace AnDbg

namespace BreakpointManager

open Run

variable {κ : Type}
variable [MemoryControl κ] [Regset κ]
variable [HashOrder κ DBRegister]
variable {debug : κ → Pid → UserHwdebugState}

/- The probes that an operation makes succeed. -/
def ProbesSucceed
    (op : Op)
    (s : Session κ) : Prop :=
  ∀ tid, CallsProbe tid op s.manager →
    (s.manager.initHardwareRegister tid
      s.world).result.isSuccess = true

/-
  A removal of a live enabled hardware breakpoint finds that
  its register calls go through.
-/
def RemovalDisarms
    (op : Op)
    (s : Session κ) : Prop :=
  match op with
  | .removeBreakpoint id =>
      ∀ bp, s.manager.breakpoints.lookup id = some bp →
        bp.type ≠ .software → bp.enabled = true →
          Disarms bp s.world
  | _ => True

/-
  What the answers say about the register of a hardware
  breakpoint is so.
-/
def Reported
    (debug : κ → Pid → UserHwdebugState)
    (op : Op)
    (s : Session κ) : Prop :=
  match op with
  | .removeBreakpoint id =>
      (s.manager.removeBreakpoint id
          s.world).result.isSuccess = true →
        ∀ tid i bp, Owns s.manager tid i id bp →
          (slot (debug (step op s).world)
            tid i).isArmed = false
  | .disable id =>
      (s.manager.disable id s.world).result.isSuccess = true →
        ∀ tid i bp, Owns s.manager tid i id bp →
          (slot (debug (step op s).world)
            tid i).isArmed = false
  | .enable id =>
      (s.manager.enable id s.world).result.isSuccess = true →
        ∀ tid i bp, Owns s.manager tid i id bp →
          (slot (debug (step op s).world)
            tid i).isArmed = true
  | .setHardwareBreakpoint tid address type =>
      ∀ id,
        (s.manager.setHardwareBreakpoint tid address type
          s.world).result = .ok id →
        id ≠ -1 →
          ∃ i bp, Owns (step op s).manager tid i id bp ∧
            bp.address = address ∧
            (slot (debug (step op s).world)
              tid i).isArmed = true
  | _ => True

/- The tables, the pools and the registers agree. -/
def MirrorInvariant
    (debug : κ → Pid → UserHwdebugState)
    (s : Session κ) : Prop :=
  PoolInvariant s ∧ Mirrored s.manager (debug s.world)

theorem step_mirror
    (hLaws : RegisterLaws debug)
    (hCalls : RegsetNeedsTid κ)
    (s : Session κ)
    (op : Op)
    (hInv : MirrorInvariant debug s)
    (hRun : op.SetsHardware ∧ ProbesSucceed op s)
    (hGood : RemovalDisarms op s) :
    MirrorInvariant debug (step op s) := by
  rcases hInv with ⟨hPoolInv, hMirrored⟩
  rcases hRun with ⟨hTypes, hProbes⟩
  rcases hPoolInv with ⟨hTables, hPooled⟩
  refine ⟨step_poolInvariant hCalls s op ⟨hTables, hPooled⟩
    hTypes, ?_⟩
  have hInit (tid : Pid)
      (hSuccess :
        (s.manager.initHardwareRegister tid
          s.world).result.isSuccess = true) :
      Mirrored (s.manager.initHardwareRegister tid
          s.world).object
        (debug (s.manager.initHardwareRegister tid
          s.world).world) := by
    have hExit :=
      initHardwareRegister_exit tid s.manager s.world
    rw [hSuccess] at hExit
    rw [hExit.debug_eq hLaws]
    exact hMirrored.congr hExit.breakpoints_eq
  cases op with
  | getHardwareRegistersCount tid =>
      have hCount := hInit tid (hProbes tid rfl)
      rw [← getHardwareRegistersCount_object,
        ← getHardwareRegistersCount_world] at hCount
      exact hCount
  | initHardwareRegister tid =>
      exact hInit tid (hProbes tid rfl)
  | setSoftwareBreakpoint tid address =>
      exact (setSoftwareBreakpoint_exit hTables.fresh tid
        address s.world).mirrored hLaws hTables.fresh hMirrored
  | setHardwareBreakpoint tid address type =>
      exact (setHardwareBreakpoint_exit hTables.fresh tid
        address type s.world).mirrored hLaws hCalls
          hTables.fresh hPooled hTypes hMirrored
  | removeBreakpoint id =>
      exact (removeBreakpoint_exit id s.manager
        s.world).mirrored hLaws hPooled hMirrored hGood
  | enable id =>
      exact (enable_exit id s.manager s.world).mirrored hLaws
        hPooled hMirrored
  | disable id =>
      exact (disable_exit id s.manager s.world).mirrored hLaws
        hPooled hMirrored
  | getBreakpoints => exact hMirrored
  | getBreakpointsOf tid => exact hMirrored
  | getBreakpoint id => exact hMirrored
  | getBreakpointAt address => exact hMirrored

/- Only a removal that disarms leaves the mirror whole. -/
theorem removalDisarms_of_mirrors
    (hLaws : RegisterLaws debug)
    (s : Session κ)
    (op : Op)
    (hInv : MirrorInvariant debug s)
    (hMirrors :
      Mirrors (step op s).manager
        (debug (step op s).world)) :
    RemovalDisarms op s := by
  rcases hInv with ⟨⟨-, hPooled⟩, hMirrored⟩
  cases op with
  | removeBreakpoint id =>
      intro bp hLookup hType hEnabled
      by_contra hFails
      exact (removeBreakpoint_exit id s.manager
        s.world).not_mirrors hLaws hPooled hMirrored hLookup
          hType hEnabled hFails hMirrors
  | _ => trivial

/- What the answers say follows from the mirror. -/
theorem reported_of_mirror
    (s : Session κ)
    (op : Op)
    (hInv : MirrorInvariant debug s)
    (hRun : op.SetsHardware ∧ ProbesSucceed op s)
    (hNext : MirrorInvariant debug (step op s)) :
    Reported debug op s := by
  rcases hInv with ⟨⟨hTables, hPooled⟩, -⟩
  rcases hNext with ⟨-, hMirrored⟩
  cases op with
  | removeBreakpoint id =>
      intro hSuccess tid i bp hOwns
      have hExit :=
        removeBreakpoint_exit id s.manager s.world
      rw [hSuccess] at hExit
      apply hMirrored.unowned tid i
      intro id' bp'
      exact hExit.not_owns hPooled hOwns
  | disable id =>
      intro hSuccess tid i bp hOwns
      have hExit := disable_exit id s.manager s.world
      rw [hSuccess] at hExit
      exact (hMirrored.owned tid i id _ (hExit.owns hOwns)).2
  | enable id =>
      intro hSuccess tid i bp hOwns
      have hExit := enable_exit id s.manager s.world
      rw [hSuccess] at hExit
      exact (hMirrored.owned tid i id _ (hExit.owns hOwns)).2
  | setHardwareBreakpoint tid address type =>
      intro id hResult hId
      have hExit := setHardwareBreakpoint_exit hTables.fresh
        tid address type s.world
      rw [hResult] at hExit
      rcases hExit.owns hPooled hRun.1 hId with
        ⟨i, bp, hOwns, hAddress, hEnabled⟩
      refine ⟨i, bp, hOwns, hAddress, ?_⟩
      exact (hMirrored.owned tid i id bp hOwns).2.trans hEnabled
  | _ => trivial

/-
  The registers mirror the live breakpoints in every state
  of a run, and every answer about a register is so, exactly
  if every removal of a live enabled hardware breakpoint has
  its register calls go through.
-/
theorem mirrors_iff
    (hLaws : RegisterLaws debug)
    (hCalls : RegsetNeedsTid κ)
    (k : κ)
    (hClear :
      ∀ tid i, (slot (debug k) tid i).isArmed = false)
    (ops : List Op)
    (hRun :
      Along step
        (fun s op => op.SetsHardware ∧ ProbesSucceed op s) ops
        (Session.start k)) :
    ((∀ ops', ops' <+: ops →
        Mirrors (run step ops' (Session.start k)).manager
          (debug (run step ops' (Session.start k)).world)) ∧
      Along step (fun s op => Reported debug op s) ops
        (Session.start k)) ↔
      Along step (fun s op => RemovalDisarms op s) ops
        (Session.start k) := by
  have hStart :
      MirrorInvariant debug (Session.start k) := by
    refine ⟨⟨consistent_init, wellPooled_init⟩, ?_, ?_⟩
    · rintro tid i id bp ⟨hLookup, -⟩
      simp [Session.start, init] at hLookup
    · intro tid i _
      exact hClear tid i
  have hPrefixes :
      (∀ ops', ops' <+: ops →
        Mirrors (run step ops' (Session.start k)).manager
          (debug (run step ops' (Session.start k)).world)) ↔
        Along step (fun s op => RemovalDisarms op s) ops
          (Session.start k) :=
    forall_prefix_iff_along
      (fun s => Mirrors s.manager (debug s.world))
      (fun s hInv => hInv.2.mirrors)
      (step_mirror hLaws hCalls)
      (fun s op hInv _ =>
        removalDisarms_of_mirrors hLaws s op hInv)
      hStart hRun
  constructor
  · rintro ⟨hMirrors, -⟩
    exact hPrefixes.mp hMirrors
  · intro hGood
    refine ⟨hPrefixes.mpr hGood, ?_⟩
    apply along_of_invariant _ hStart (hRun.and hGood)
    rintro s op hInv ⟨hOp, hDisarms⟩
    have hNext := step_mirror hLaws hCalls s op hInv hOp hDisarms
    exact ⟨reported_of_mirror s op hInv hOp hNext, hNext⟩

/- Nothing is armed in a target that nothing was done to. -/
theorem isArmed_fresh
    (script : List Bool)
    (tid : Pid)
    (i : Fin 16) :
    (slot (SimulatedTarget.fresh script).debugRegisters
      tid i).isArmed = false := by
  change (0#32).getLsbD 0 = false
  decide

theorem mirrors_iff_fresh :
    let k := SimulatedTarget.fresh []
    let ops : List Op :=
      [.initHardwareRegister 7,
        .setHardwareBreakpoint 7 0x1000 .hardwareExecution,
        .removeBreakpoint 1]
    ((∀ ops', ops' <+: ops →
        Mirrors (run step ops' (Session.start k)).manager
          (run step ops'
            (Session.start k)).world.debugRegisters) ∧
      Along step
        (fun s op =>
          Reported SimulatedTarget.debugRegisters op s) ops
        (Session.start k)) ↔
      Along step (fun s op => RemovalDisarms op s) ops
        (Session.start k) := by
  refine mirrors_iff SimulatedTarget.registerLaws
    SimulatedTarget.regsetNeedsTid _ (isArmed_fresh _) _
    ⟨⟨trivial, ?_⟩, ⟨rfl, ?_⟩, ⟨trivial, ?_⟩, trivial⟩
  · rintro tid rfl
    rfl
  · rintro tid ⟨rfl, -⟩
    rfl
  · rintro tid hNone
    exact hNone.elim

/-
  Six register calls set the breakpoint; the first one of
  the removal fails, and register `0` stays armed with no
  breakpoint left.
-/
theorem not_mirrors_removed :
    let k := SimulatedTarget.fresh
      [true, true, true, true, true, true, false]
    let ops : List Op :=
      [.initHardwareRegister 7,
        .setHardwareBreakpoint 7 0x1000 .hardwareExecution,
        .removeBreakpoint 1]
    RegisterLaws SimulatedTarget.debugRegisters ∧
      (∀ tid i,
        (slot k.debugRegisters tid i).isArmed = false) ∧
      Along step
        (fun s op => op.SetsHardware ∧ ProbesSucceed op s) ops
        (Session.start k) ∧
      ¬ Mirrors (run step ops (Session.start k)).manager
        (run step ops (Session.start k)).world.debugRegisters :=
    by
  intro k ops
  refine ⟨SimulatedTarget.registerLaws, isArmed_fresh _,
    ⟨⟨trivial, ?_⟩, ⟨rfl, ?_⟩, ⟨trivial, ?_⟩, trivial⟩, ?_⟩
  · rintro tid rfl
    rfl
  · rintro tid ⟨rfl, -⟩
    rfl
  · rintro tid hNone
    exact hNone.elim
  · intro hMirrors
    have hArmed :
        (slot (run step ops
          (Session.start k)).world.debugRegisters 7
            0).isArmed = true := by
      decide +kernel
    rcases (hMirrors 7 0).1.mp hArmed with
      ⟨id, bp, ⟨hLookup, -⟩, -⟩
    have hEmpty :
        (run step ops (Session.start k)).manager.breakpoints =
          ∅ := by
      decide +kernel
    rw [hEmpty, Finmap.lookup_empty] at hLookup
    cases hLookup

end BreakpointManager

end AnDbg
