import AnDbg.Core.BreakpointManager.Mirror
import AnDbg.Core.BreakpointManager.SoundPools

/-
  The debug register of a live hardware breakpoint holds
  what the breakpoint says, bit by bit.

  Setting a breakpoint writes its address and the control
  word of its type, and switching it changes the enable bit
  alone, so that the register is a function of the entry in
  the table.  Only a probe that does not run through can
  break this; which other calls fail makes no difference,
  and neither do removals whose calls fail.

  Main declarations:
    * `AnDbg.Breakpoint.dbgReg`
    * `AnDbg.BreakpointManager.Programmed`
    * `AnDbg.BreakpointManager.step_programmed`
-/

------------------------------------------------------------
-- The Register Of A Breakpoint
------------------------------------------------------------

namespace AnDbg

open BreakpointManager

/- The debug register that a hardware breakpoint asks for. -/
def Breakpoint.dbgReg (bp : Breakpoint) : Option DbgReg :=
  (controlOf bp.type).map fun control =>
    ⟨bp.address, controlFor bp.enabled (control.setWidth 32)⟩

namespace BreakpointManager

theorem getLsbD_enable
    (i : Nat) :
    DBGBCR_ENABLE.getLsbD i = decide (i = 0) := by
  change (1#64).getLsbD i = _
  simp [BitVec.getLsbD_one]

/- Switching a control word is setting its lowest bit. -/
theorem getLsbD_controlFor
    (on : Bool)
    (control : BitVec 32)
    {i : Nat}
    (hLt : i < 32) :
    (controlFor on control).getLsbD i =
      if i = 0 then on else control.getLsbD i := by
  have hWide : i < 64 := by omega
  cases on with
  | true =>
      rw [controlFor, if_pos rfl, withEnable,
        BitVec.getLsbD_setWidth, BitVec.getLsbD_or,
        getLsbD_enable]
      by_cases hLow : i = 0 <;> simp [hLow, hLt, hWide]
  | false =>
      rw [controlFor, if_neg Bool.false_ne_true, withoutEnable,
        BitVec.getLsbD_setWidth, BitVec.getLsbD_and,
        BitVec.getLsbD_not, getLsbD_enable]
      by_cases hLow : i = 0 <;> simp [hLow, hLt, hWide]

/- Switching twice is switching the second time. -/
theorem controlFor_controlFor
    (on on' : Bool)
    (control : BitVec 32) :
    controlFor on (controlFor on' control) =
      controlFor on control := by
  apply BitVec.eq_of_getLsbD_eq
  intro i hLt
  simp only [getLsbD_controlFor _ _ hLt]
  split <;> rfl

/- The control words of the types have the enable bit. -/
theorem controlFor_controlOf
    {type : BreakpointType}
    {control : BitVec 64}
    (hType : controlOf type = some control) :
    controlFor true (control.setWidth 32) =
      control.setWidth 32 := by
  cases type with
  | software => cases hType
  | hardwareExecution =>
      cases hType
      decide
  | hardwareWrite =>
      cases hType
      decide
  | hardwareReadwrite =>
      cases hType
      decide
  | other value => cases hType

/- Switching a breakpoint switches the register it asks for. -/
theorem dbgReg_setEnabled
    {bp : Breakpoint}
    {reg : DbgReg}
    (hReg : bp.dbgReg = some reg)
    (on : Bool) :
    Breakpoint.dbgReg { bp with enabled := on } =
      some ⟨reg.addr, controlFor on reg.ctrl⟩ := by
  unfold Breakpoint.dbgReg at hReg ⊢
  cases hType : controlOf bp.type with
  | none =>
      rw [hType] at hReg
      cases hReg
  | some control =>
      rw [hType] at hReg
      cases hReg
      simp [controlFor_controlFor]

end BreakpointManager

end AnDbg

------------------------------------------------------------
-- Programmed Registers
------------------------------------------------------------

namespace AnDbg

namespace BreakpointManager

/- Every owned register holds what its owner asks for. -/
def Programmed
    (m : BreakpointManager)
    (d : Pid → UserHwdebugState) : Prop :=
  ∀ tid i id bp, Owns m tid i id bp →
    bp.dbgReg = some (slot d tid i)

variable {m m' : BreakpointManager}
variable {d : Pid → UserHwdebugState}
variable {tid : Pid} {i : Fin 16} {id : Int} {bp : Breakpoint}

/- In sound pools a register has one owner. -/
theorem SoundPools.owner_unique
    {id' : Int}
    {bp' : Breakpoint}
    (hPools : SoundPools m)
    (hOwns : Owns m tid i id bp)
    (hOwns' : Owns m tid i id' bp') :
    id = id' := by
  rcases hOwns with ⟨hLookup, hType, hTid, hSlot⟩
  rcases hOwns' with ⟨hLookup', hType', hTid', hSlot'⟩
  by_contra hNe
  exact hPools.apart hNe hLookup hType hLookup' hType'
    (hTid.trans hTid'.symm) (hSlot.trans hSlot'.symm)

/- A free register has none. -/
theorem SoundPools.not_owns
    (hPools : SoundPools m)
    (hFree : .dbg i ∈ m.free tid)
    (id : Int)
    (bp : Breakpoint) :
    ¬ Owns m tid i id bp := by
  intro hOwns
  rcases hPools tid with ⟨all, -, hPart, -⟩
  exact hPart.disjoint (.dbg i) (Finset.mem_coe.mpr hFree)
    ⟨id, hOwns.holder⟩

/- Live hardware breakpoints own a slot. -/
theorem SoundPools.owns
    (hPools : SoundPools m)
    (hLookup : m.breakpoints.lookup id = some bp)
    (hType : bp.type ≠ .software) :
    ∃ i, Owns m bp.tid i id bp := by
  rcases hPools.slot hLookup hType with ⟨i, hSlot⟩
  exact ⟨i, hLookup, hType, rfl, hSlot⟩

theorem Programmed.congr
    (hProgrammed : Programmed m d)
    (hBreakpoints : m'.breakpoints = m.breakpoints) :
    Programmed m' d := by
  rintro tid i id bp ⟨hLookup, hRest⟩
  rw [hBreakpoints] at hLookup
  exact hProgrammed tid i id bp ⟨hLookup, hRest⟩

/- A register that nobody owns can be written. -/
theorem Programmed.setSlot
    (hProgrammed : Programmed m d)
    (hFree : ∀ id bp, ¬ Owns m tid i id bp)
    (value : DbgReg) :
    Programmed m (setSlot d tid i value) := by
  intro tid' j id' found hOwns
  rw [slot_setSlot, if_neg]
  · exact hProgrammed tid' j id' found hOwns
  · rintro ⟨rfl, rfl⟩
    exact hFree id' found hOwns

/- A breakpoint is entered together with its register. -/
theorem Programmed.enter_hardware
    {reg : DbgReg}
    (hProgrammed : Programmed m d)
    (hReg : bp.dbgReg = some reg)
    (hRegister : bp.hardwareRegister = .dbg i)
    (hFree : ∀ id found, ¬ Owns m bp.tid i id found) :
    Programmed (m.enter bp)
      (BreakpointManager.setSlot d bp.tid i reg) := by
  rintro tid j id found ⟨hLookup, hRest⟩
  rcases lookup_enter_cases hLookup with
    ⟨-, rfl⟩ | ⟨-, hFound⟩
  · rcases hRest with ⟨-, hTid, hSlot⟩
    rw [hRegister] at hSlot
    cases hSlot
    rw [slot_setSlot, if_pos ⟨hTid.symm, rfl⟩, hReg]
  · exact hProgrammed.setSlot hFree reg tid j id found
      ⟨hFound, hRest⟩

/- A software breakpoint owns no register. -/
theorem Programmed.enter_software
    (hProgrammed : Programmed m d)
    (hType : bp.type = .software) :
    Programmed (m.enter bp) d := by
  rintro tid j id found ⟨hLookup, hRest⟩
  rcases lookup_enter_cases hLookup with
    ⟨-, rfl⟩ | ⟨-, hFound⟩
  · exact absurd hType hRest.1
  · exact hProgrammed tid j id found ⟨hFound, hRest⟩

/- A breakpoint that goes leaves the others' registers. -/
theorem Programmed.erase
    (hProgrammed : Programmed m d) :
    Programmed (m.eraseBreakpoint id bp) d := by
  intro tid j id' found hFound
  exact hProgrammed tid j id' found hFound.of_erase.2

/- Its own register is no longer looked at. -/
theorem Programmed.erase_setSlot
    (hProgrammed : Programmed m d)
    (hPools : SoundPools m)
    (hOwns : Owns m tid i id bp)
    (value : DbgReg) :
    Programmed (m.eraseBreakpoint id bp)
      (BreakpointManager.setSlot d tid i value) := by
  apply hProgrammed.erase.setSlot
  intro id' found hFound
  rcases hFound.of_erase with ⟨hNe, hOld⟩
  exact hNe (hPools.owner_unique hOld hOwns)

/- A breakpoint is switched together with its register. -/
theorem Programmed.switch_hardware
    (hProgrammed : Programmed m d)
    (hPools : SoundPools m)
    (hOwns : Owns m tid i id bp)
    (on : Bool) :
    Programmed (m.setEnabled id bp on)
      (BreakpointManager.setSlot d tid i
        ⟨(slot d tid i).addr,
          controlFor on (slot d tid i).ctrl⟩) := by
  intro tid' j id' found hFound
  rcases (owns_setEnabled hOwns.1).mp hFound with
    ⟨old, hOld, rfl⟩
  have hReg := hProgrammed tid' j id' old hOld
  rw [slot_setSlot]
  by_cases hHere : tid' = tid ∧ j = i
  · rcases hHere with ⟨rfl, rfl⟩
    cases hPools.owner_unique hOld hOwns
    rw [if_pos rfl, if_pos ⟨rfl, rfl⟩]
    exact dbgReg_setEnabled hReg on
  · rw [if_neg hHere, if_neg, hReg]
    rintro rfl
    exact hHere (hOwns.same_slot hOld)

theorem Programmed.switch_software
    {on : Bool}
    (hProgrammed : Programmed m d)
    (hLookup : m.breakpoints.lookup id = some bp)
    (hType : bp.type = .software) :
    Programmed (m.setEnabled id bp on) d := by
  intro tid j id' found hFound
  rcases (owns_setEnabled hLookup).mp hFound with
    ⟨old, hOld, rfl⟩
  rw [if_neg (hOld.ne_software hLookup hType)]
  exact hProgrammed tid j id' old hOld

end BreakpointManager

end AnDbg

------------------------------------------------------------
-- Operations Keep The Registers Programmed
------------------------------------------------------------

namespace AnDbg

namespace BreakpointManager

open RegisterControl

variable {κ : Type}
variable [MemoryControl κ] [Regset κ]
variable {debug : κ → Pid → UserHwdebugState}
variable {m m' : BreakpointManager} {k k' : κ}
variable {tid : Pid} {address : Addr} {id : Int}

theorem SetSoftwareExit.programmed
    {result : Except StdException Int}
    (hLaws : RegisterLaws debug)
    (hProgrammed : Programmed m (debug k))
    (hExit : SetSoftwareExit tid address m k result m' k') :
    Programmed m' (debug k') := by
  cases hExit with
  | misaligned => exact hProgrammed
  | duplicate => exact hProgrammed
  | readFailed _ hRead =>
      rw [hLaws.readMemory hRead]
      exact hProgrammed
  | writeFailed _ hRead hWrite =>
      rw [hLaws.writeMemory hWrite, hLaws.readMemory hRead]
      exact hProgrammed
  | refused _ _ _ hRead hWrite =>
      rw [hLaws.writeMemory hWrite, hLaws.readMemory hRead]
      exact hProgrammed.congr rfl
  | created _ _ _ hRead hWrite =>
      rw [hLaws.writeMemory hWrite, hLaws.readMemory hRead]
      exact hProgrammed.enter_software rfl

/- A setting writes a register that was free. -/
theorem SetHardwareExit.programmed
    {type : BreakpointType}
    {result : Except StdException Int}
    (hLaws : RegisterLaws debug)
    (hPools : SoundPools m)
    (hProgrammed : Programmed m (debug k))
    (hExit :
      SetHardwareExit tid address type m k result m' k') :
    Programmed m' (debug k') := by
  have hProbed (hPool : m.free tid ≠ ∅) :
      tid ∈ m.hardwareRegistersCount := by
    by_contra hNot
    exact hPool (hPools.probedIfFree tid hNot)
  cases hExit with
  | misaligned => exact hProgrammed
  | duplicate => exact hProgrammed
  | noFree => exact hProgrammed.congr rfl
  | initFailed hPool hInit =>
      rcases hInit.already_of_free (hProbed hPool) with
        ⟨-, -, hSuccess⟩
      cases hSuccess
  | wrongType hPool hInit =>
      rcases hInit.already_of_free (hProbed hPool) with
        ⟨rfl, rfl, -⟩
      exact hProgrammed.congr rfl
  | setFailed hPool hInit _ _ hSet =>
      rcases hInit.already_of_free (hProbed hPool) with
        ⟨rfl, rfl, -⟩
      rw [debug_setDbg_failed hLaws hSet]
      exact hProgrammed.congr rfl
  | refused _ _ hPool hInit hFree _ hSet =>
      rcases hInit.already_of_free (hProbed hPool) with
        ⟨rfl, rfl, -⟩
      rw [free_touchFree] at hFree
      rcases hPools.exists_slot (.inl hFree) with ⟨i, rfl⟩
      rw [debug_setDbg hLaws hSet]
      have hWritten :=
        hProgrammed.setSlot (hPools.not_owns hFree)
      exact (hWritten _).congr rfl
  | @created reg control _ _ _ _ _ _ hPool hInit hFree hControl
      hSet =>
      rcases hInit.already_of_free (hProbed hPool) with
        ⟨rfl, rfl, -⟩
      rw [free_touchFree] at hFree
      rcases hPools.exists_slot (.inl hFree) with ⟨i, rfl⟩
      have hReg :
          Breakpoint.dbgReg
              (hardwareBreakpoint m.nextBreakpointId tid
                address type (.dbg i)) =
            some ⟨address, control.setWidth 32⟩ := by
        change (controlOf type).map _ = _
        rw [hControl, Option.map_some]
        exact congrArg (fun word => some (DbgReg.mk address word))
          (controlFor_controlOf hControl)
      have hEntered :=
        hProgrammed.enter_hardware hReg rfl
          (hPools.not_owns hFree)
      rw [debug_setDbg hLaws hSet]
      exact hEntered.congr rfl

/- A removal writes no register but the one it gives back. -/
theorem RemoveExit.programmed
    {success : Bool}
    (hLaws : RegisterLaws debug)
    (hPools : SoundPools m)
    (hProgrammed : Programmed m (debug k))
    (hExit : RemoveExit id m k success m' k') :
    Programmed m' (debug k') := by
  cases hExit with
  | absent => exact hProgrammed
  | writeFailed _ _ hWrite =>
      rw [hLaws.writeMemory hWrite]
      exact hProgrammed
  | restored _ _ hWrite =>
      rw [hLaws.writeMemory hWrite]
      exact hProgrammed.erase
  | @released bp hLookup hType =>
      rcases hPools.owns hLookup hType with ⟨i, hOwns⟩
      by_cases hDone : Disarms bp k
      · rcases debug_disarm hLaws hOwns.2.2.2 hDone with
          ⟨control, hDebug⟩
        rw [hDebug]
        have hErased :=
          hProgrammed.erase_setSlot hPools hOwns
        exact (hErased _).congr rfl
      · rw [debug_disarm_failed hLaws hDone]
        have hErased :
            Programmed (m.eraseBreakpoint id bp) (debug k) :=
          hProgrammed.erase
        exact hErased.congr rfl
  | dropped => exact hProgrammed.erase

theorem ToggleExit.programmed
    {on success : Bool}
    (hLaws : RegisterLaws debug)
    (hPools : SoundPools m)
    (hProgrammed : Programmed m (debug k))
    (hExit : ToggleExit on id m k success m' k') :
    Programmed m' (debug k') := by
  cases hExit with
  | absent => exact hProgrammed
  | already => exact hProgrammed
  | writeFailed _ _ hWrite =>
      rw [hLaws.writeMemory hWrite]
      exact hProgrammed
  | patched hLookup _ hType hWrite =>
      rw [hLaws.writeMemory hWrite]
      exact hProgrammed.switch_software hLookup hType
  | getFailed _ _ hGet =>
      rw [debug_getDbg hLaws hGet]
      exact hProgrammed
  | setFailed _ _ hGet hSet =>
      rw [debug_setDbg_failed hLaws hSet,
        debug_getDbg hLaws hGet]
      exact hProgrammed
  | @switched bp address control _ _ hLookup _ hType hGet
      hSet =>
      rcases hPools.owns hLookup hType with ⟨i, hOwns⟩
      rw [hOwns.2.2.2] at hGet hSet
      have hSwitched :=
        hProgrammed.switch_hardware hPools hOwns on
      rw [debug_setDbg hLaws hSet, debug_getDbg hLaws hGet]
      rw [getDbg_eq_some hLaws hGet] at hSwitched
      exact hSwitched
  | flagged hLookup _ hType hRegister =>
      rcases hPools.owns hLookup hType with ⟨i, hOwns⟩
      rw [hOwns.2.2.2] at hRegister
      cases hRegister

variable [HashOrder κ DBRegister]

/- Every operation whose probe runs through keeps them. -/
theorem step_programmed
    (hLaws : RegisterLaws debug)
    (s : Session κ)
    (op : Op)
    (hSound : Sound s)
    (hProbes : ProbesSucceed op s)
    (hProgrammed : Programmed s.manager (debug s.world)) :
    Programmed (step op s).manager
      (debug (step op s).world) := by
  have hInit (tid : Pid)
      (hSuccess :
        (s.manager.initHardwareRegister tid
          s.world).result.isSuccess = true) :
      Programmed (s.manager.initHardwareRegister tid
          s.world).object
        (debug (s.manager.initHardwareRegister tid
          s.world).world) := by
    have hExit :=
      initHardwareRegister_exit tid s.manager s.world
    rw [hSuccess] at hExit
    rw [hExit.debug_eq hLaws]
    exact hProgrammed.congr hExit.breakpoints_eq
  cases op with
  | getHardwareRegistersCount tid =>
      have hCount := hInit tid (hProbes tid rfl)
      rw [← getHardwareRegistersCount_object,
        ← getHardwareRegistersCount_world] at hCount
      exact hCount
  | initHardwareRegister tid =>
      exact hInit tid (hProbes tid rfl)
  | setSoftwareBreakpoint tid address =>
      exact (setSoftwareBreakpoint_exit hSound.tables.fresh tid
        address s.world).programmed hLaws hProgrammed
  | setHardwareBreakpoint tid address type =>
      exact (setHardwareBreakpoint_exit hSound.tables.fresh tid
        address type s.world).programmed hLaws hSound.pools
          hProgrammed
  | removeBreakpoint id =>
      exact (removeBreakpoint_exit id s.manager
        s.world).programmed hLaws hSound.pools hProgrammed
  | enable id =>
      exact (enable_exit id s.manager s.world).programmed hLaws
        hSound.pools hProgrammed
  | disable id =>
      exact (disable_exit id s.manager s.world).programmed hLaws
        hSound.pools hProgrammed
  | getBreakpoints => exact hProgrammed
  | getBreakpointsOf tid => exact hProgrammed
  | getBreakpoint id => exact hProgrammed
  | getBreakpointAt address => exact hProgrammed

end BreakpointManager

end AnDbg
