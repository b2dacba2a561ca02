import AnDbg.Core.BreakpointManager.Exits
import AnDbg.Core.WorldMap

/-
  The breakpoint manager does the same in two worlds that a
  map relates.

  If the calls commute with a map between the worlds, every
  operation returns the same in both, leaves the same tables
  and ends in worlds that the map relates.

  Main declarations:
    * `AnDbg.BreakpointManager.setSoftwareBreakpoint_map`
      and the like, one for each operation
    * `AnDbg.BreakpointManager.Session.mapWorld`
    * `AnDbg.BreakpointManager.exec_map` and `step_map`
-/

------------------------------------------------------------
-- Operations That Access Memory
------------------------------------------------------------

namespace AnDbg

namespace BreakpointManager

open RegisterControl MemoryControl LittleEndian

variable {κ κ' : Type}
variable {f : κ' → κ}

section Memory

variable [MemoryControl κ'] [MemoryControl κ]

theorem setSoftwareBreakpoint_map
    (hMemory : MapsMemory f)
    (tid : Pid)
    (address : Addr)
    (m : BreakpointManager)
    (k : κ') :
    (setSoftwareBreakpoint tid address m k).mapWorld f =
      setSoftwareBreakpoint tid address m (f k) := by
  unfold setSoftwareBreakpoint
  by_cases hAligned : address &&& 0x3 ≠ 0
  · rw [if_pos hAligned, if_pos hAligned]
    rfl
  rw [if_neg hAligned, if_neg hAligned]
  cases m.checkDuplicateBreakpoint address with
  | true => rfl
  | false =>
      rw [if_neg Bool.false_ne_true, if_neg Bool.false_ne_true,
        hMemory.readMemory]
      rcases readMemory tid address (encode 4 (0 : Word)) k
        with ⟨_ | _, buffer, k₁⟩
      · rfl
      dsimp only
      rw [hMemory.writeMemory]
      rcases writeMemory tid address
        (encode 4 Breakpoint.BRK_OPCODE) k₁ with ⟨_ | _, k₂⟩
      · rfl
      · rfl

end Memory

end BreakpointManager

end AnDbg

------------------------------------------------------------
-- Operations That Access Registers
------------------------------------------------------------

namespace AnDbg

namespace BreakpointManager

open RegisterControl MemoryControl LittleEndian

variable {κ κ' : Type}
variable {f : κ' → κ}

section Registers

variable [Regset κ'] [Regset κ]

theorem initHardwareRegister_map
    (hRegset : MapsRegset f)
    (tid : Pid)
    (m : BreakpointManager)
    (k : κ') :
    (initHardwareRegister tid m k).mapWorld f =
      initHardwareRegister tid m (f k) := by
  unfold initHardwareRegister
  by_cases hProbed : tid ∈ m.hardwareRegistersCount
  · rw [if_pos hProbed, if_pos hProbed]
    rfl
  rw [if_neg hProbed, if_neg hProbed]
  dsimp only
  rw [hRegset.getAllDbg]
  rcases getAllDbg tid k with ⟨_ | originDbg, k₁⟩
  · rfl
  dsimp only
  rw [hRegset.setAllDbg]
  rcases setAllDbg tid (testDbg originDbg) k₁ with ⟨_ | _, k₂⟩
  · dsimp only
    rw [hRegset.setAllDbg]
    rfl
  dsimp only
  rw [hRegset.getAllDbg]
  rcases getAllDbg tid k₂ with ⟨_ | verifyDbg, k₃⟩
  · dsimp only
    rw [hRegset.setAllDbg]
    rfl
  dsimp only
  rw [hRegset.setAllDbg]
  rcases setAllDbg tid originDbg k₃ with ⟨_ | _, k₄⟩
  · rfl
  · rfl

theorem getHardwareRegistersCount_map
    (hRegset : MapsRegset f)
    (tid : Pid)
    (m : BreakpointManager)
    (k : κ') :
    (getHardwareRegistersCount tid m k).mapWorld f =
      getHardwareRegistersCount tid m (f k) := by
  unfold getHardwareRegistersCount
  rw [← initHardwareRegister_map hRegset]
  dsimp only [Outcome.mapWorld]
  split
  next => rfl
  next => rfl

theorem armRegister_map
    (hRegset : MapsRegset f)
    (tid : Pid)
    (address : Addr)
    (type : BreakpointType)
    (reg : DBRegister)
    (m : BreakpointManager)
    (k : κ') :
    (armRegister tid address type reg m k).mapWorld f =
      armRegister tid address type reg m (f k) := by
  unfold armRegister
  cases controlOf type with
  | none => rfl
  | some control =>
      dsimp only
      rw [hRegset.setDbg]
      rcases setDbg tid reg (address, control.setWidth 32) k
        with ⟨_ | _, k₁⟩
      · rfl
      dsimp only
      rcases (m.takeRegister tid reg).newBreakpoint tid
        address type 0 with ⟨_ | _, m₁⟩
      · rfl
      · rfl

theorem setHardwareBreakpoint_map
    [HashOrder κ' DBRegister]
    [HashOrder κ DBRegister]
    (hRegset : MapsRegset f)
    (hOrder : MapsHashOrder DBRegister f)
    (tid : Pid)
    (address : Addr)
    (type : BreakpointType)
    (m : BreakpointManager)
    (k : κ') :
    (setHardwareBreakpoint tid address type m k).mapWorld f =
      setHardwareBreakpoint tid address type m (f k) := by
  unfold setHardwareBreakpoint
  by_cases hAligned : address &&& 0x3 ≠ 0
  · rw [if_pos hAligned, if_pos hAligned]
    rfl
  rw [if_neg hAligned, if_neg hAligned]
  cases m.checkDuplicateBreakpoint address with
  | true => rfl
  | false =>
      rw [if_neg Bool.false_ne_true, if_neg Bool.false_ne_true]
      dsimp only
      by_cases hNone : (m.touchFree tid).free tid = ∅
      · rw [if_pos hNone, if_pos hNone]
        rfl
      rw [if_neg hNone, if_neg hNone,
        ← initHardwareRegister_map hRegset]
      generalize
        initHardwareRegister tid (m.touchFree tid) k = probe
      rcases probe with ⟨status, m₁, k₁⟩
      by_cases hFail : status.isFail = true
      · rw [if_pos hFail]
        exact (if_pos hFail).symm
      · rw [if_neg hFail]
        have hFirst := hOrder.first (m₁.free tid) k₁
        have hArmed := armRegister_map hRegset tid address type
          (HashOrder.first (m₁.free tid) k₁) m₁ k₁
        rw [← hFirst] at hArmed ⊢
        exact hArmed.trans (if_neg hFail).symm

theorem disarm_map
    (hRegset : MapsRegset f)
    (bp : Breakpoint)
    (k : κ') :
    f (disarm bp k) = disarm bp (f k) := by
  unfold disarm
  rw [hRegset.getDbg]
  rcases getDbg bp.tid bp.hardwareRegister k with
    ⟨_ | ⟨address, control⟩, k₁⟩
  · rfl
  dsimp only
  rw [hRegset.setDbg]

end Registers

variable [MemoryControl κ'] [MemoryControl κ]
variable [Regset κ'] [Regset κ]

theorem removeBreakpoint_map
    (hMemory : MapsMemory f)
    (hRegset : MapsRegset f)
    (id : Int)
    (m : BreakpointManager)
    (k : κ') :
    (removeBreakpoint id m k).mapWorld f =
      removeBreakpoint id m (f k) := by
  unfold removeBreakpoint
  rcases m.breakpoints.lookup id with _ | bp
  · rfl
  dsimp only
  by_cases hType : bp.type = .software
  · rw [if_pos hType, if_pos hType, hMemory.writeMemory]
    rcases writeMemory bp.tid bp.address
      (encode 4 bp.originalInstruction) k with ⟨_ | _, k₁⟩
    · rfl
    · rfl
  rw [if_neg hType, if_neg hType, ← disarm_map hRegset]
  by_cases hRegister : bp.hardwareRegister ≠ .invalid
  · rw [if_pos hRegister, if_pos hRegister]
    rfl
  · rw [if_neg hRegister, if_neg hRegister]
    rfl

theorem toggle_map
    (hMemory : MapsMemory f)
    (hRegset : MapsRegset f)
    (on : Bool)
    (texts : ToggleTexts)
    (id : Int)
    (m : BreakpointManager)
    (k : κ') :
    (toggle on texts id m k).mapWorld f =
      toggle on texts id m (f k) := by
  unfold toggle
  rcases m.breakpoints.lookup id with _ | bp
  · rfl
  dsimp only
  by_cases hAlready : bp.enabled = on
  · rw [if_pos hAlready, if_pos hAlready]
    rfl
  rw [if_neg hAlready, if_neg hAlready]
  by_cases hType : bp.type = .software
  · rw [if_pos hType, if_pos hType, hMemory.writeMemory]
    rcases writeMemory bp.tid bp.address
      (encode 4 (instructionFor on bp)) k with ⟨_ | _, k₁⟩
    · rfl
    · rfl
  rw [if_neg hType, if_neg hType]
  by_cases hRegister : bp.hardwareRegister ≠ .invalid
  · rw [if_pos hRegister, if_pos hRegister, hRegset.getDbg]
    rcases getDbg bp.tid bp.hardwareRegister k with
      ⟨_ | ⟨address, control⟩, k₁⟩
    · rfl
    dsimp only
    rw [hRegset.setDbg]
    rcases setDbg bp.tid bp.hardwareRegister
      (address, controlFor on control) k₁ with ⟨_ | _, k₂⟩
    · rfl
    · rfl
  · rw [if_neg hRegister, if_neg hRegister]
    rfl

theorem enable_map
    (hMemory : MapsMemory f)
    (hRegset : MapsRegset f)
    (id : Int)
    (m : BreakpointManager)
    (k : κ') :
    (enable id m k).mapWorld f = enable id m (f k) := by
  rcases enable_eq_toggle id with ⟨texts, hToggle⟩
  rw [hToggle, hToggle]
  exact toggle_map hMemory hRegset true texts id m k

theorem disable_map
    (hMemory : MapsMemory f)
    (hRegset : MapsRegset f)
    (id : Int)
    (m : BreakpointManager)
    (k : κ') :
    (disable id m k).mapWorld f = disable id m (f k) := by
  rcases disable_eq_toggle id with ⟨texts, hToggle⟩
  rw [hToggle, hToggle]
  exact toggle_map hMemory hRegset false texts id m k

end BreakpointManager

end AnDbg

------------------------------------------------------------
-- Sessions
------------------------------------------------------------

namespace AnDbg

namespace BreakpointManager

variable {κ κ' : Type}
variable {f : κ' → κ}

/- A session with its world seen through a map. -/
def Session.mapWorld
    (f : κ' → κ)
    (s : Session κ') : Session κ :=
  ⟨s.manager, f s.world⟩

variable [MemoryControl κ'] [MemoryControl κ]
variable [Regset κ'] [Regset κ]
variable [HashOrder κ' DBRegister] [HashOrder κ DBRegister]

theorem exec_map
    (hMemory : MapsMemory f)
    (hRegset : MapsRegset f)
    (hOrder : MapsHashOrder DBRegister f)
    (op : Op)
    (s : Session κ') :
    (exec op s).mapWorld f = exec op (s.mapWorld f) := by
  have hLift {α : Type} (wrap : α → Answer)
      {done : Outcome BreakpointManager κ' α}
      {done' : Outcome BreakpointManager κ α}
      (hSame : done.mapWorld f = done') :
      (Outcome.mapWorld f
        ⟨wrap done.result, done.object, done.world⟩ :
          Outcome BreakpointManager κ Answer) =
        ⟨wrap done'.result, done'.object, done'.world⟩ := by
    subst hSame
    rfl
  cases op with
  | getHardwareRegistersCount tid =>
      exact hLift .count (getHardwareRegistersCount_map
        hRegset tid s.manager s.world)
  | initHardwareRegister tid =>
      exact hLift .status (initHardwareRegister_map hRegset
        tid s.manager s.world)
  | setSoftwareBreakpoint tid address =>
      exact hLift .id (setSoftwareBreakpoint_map hMemory tid
        address s.manager s.world)
  | setHardwareBreakpoint tid address type =>
      exact hLift .id (setHardwareBreakpoint_map hRegset
        hOrder tid address type s.manager s.world)
  | removeBreakpoint id =>
      exact hLift .status (removeBreakpoint_map hMemory
        hRegset id s.manager s.world)
  | enable id =>
      exact hLift .status (enable_map hMemory hRegset id
        s.manager s.world)
  | disable id =>
      exact hLift .status (disable_map hMemory hRegset id
        s.manager s.world)
  | getBreakpoints => rfl
  | getBreakpointsOf tid => rfl
  | getBreakpoint id => rfl
  | getBreakpointAt address => rfl

theorem step_map
    (hMemory : MapsMemory f)
    (hRegset : MapsRegset f)
    (hOrder : MapsHashOrder DBRegister f)
    (op : Op)
    (s : Session κ') :
    (step op s).mapWorld f = step op (s.mapWorld f) := by
  have hExec := exec_map hMemory hRegset hOrder op s
  unfold step
  rw [← hExec]
  rfl

end BreakpointManager

end AnDbg
