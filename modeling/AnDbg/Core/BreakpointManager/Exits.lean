import AnDbg.Core.BreakpointManager.Model
import AnDbg.Core.Laws

/-
  How the operations of the breakpoint manager end.

  For every operation a relation lists its exits: the guards
  and the answers of the world that lead there, whether the
  operation succeeds, and the tables and the world that it
  leaves.  Each operation takes one of its exits, and every
  invariant of the manager is checked exit by exit.

  Main declarations:
    * `AnDbg.BreakpointManager.InitExit`
    * `AnDbg.BreakpointManager.SetSoftwareExit`
    * `AnDbg.BreakpointManager.SetHardwareExit`
    * `AnDbg.BreakpointManager.RemoveExit`
    * `AnDbg.BreakpointManager.ToggleExit`
-/

------------------------------------------------------------
-- Table Updates
------------------------------------------------------------

namespace AnDbg

namespace BreakpointManager

open UnorderedMap

/- Enter a numbered breakpoint into the tables. -/
def enter
    (bp : Breakpoint)
    (m : BreakpointManager) : BreakpointManager :=
  { m with
    breakpoints := m.breakpoints.insert bp.id bp
    tidBreakpointsMap :=
      update bp.tid (insert bp.id) m.tidBreakpointsMap
    addressBreakpointMap :=
      m.addressBreakpointMap.insert bp.address bp.id
    nextBreakpointId := m.nextBreakpointId + 1 }

/- Use up a number for a breakpoint that is refused. -/
def skipId (m : BreakpointManager) : BreakpointManager :=
  { m with nextBreakpointId := m.nextBreakpointId + 1 }

/- Record the number of registers of a thread. -/
def recordCount
    (tid : Pid)
    (count : Nat)
    (m : BreakpointManager) : BreakpointManager :=
  { m with
    hardwareRegistersCount :=
      m.hardwareRegistersCount.insert tid count }

/- Record the number of registers and fill the pool. -/
def fillPool
    (tid : Pid)
    (count : Nat)
    (m : BreakpointManager) : BreakpointManager :=
  { m.recordCount tid count with
    freeHardwareRegisters :=
      fillFree tid count m.freeHardwareRegisters }

/- The breakpoint that a software setting enters. -/
def softwareBreakpoint
    (id : Int)
    (tid : Pid)
    (address : Addr)
    (originalInstruction : Word) : Breakpoint :=
  { id := id
    tid := tid
    address := address
    type := .software
    enabled := true
    originalInstruction := originalInstruction
    hardwareRegister := .invalid }

/- The breakpoint that a hardware setting enters. -/
def hardwareBreakpoint
    (id : Int)
    (tid : Pid)
    (address : Addr)
    (type : BreakpointType)
    (reg : DBRegister) : Breakpoint :=
  { id := id
    tid := tid
    address := address
    type := type
    enabled := true
    originalInstruction := 0
    hardwareRegister := reg }

end BreakpointManager

end AnDbg

------------------------------------------------------------
-- Numbering A Breakpoint
------------------------------------------------------------

namespace AnDbg

namespace BreakpointManager

open UnorderedMap

variable {m : BreakpointManager}
variable {tid : Pid} {address : Addr}

/- No live breakpoint has the address. -/
theorem checkDuplicateBreakpoint_eq_false_iff :
    m.checkDuplicateBreakpoint address = false ↔
      ∀ id bp, m.breakpoints.lookup id = some bp →
        bp.address ≠ address := by
  rw [← Bool.not_eq_true, checkDuplicateBreakpoint,
    anyValue_iff]
  constructor
  · intro hNone id bp hLookup hAddress
    exact hNone ⟨id, bp, hLookup, by simpa using hAddress⟩
  · rintro hAll ⟨id, bp, hLookup, hAddress⟩
    exact hAll id bp hLookup (by simpa using hAddress)

/- A breakpoint of no thread is refused. -/
theorem newBreakpoint_of_tid_lt
    (hTid : tid < 1)
    (m : BreakpointManager)
    (address : Addr)
    (type : BreakpointType)
    (originalInstruction : Word) :
    ∃ e, m.newBreakpoint tid address type
      originalInstruction = (.error e, m.skipId) := by
  refine ⟨.invalidArgument (utf8 "tid 必须是一个正值"), ?_⟩
  simp only [newBreakpoint, Breakpoint.make, if_pos hTid]
  rfl

/- An aligned breakpoint of a thread is entered. -/
theorem newBreakpoint_of_aligned
    (hFresh : m.nextBreakpointId ∉ m.breakpoints)
    (hTid : 1 ≤ tid)
    (hAligned : address &&& 0x3 = 0)
    (type : BreakpointType)
    (originalInstruction : Word) :
    m.newBreakpoint tid address type originalInstruction =
      (.ok m.nextBreakpointId,
        m.enter
          { id := m.nextBreakpointId
            tid := tid
            address := address
            type := type
            enabled := true
            originalInstruction := originalInstruction
            hardwareRegister := .invalid }) := by
  have hNotLt : ¬ tid < 1 := Int.not_lt.mpr hTid
  simp only [newBreakpoint, Breakpoint.make, if_neg hNotLt,
    ne_eq, hAligned, not_true_eq_false, if_false, emplace,
    if_neg hFresh]
  rfl

end BreakpointManager

end AnDbg

------------------------------------------------------------
-- Exits Of The Probe
------------------------------------------------------------

namespace AnDbg

namespace BreakpointManager

open UnorderedMap RegisterControl

variable {κ : Type}
variable [Regset κ]

/- The world after some register calls for a thread. -/
inductive RegisterCalls
    (tid : Pid)
    (k : κ) : κ → Prop
  | refl : RegisterCalls tid k k
  | get
      {found : Option UserHwdebugState}
      {k₁ k₂ : κ}
      (hCalls : RegisterCalls tid k k₁)
      (hGet : getAllDbg tid k₁ = (found, k₂)) :
      RegisterCalls tid k k₂
  | set
      {dbg : UserHwdebugState}
      {done : Bool}
      {k₁ k₂ : κ}
      (hCalls : RegisterCalls tid k k₁)
      (hSet : setAllDbg tid dbg k₁ = (done, k₂)) :
      RegisterCalls tid k k₂

/- How the probe of a thread ends. -/
inductive InitExit
    (tid : Pid)
    (m : BreakpointManager)
    (k : κ) : Bool → BreakpointManager → κ → Prop
  | already
      (hProbed : tid ∈ m.hardwareRegistersCount) :
      InitExit tid m k true m k
  | failed
      (count : Nat)
      {k' : κ}
      (hUnprobed : tid ∉ m.hardwareRegistersCount)
      (hCalls : RegisterCalls tid k k') :
      InitExit tid m k false (m.recordCount tid count) k'
  | probed
      {originDbg verifyDbg : UserHwdebugState}
      {k₁ k₂ k₃ k₄ : κ}
      (hUnprobed : tid ∉ m.hardwareRegistersCount)
      (hOrigin : getAllDbg tid k = (some originDbg, k₁))
      (hTest :
        setAllDbg tid (testDbg originDbg) k₁ = (true, k₂))
      (hVerify : getAllDbg tid k₂ = (some verifyDbg, k₃))
      (hRestore : setAllDbg tid originDbg k₃ = (true, k₄)) :
      InitExit tid m k true
        (m.fillPool tid (verifiedCount verifyDbg)) k₄

theorem initHardwareRegister_exit
    (tid : Pid)
    (m : BreakpointManager)
    (k : κ) :
    InitExit tid m k
      (initHardwareRegister tid m k).result.isSuccess
      (initHardwareRegister tid m k).object
      (initHardwareRegister tid m k).world := by
  by_cases hProbed : tid ∈ m.hardwareRegistersCount
  · rw [initHardwareRegister, if_pos hProbed]
    exact .already hProbed
  rw [initHardwareRegister, if_neg hProbed]
  have hTwice (count : Nat) :
      (m.hardwareRegistersCount.insert tid 0).insert tid
          count =
        m.hardwareRegistersCount.insert tid count :=
    Finmap.insert_insert _
  rcases hOrigin : getAllDbg tid k with ⟨_ | originDbg, k₁⟩
  · exact .failed 0 hProbed (.get .refl hOrigin)
  have hCalls₁ : RegisterCalls tid k k₁ := .get .refl hOrigin
  dsimp only
  rcases hTest : setAllDbg tid (testDbg originDbg) k₁ with
    ⟨_ | _, k₂⟩
  · exact .failed 0 hProbed (.set (.set hCalls₁ hTest) rfl)
  have hCalls₂ : RegisterCalls tid k k₂ := .set hCalls₁ hTest
  dsimp only
  rcases hVerify : getAllDbg tid k₂ with ⟨_ | verifyDbg, k₃⟩
  · exact .failed 0 hProbed
      (.set (.get hCalls₂ hVerify) rfl)
  have hCalls₃ : RegisterCalls tid k k₃ :=
    .get hCalls₂ hVerify
  dsimp only
  rw [hTwice]
  rcases hRestore : setAllDbg tid originDbg k₃ with
    ⟨_ | _, k₄⟩
  · exact .failed _ hProbed (.set hCalls₃ hRestore)
  · exact .probed hProbed hOrigin hTest hVerify hRestore

variable {tid : Pid} {reg : DBRegister}
variable {k k' : κ}

theorem RegisterCalls.trans
    {k₁ k₂ : κ}
    (hCalls : RegisterCalls tid k k₁)
    (hCalls' : RegisterCalls tid k₁ k₂) :
    RegisterCalls tid k k₂ := by
  induction hCalls' with
  | refl => exact hCalls
  | get _ hGet ih => exact .get ih hGet
  | set _ hSet ih => exact .set ih hSet

/- The probe makes register calls for its thread only. -/
theorem InitExit.calls
    {m m' : BreakpointManager}
    {success : Bool}
    (hExit : InitExit tid m k success m' k') :
    RegisterCalls tid k k' := by
  cases hExit with
  | already => exact .refl
  | failed _ _ hCalls => exact hCalls
  | probed _ hOrigin hTest hVerify hRestore =>
      exact .set (.get (.set (.get .refl hOrigin) hTest)
        hVerify) hRestore

/- So does reading one debug register. -/
theorem RegisterCalls.of_getDbg
    {found : Option (BitVec 64 × BitVec 32)}
    (hGet : getDbg tid reg k = (found, k')) :
    RegisterCalls tid k k' := by
  rcases getDbg_cases hGet with ⟨all, hAll, -⟩
  exact .get .refl hAll

/- So does setting one debug register. -/
theorem RegisterCalls.of_setDbg
    {value : BitVec 64 × BitVec 32}
    {done : Bool}
    (hSet : setDbg tid reg value k = (done, k')) :
    RegisterCalls tid k k' := by
  rcases setDbg_cases hSet with
    ⟨-, all, hAll, -⟩ | ⟨dbg, pointer, k₁, hAll, -, hStore⟩
  · exact .get .refl hAll
  · exact .set (.get .refl hAll) hStore

/- Disarming a register reads it and may set it. -/
theorem RegisterCalls.of_disarm
    (bp : Breakpoint)
    (k : κ) :
    RegisterCalls bp.tid k (disarm bp k) := by
  rw [disarm]
  rcases hGet : getDbg bp.tid bp.hardwareRegister k with
    ⟨_ | ⟨address, control⟩, k₁⟩
  · exact .of_getDbg hGet
  · exact (RegisterCalls.of_getDbg hGet).trans
      (.of_setDbg rfl)

/- Asking for the number of registers only probes. -/
theorem getHardwareRegistersCount_object
    (tid : Pid)
    (m : BreakpointManager)
    (k : κ) :
    (m.getHardwareRegistersCount tid k).object =
      (m.initHardwareRegister tid k).object := by
  rw [getHardwareRegistersCount]
  dsimp only
  split <;> rfl

theorem getHardwareRegistersCount_world
    (tid : Pid)
    (m : BreakpointManager)
    (k : κ) :
    (m.getHardwareRegistersCount tid k).world =
      (m.initHardwareRegister tid k).world := by
  rw [getHardwareRegistersCount]
  dsimp only
  split <;> rfl

end BreakpointManager

end AnDbg

------------------------------------------------------------
-- Pools After A Step
------------------------------------------------------------

namespace AnDbg

namespace BreakpointManager

open UnorderedMap

variable {m : BreakpointManager}
variable {tid : Pid}

@[simp] theorem free_touchFree
    (tid tid' : Pid) :
    (m.touchFree tid).free tid' = m.free tid' :=
  index_touch m.freeHardwareRegisters tid tid'

theorem free_takeRegister
    (reg : DBRegister)
    (tid' : Pid) :
    (m.takeRegister tid reg).free tid' =
      if tid' = tid then (m.free tid).erase reg
      else m.free tid' :=
  index_update m.freeHardwareRegisters tid _ tid'

theorem free_giveRegister
    (reg : DBRegister)
    (tid' : Pid) :
    (m.giveRegister tid reg).free tid' =
      if tid' = tid then insert reg (m.free tid)
      else m.free tid' :=
  index_update m.freeHardwareRegisters tid _ tid'

/- Filling adds the first registers to one pool. -/
theorem index_fillFree
    (count : Nat)
    (free : UnorderedMap Pid (Finset DBRegister))
    (tid' : Pid) :
    index tid' (fillFree tid count free) =
      if tid' = tid then
        index tid free ∪
          (Finset.range count).image DBRegister.ofNat
      else index tid' free := by
  induction count generalizing tid' with
  | zero =>
      rw [fillFree]
      split
      next hEq => simp [hEq]
      next => rfl
  | succ count ih =>
      have hFill :
          fillFree tid (count + 1) free =
            update tid (insert (DBRegister.ofNat count))
              (fillFree tid count free) := by
        rw [fillFree, List.range_succ, List.foldl_append]
        rfl
      rw [hFill, index_update]
      split
      next =>
        rw [ih tid, if_pos rfl, Finset.range_add_one,
          Finset.image_insert, Finset.union_insert]
      next hNe => rw [ih tid', if_neg hNe]

theorem free_fillPool
    (count : Nat)
    (tid' : Pid) :
    (m.fillPool tid count).free tid' =
      if tid' = tid then
        m.free tid ∪
          (Finset.range count).image DBRegister.ofNat
      else m.free tid' :=
  index_fillFree count m.freeHardwareRegisters tid'

end BreakpointManager

end AnDbg

------------------------------------------------------------
-- Exits Of The Settings
------------------------------------------------------------

namespace AnDbg

namespace BreakpointManager

open UnorderedMap RegisterControl MemoryControl
open LittleEndian

variable {κ : Type}

/- How setting a software breakpoint ends. -/
inductive SetSoftwareExit
    [MemoryControl κ]
    (tid : Pid)
    (address : Addr)
    (m : BreakpointManager)
    (k : κ) :
    Except StdException Int → BreakpointManager → κ → Prop
  | misaligned
      (hMisaligned : address &&& 0x3 ≠ 0) :
      SetSoftwareExit tid address m k
        (.error (misaligned address)) m k
  | duplicate
      (hDuplicate :
        m.checkDuplicateBreakpoint address = true) :
      SetSoftwareExit tid address m k (.ok (-1)) m k
  | readFailed
      {buffer : List Byte}
      {k₁ : κ}
      (hAligned : address &&& 0x3 = 0)
      (hRead :
        readMemory tid address (encode 4 (0 : Word)) k =
          (false, buffer, k₁)) :
      SetSoftwareExit tid address m k (.ok (-1)) m k₁
  | writeFailed
      {buffer : List Byte}
      {k₁ k₂ : κ}
      (hAligned : address &&& 0x3 = 0)
      (hRead :
        readMemory tid address (encode 4 (0 : Word)) k =
          (true, buffer, k₁))
      (hWrite :
        writeMemory tid address
          (encode 4 Breakpoint.BRK_OPCODE) k₁ =
          (false, k₂)) :
      SetSoftwareExit tid address m k (.ok (-1)) m k₂
  | refused
      {buffer : List Byte}
      {k₁ k₂ : κ}
      (e : StdException)
      (hTid : tid < 1)
      (hAligned : address &&& 0x3 = 0)
      (hRead :
        readMemory tid address (encode 4 (0 : Word)) k =
          (true, buffer, k₁))
      (hWrite :
        writeMemory tid address
          (encode 4 Breakpoint.BRK_OPCODE) k₁ =
          (true, k₂)) :
      SetSoftwareExit tid address m k (.error e) m.skipId k₂
  | created
      {buffer : List Byte}
      {k₁ k₂ : κ}
      (hAligned : address &&& 0x3 = 0)
      (hUnique :
        m.checkDuplicateBreakpoint address = false)
      (hTid : 1 ≤ tid)
      (hRead :
        readMemory tid address (encode 4 (0 : Word)) k =
          (true, buffer, k₁))
      (hWrite :
        writeMemory tid address
          (encode 4 Breakpoint.BRK_OPCODE) k₁ =
          (true, k₂)) :
      SetSoftwareExit tid address m k
        (.ok m.nextBreakpointId)
        (m.enter
          (softwareBreakpoint m.nextBreakpointId tid address
            (decode 32 buffer)))
        k₂

theorem setSoftwareBreakpoint_exit
    [MemoryControl κ]
    {m : BreakpointManager}
    (hFresh : m.nextBreakpointId ∉ m.breakpoints)
    (tid : Pid)
    (address : Addr)
    (k : κ) :
    SetSoftwareExit tid address m k
      (m.setSoftwareBreakpoint tid address k).result
      (m.setSoftwareBreakpoint tid address k).object
      (m.setSoftwareBreakpoint tid address k).world := by
  by_cases hAligned : address &&& 0x3 = 0
  · rw [setSoftwareBreakpoint, if_neg (not_not.mpr hAligned)]
    cases hUnique : m.checkDuplicateBreakpoint address with
    | true => exact .duplicate hUnique
    | false =>
        rw [if_neg Bool.false_ne_true]
        rcases hRead :
          readMemory tid address (encode 4 (0 : Word)) k with
          ⟨_ | _, buffer, k₁⟩
        · exact .readFailed hAligned hRead
        dsimp only
        rcases hWrite :
          writeMemory tid address
            (encode 4 Breakpoint.BRK_OPCODE) k₁ with
          ⟨_ | _, k₂⟩
        · exact .writeFailed hAligned hRead hWrite
        dsimp only
        rcases Int.lt_or_le tid 1 with hTid | hTid
        · rcases
              newBreakpoint_of_tid_lt hTid m address .software
                (decode 32 buffer) with
            ⟨e, hRefused⟩
          rw [hRefused]
          exact .refused e hTid hAligned hRead hWrite
        · rw [newBreakpoint_of_aligned hFresh hTid hAligned]
          exact .created hAligned hUnique hTid hRead hWrite
  · rw [setSoftwareBreakpoint, if_pos hAligned]
    exact .misaligned hAligned

/- How setting a hardware breakpoint ends. -/
inductive SetHardwareExit
    [Regset κ]
    (tid : Pid)
    (address : Addr)
    (type : BreakpointType)
    (m : BreakpointManager)
    (k : κ) :
    Except StdException Int → BreakpointManager → κ → Prop
  | misaligned
      (hMisaligned : address &&& 0x3 ≠ 0) :
      SetHardwareExit tid address type m k
        (.error (misaligned address)) m k
  | duplicate
      (hDuplicate :
        m.checkDuplicateBreakpoint address = true) :
      SetHardwareExit tid address type m k (.ok (-1)) m k
  | noFree
      (hEmpty : m.free tid = ∅) :
      SetHardwareExit tid address type m k (.ok (-1))
        (m.touchFree tid) k
  | initFailed
      {m₁ : BreakpointManager}
      {k₁ : κ}
      (hPool : m.free tid ≠ ∅)
      (hInit : InitExit tid (m.touchFree tid) k false m₁ k₁) :
      SetHardwareExit tid address type m k (.ok (-1)) m₁ k₁
  | wrongType
      {reg : DBRegister}
      {m₁ : BreakpointManager}
      {k₁ : κ}
      (hPool : m.free tid ≠ ∅)
      (hInit : InitExit tid (m.touchFree tid) k true m₁ k₁)
      (hFree : reg ∈ m₁.free tid)
      (hType : controlOf type = none) :
      SetHardwareExit tid address type m k (.ok (-1))
        (m₁.takeRegister tid reg) k₁
  | setFailed
      {reg : DBRegister}
      {control : BitVec 64}
      {m₁ : BreakpointManager}
      {k₁ k₂ : κ}
      (hPool : m.free tid ≠ ∅)
      (hInit : InitExit tid (m.touchFree tid) k true m₁ k₁)
      (hFree : reg ∈ m₁.free tid)
      (hType : controlOf type = some control)
      (hSet :
        setDbg tid reg (address, control.setWidth 32) k₁ =
          (false, k₂)) :
      SetHardwareExit tid address type m k (.ok (-1))
        ((m₁.takeRegister tid reg).giveRegister tid reg) k₂
  | refused
      {reg : DBRegister}
      {control : BitVec 64}
      {m₁ : BreakpointManager}
      {k₁ k₂ : κ}
      (e : StdException)
      (hTid : tid < 1)
      (hPool : m.free tid ≠ ∅)
      (hInit : InitExit tid (m.touchFree tid) k true m₁ k₁)
      (hFree : reg ∈ m₁.free tid)
      (hType : controlOf type = some control)
      (hSet :
        setDbg tid reg (address, control.setWidth 32) k₁ =
          (true, k₂)) :
      SetHardwareExit tid address type m k (.error e)
        (m₁.takeRegister tid reg).skipId k₂
  | created
      {reg : DBRegister}
      {control : BitVec 64}
      {m₁ : BreakpointManager}
      {k₁ k₂ : κ}
      (hAligned : address &&& 0x3 = 0)
      (hUnique :
        m.checkDuplicateBreakpoint address = false)
      (hTid : 1 ≤ tid)
      (hPool : m.free tid ≠ ∅)
      (hInit : InitExit tid (m.touchFree tid) k true m₁ k₁)
      (hFree : reg ∈ m₁.free tid)
      (hType : controlOf type = some control)
      (hSet :
        setDbg tid reg (address, control.setWidth 32) k₁ =
          (true, k₂)) :
      SetHardwareExit tid address type m k
        (.ok m.nextBreakpointId)
        ((m₁.takeRegister tid reg).enter
          (hardwareBreakpoint m.nextBreakpointId tid address
            type reg))
        k₂

section Frame

variable [Regset κ]
variable {tid : Pid} {m m' : BreakpointManager}
variable {k k' : κ} {success : Bool}

/- The probe leaves the breakpoints alone. -/
theorem InitExit.breakpoints_eq
    (hExit : InitExit tid m k success m' k') :
    m'.breakpoints = m.breakpoints := by
  cases hExit <;> rfl

theorem InitExit.tidBreakpointsMap_eq
    (hExit : InitExit tid m k success m' k') :
    m'.tidBreakpointsMap = m.tidBreakpointsMap := by
  cases hExit <;> rfl

theorem InitExit.nextBreakpointId_eq
    (hExit : InitExit tid m k success m' k') :
    m'.nextBreakpointId = m.nextBreakpointId := by
  cases hExit <;> rfl

/- The probe takes no register out of a pool. -/
theorem InitExit.free_subset
    (hExit : InitExit tid m k success m' k')
    (tid' : Pid) :
    m.free tid' ⊆ m'.free tid' := by
  cases hExit with
  | already => exact Finset.Subset.refl _
  | failed => exact Finset.Subset.refl _
  | probed =>
      rw [free_fillPool]
      split
      next hEq =>
        rw [hEq]
        exact Finset.subset_union_left
      next => exact Finset.Subset.refl _

end Frame

/- The register is filled in after the breakpoint is entered. -/
theorem enter_hardwareRegister
    (m : BreakpointManager)
    (bp : Breakpoint)
    (reg : DBRegister) :
    update bp.id
        (fun bp => { bp with hardwareRegister := reg })
        (m.enter bp).breakpoints =
      (m.enter { bp with hardwareRegister := reg }).breakpoints
      := by
  have hEntered :
      index bp.id (m.enter bp).breakpoints = bp :=
    index_eq_of_lookup (Finmap.lookup_insert _)
  rw [update, hEntered]
  exact Finmap.insert_insert _

/- How it ends once a register was found free. -/
theorem armRegister_exit
    [Regset κ]
    {m m₁ : BreakpointManager}
    {tid : Pid}
    {address : Addr}
    {type : BreakpointType}
    {reg : DBRegister}
    {k k₁ : κ}
    (hFresh : m.nextBreakpointId ∉ m.breakpoints)
    (hAligned : address &&& 0x3 = 0)
    (hUnique : m.checkDuplicateBreakpoint address = false)
    (hPool : m.free tid ≠ ∅)
    (hInit : InitExit tid (m.touchFree tid) k true m₁ k₁)
    (hFree : reg ∈ m₁.free tid) :
    SetHardwareExit tid address type m k
      (armRegister tid address type reg m₁ k₁).result
      (armRegister tid address type reg m₁ k₁).object
      (armRegister tid address type reg m₁ k₁).world := by
  rw [armRegister]
  cases hType : controlOf type with
  | none => exact .wrongType hPool hInit hFree hType
  | some control =>
      dsimp only
      rcases hSet :
        setDbg tid reg (address, control.setWidth 32) k₁ with
        ⟨_ | _, k₂⟩
      · exact .setFailed hPool hInit hFree hType hSet
      dsimp only
      rcases Int.lt_or_le tid 1 with hTid | hTid
      · rcases
            newBreakpoint_of_tid_lt hTid
              (m₁.takeRegister tid reg) address type 0 with
          ⟨e, hRefused⟩
        rw [hRefused]
        exact .refused e hTid hPool hInit hFree hType hSet
      · have hNext :
            (m₁.takeRegister tid reg).nextBreakpointId =
              m.nextBreakpointId :=
          hInit.nextBreakpointId_eq
        have hFresh₁ :
            (m₁.takeRegister tid reg).nextBreakpointId ∉
              (m₁.takeRegister tid reg).breakpoints := by
          intro hMem
          apply hFresh
          rw [hNext] at hMem
          exact hInit.breakpoints_eq ▸ hMem
        rw [newBreakpoint_of_aligned hFresh₁ hTid hAligned,
          hNext]
        have hEntered :=
          enter_hardwareRegister (m₁.takeRegister tid reg)
            (hardwareBreakpoint m.nextBreakpointId tid
              address type .invalid) reg
        dsimp only [hardwareBreakpoint] at hEntered ⊢
        rw [hEntered]
        exact .created hAligned hUnique hTid hPool hInit hFree
          hType hSet

theorem setHardwareBreakpoint_exit
    [Regset κ]
    [HashOrder κ DBRegister]
    {m : BreakpointManager}
    (hFresh : m.nextBreakpointId ∉ m.breakpoints)
    (tid : Pid)
    (address : Addr)
    (type : BreakpointType)
    (k : κ) :
    SetHardwareExit tid address type m k
      (m.setHardwareBreakpoint tid address type k).result
      (m.setHardwareBreakpoint tid address type k).object
      (m.setHardwareBreakpoint tid address type k).world := by
  by_cases hAligned : address &&& 0x3 = 0
  · rw [setHardwareBreakpoint, if_neg (not_not.mpr hAligned)]
    cases hUnique : m.checkDuplicateBreakpoint address with
    | true => exact .duplicate hUnique
    | false =>
        rw [if_neg Bool.false_ne_true]
        dsimp only
        by_cases hEmpty : m.free tid = ∅
        · rw [if_pos ((free_touchFree tid tid).trans hEmpty)]
          exact .noFree hEmpty
        rw [if_neg (fun hNone => hEmpty
          ((free_touchFree tid tid).symm.trans hNone))]
        have hInit :=
          initHardwareRegister_exit tid (m.touchFree tid) k
        rw [Status.isFail_eq_not_isSuccess]
        generalize
          initHardwareRegister tid (m.touchFree tid) k = probe
          at hInit ⊢
        rcases probe with ⟨status, m₁, k₁⟩
        dsimp only at hInit ⊢
        cases hStatus : status.isSuccess with
        | false =>
            rw [hStatus] at hInit
            exact .initFailed hEmpty hInit
        | true =>
            rw [hStatus] at hInit
            rw [Bool.not_true, if_neg Bool.false_ne_true]
            have hNonempty : (m₁.free tid).Nonempty := by
              apply Finset.Nonempty.mono
                (hInit.free_subset tid)
              rw [free_touchFree]
              exact Finset.nonempty_iff_ne_empty.mpr hEmpty
            have hFree :
                HashOrder.first (m₁.free tid) k₁ ∈
                  m₁.free tid :=
              HashOrder.first_mem _ k₁ hNonempty
            exact armRegister_exit hFresh hAligned hUnique
              hEmpty hInit hFree
  · rw [setHardwareBreakpoint, if_pos hAligned]
    exact .misaligned hAligned

end BreakpointManager

end AnDbg

------------------------------------------------------------
-- Exits Of Removal
------------------------------------------------------------

namespace AnDbg

namespace BreakpointManager

open RegisterControl MemoryControl LittleEndian

variable {κ : Type}
variable [MemoryControl κ] [Regset κ]

/- How removing a breakpoint ends. -/
inductive RemoveExit
    (id : Int)
    (m : BreakpointManager)
    (k : κ) : Bool → BreakpointManager → κ → Prop
  | absent
      (hLookup : m.breakpoints.lookup id = none) :
      RemoveExit id m k false m k
  | writeFailed
      {bp : Breakpoint}
      {k₁ : κ}
      (hLookup : m.breakpoints.lookup id = some bp)
      (hType : bp.type = .software)
      (hWrite :
        writeMemory bp.tid bp.address
          (encode 4 bp.originalInstruction) k =
          (false, k₁)) :
      RemoveExit id m k false m k₁
  | restored
      {bp : Breakpoint}
      {k₁ : κ}
      (hLookup : m.breakpoints.lookup id = some bp)
      (hType : bp.type = .software)
      (hWrite :
        writeMemory bp.tid bp.address
          (encode 4 bp.originalInstruction) k =
          (true, k₁)) :
      RemoveExit id m k true (m.eraseBreakpoint id bp) k₁
  | released
      {bp : Breakpoint}
      (hLookup : m.breakpoints.lookup id = some bp)
      (hType : bp.type ≠ .software)
      (hRegister : bp.hardwareRegister ≠ .invalid) :
      RemoveExit id m k true
        ((m.giveRegister bp.tid
          bp.hardwareRegister).eraseBreakpoint id bp)
        (disarm bp k)
  | dropped
      {bp : Breakpoint}
      (hLookup : m.breakpoints.lookup id = some bp)
      (hType : bp.type ≠ .software)
      (hRegister : bp.hardwareRegister = .invalid) :
      RemoveExit id m k true (m.eraseBreakpoint id bp) k

theorem removeBreakpoint_exit
    (id : Int)
    (m : BreakpointManager)
    (k : κ) :
    RemoveExit id m k
      (m.removeBreakpoint id k).result.isSuccess
      (m.removeBreakpoint id k).object
      (m.removeBreakpoint id k).world := by
  rw [removeBreakpoint]
  cases hLookup : m.breakpoints.lookup id with
  | none => exact .absent hLookup
  | some bp =>
      dsimp only
      by_cases hType : bp.type = .software
      · rw [if_pos hType]
        rcases hWrite :
          writeMemory bp.tid bp.address
            (encode 4 bp.originalInstruction) k with
          ⟨_ | _, k₁⟩
        · exact .writeFailed hLookup hType hWrite
        · exact .restored hLookup hType hWrite
      · rw [if_neg hType]
        by_cases hRegister : bp.hardwareRegister = .invalid
        · rw [if_neg (not_not.mpr hRegister)]
          exact .dropped hLookup hType hRegister
        · rw [if_pos hRegister]
          exact .released hLookup hType hRegister

end BreakpointManager

end AnDbg

------------------------------------------------------------
-- Exits Of Enabling And Disabling
------------------------------------------------------------

namespace AnDbg

namespace BreakpointManager

open RegisterControl MemoryControl LittleEndian

variable {κ : Type}
variable [MemoryControl κ] [Regset κ]

/- The word that a software breakpoint is switched by. -/
def instructionFor (on : Bool) (bp : Breakpoint) : Word :=
  if on then Breakpoint.BRK_OPCODE else bp.originalInstruction

/- The control word that a hardware breakpoint is switched by. -/
def controlFor
    (on : Bool)
    (control : BitVec 32) : BitVec 32 :=
  if on then withEnable control else withoutEnable control

/- The texts that switching a breakpoint answers with. -/
structure ToggleTexts where
  absent : StdString
  already : StdString
  writeFailed : StdString
  getFailed : StdString
  setFailed : StdString
  done (bp : Breakpoint) : StdString

/- What `enable` and `disable` have in common. -/
def toggle
    (on : Bool)
    (texts : ToggleTexts)
    (id : Int)
    (m : BreakpointManager)
    (k : κ) : Outcome BreakpointManager κ Status :=
  match m.breakpoints.lookup id with
  | none => ⟨.fail texts.absent, m, k⟩
  | some bp =>
    let done (k : κ) : Outcome BreakpointManager κ Status :=
      ⟨.success (texts.done bp), m.setEnabled id bp on, k⟩
    if bp.enabled = on then
      ⟨.success texts.already, m, k⟩
    else if bp.type = .software then
      match writeMemory bp.tid bp.address
          (encode 4 (instructionFor on bp)) k with
      | (false, k) => ⟨.fail texts.writeFailed, m, k⟩
      | (true, k) => done k
    else if bp.hardwareRegister ≠ .invalid then
      match getDbg bp.tid bp.hardwareRegister k with
      | (none, k) => ⟨.fail texts.getFailed, m, k⟩
      | (some (address, control), k) =>
        match setDbg bp.tid bp.hardwareRegister
            (address, controlFor on control) k with
        | (false, k) => ⟨.fail texts.setFailed, m, k⟩
        | (true, k) => done k
    else
      done k

theorem enable_eq_toggle
    (id : Int) :
    ∃ texts, ∀ (κ : Type) [MemoryControl κ] [Regset κ]
        (m : BreakpointManager) (k : κ),
      enable id m k = toggle true texts id m k :=
  ⟨⟨_, _, _, _, _, _⟩, fun _ _ _ _ _ => rfl⟩

theorem disable_eq_toggle
    (id : Int) :
    ∃ texts, ∀ (κ : Type) [MemoryControl κ] [Regset κ]
        (m : BreakpointManager) (k : κ),
      disable id m k = toggle false texts id m k :=
  ⟨⟨_, _, _, _, _, _⟩, fun _ _ _ _ _ => rfl⟩

/- How switching a breakpoint on or off ends. -/
inductive ToggleExit
    (on : Bool)
    (id : Int)
    (m : BreakpointManager)
    (k : κ) : Bool → BreakpointManager → κ → Prop
  | absent
      (hLookup : m.breakpoints.lookup id = none) :
      ToggleExit on id m k false m k
  | already
      {bp : Breakpoint}
      (hLookup : m.breakpoints.lookup id = some bp)
      (hEnabled : bp.enabled = on) :
      ToggleExit on id m k true m k
  | writeFailed
      {bp : Breakpoint}
      {k₁ : κ}
      (hLookup : m.breakpoints.lookup id = some bp)
      (hType : bp.type = .software)
      (hWrite :
        writeMemory bp.tid bp.address
          (encode 4 (instructionFor on bp)) k = (false, k₁)) :
      ToggleExit on id m k false m k₁
  | patched
      {bp : Breakpoint}
      {k₁ : κ}
      (hLookup : m.breakpoints.lookup id = some bp)
      (hEnabled : bp.enabled = !on)
      (hType : bp.type = .software)
      (hWrite :
        writeMemory bp.tid bp.address
          (encode 4 (instructionFor on bp)) k = (true, k₁)) :
      ToggleExit on id m k true (m.setEnabled id bp on) k₁
  | getFailed
      {bp : Breakpoint}
      {k₁ : κ}
      (hLookup : m.breakpoints.lookup id = some bp)
      (hType : bp.type ≠ .software)
      (hGet :
        getDbg bp.tid bp.hardwareRegister k = (none, k₁)) :
      ToggleExit on id m k false m k₁
  | setFailed
      {bp : Breakpoint}
      {address : BitVec 64}
      {control : BitVec 32}
      {k₁ k₂ : κ}
      (hLookup : m.breakpoints.lookup id = some bp)
      (hType : bp.type ≠ .software)
      (hGet :
        getDbg bp.tid bp.hardwareRegister k =
          (some (address, control), k₁))
      (hSet :
        setDbg bp.tid bp.hardwareRegister
          (address, controlFor on control) k₁ = (false, k₂)) :
      ToggleExit on id m k false m k₂
  | switched
      {bp : Breakpoint}
      {address : BitVec 64}
      {control : BitVec 32}
      {k₁ k₂ : κ}
      (hLookup : m.breakpoints.lookup id = some bp)
      (hEnabled : bp.enabled = !on)
      (hType : bp.type ≠ .software)
      (hGet :
        getDbg bp.tid bp.hardwareRegister k =
          (some (address, control), k₁))
      (hSet :
        setDbg bp.tid bp.hardwareRegister
          (address, controlFor on control) k₁ = (true, k₂)) :
      ToggleExit on id m k true (m.setEnabled id bp on) k₂
  | flagged
      {bp : Breakpoint}
      (hLookup : m.breakpoints.lookup id = some bp)
      (hEnabled : bp.enabled = !on)
      (hType : bp.type ≠ .software)
      (hRegister : bp.hardwareRegister = .invalid) :
      ToggleExit on id m k true (m.setEnabled id bp on) k

theorem toggle_exit
    (on : Bool)
    (texts : ToggleTexts)
    (id : Int)
    (m : BreakpointManager)
    (k : κ) :
    ToggleExit on id m k
      (m.toggle on texts id k).result.isSuccess
      (m.toggle on texts id k).object
      (m.toggle on texts id k).world := by
  rw [toggle]
  cases hLookup : m.breakpoints.lookup id with
  | none => exact .absent hLookup
  | some bp =>
      dsimp only
      by_cases hAlready : bp.enabled = on
      · rw [if_pos hAlready]
        exact .already hLookup hAlready
      have hEnabled : bp.enabled = !on :=
        Bool.eq_not_of_ne hAlready
      rw [if_neg hAlready]
      by_cases hType : bp.type = .software
      · rw [if_pos hType]
        rcases hWrite :
          writeMemory bp.tid bp.address
            (encode 4 (instructionFor on bp)) k with
          ⟨_ | _, k₁⟩
        · exact .writeFailed hLookup hType hWrite
        · exact .patched hLookup hEnabled hType hWrite
      rw [if_neg hType]
      by_cases hRegister : bp.hardwareRegister = .invalid
      · rw [if_neg (not_not.mpr hRegister)]
        exact .flagged hLookup hEnabled hType hRegister
      rw [if_pos hRegister]
      rcases hGet : getDbg bp.tid bp.hardwareRegister k with
        ⟨_ | ⟨address, control⟩, k₁⟩
      · exact .getFailed hLookup hType hGet
      dsimp only
      rcases hSet :
        setDbg bp.tid bp.hardwareRegister
          (address, controlFor on control) k₁ with
        ⟨_ | _, k₂⟩
      · exact .setFailed hLookup hType hGet hSet
      · exact .switched hLookup hEnabled hType hGet hSet

theorem enable_exit
    (id : Int)
    (m : BreakpointManager)
    (k : κ) :
    ToggleExit true id m k
      (m.enable id k).result.isSuccess
      (m.enable id k).object
      (m.enable id k).world := by
  rcases enable_eq_toggle id with ⟨texts, hToggle⟩
  rw [hToggle]
  exact toggle_exit true texts id m k

theorem disable_exit
    (id : Int)
    (m : BreakpointManager)
    (k : κ) :
    ToggleExit false id m k
      (m.disable id k).result.isSuccess
      (m.disable id k).object
      (m.disable id k).world := by
  rcases disable_eq_toggle id with ⟨texts, hToggle⟩
  rw [hToggle]
  exact toggle_exit false texts id m k

end BreakpointManager

end AnDbg
