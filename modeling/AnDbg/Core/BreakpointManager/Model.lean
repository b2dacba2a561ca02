import AnDbg.Core.RegisterControl
import AnDbg.Lib.UnorderedMap

/-
  The breakpoint manager: its tables and its operations.

  A software breakpoint saves the instruction word at its
  address and puts `BRK_OPCODE` there; a hardware breakpoint
  takes a debug register from the pool of its thread.  Each
  operation is written with the exits of the source in the
  order of the source.

  `m_next_breakpoint_id_` is an `int` whose increment is
  undefined past `2 ^ 31 - 1`; here it does not overflow, so
  a run stands for one of the program as long as fewer than
  `2 ^ 31 - 1` breakpoints are created in it.

  Main declarations:
    * `AnDbg.Breakpoint`
    * `AnDbg.BreakpointManager`
    * `AnDbg.BreakpointManager.setSoftwareBreakpoint`
    * `AnDbg.BreakpointManager.setHardwareBreakpoint`
    * `AnDbg.BreakpointManager.removeBreakpoint`
    * `AnDbg.BreakpointManager.enable` and `disable`
    * `AnDbg.BreakpointManager.exec`
-/

------------------------------------------------------------
-- Breakpoints
------------------------------------------------------------

namespace AnDbg

/-
  The breakpoint types; a cast from another number yields a
  value that is none of the four.
-/
inductive BreakpointType
  | software
  | hardwareExecution
  | hardwareWrite
  | hardwareReadwrite
  | other (value : Int)
deriving DecidableEq

/- The types that `DebuggerCore` sets in a debug register. -/
def BreakpointType.isHardware (type : BreakpointType) : Bool :=
  type = .hardwareExecution ∨ type = .hardwareReadwrite ∨
    type = .hardwareWrite

/- A breakpoint. -/
structure Breakpoint where
  id : Int
  tid : Pid
  address : Addr
  type : BreakpointType
  enabled : Bool
  originalInstruction : Word
  hardwareRegister : DBRegister
deriving DecidableEq

namespace Breakpoint

/- The ARM64 breakpoint instruction. -/
def BRK_OPCODE : Word := 0xD4200000#32

/- `Breakpoint() = default`. -/
instance : Inhabited Breakpoint where
  default :=
    { id := 0
      tid := 0
      address := 0
      type := .other 0
      enabled := false
      originalInstruction := 0
      hardwareRegister := .dbg 0 }

/- The constructor, which checks the thread and the address. -/
def make
    (id : Int)
    (tid : Pid)
    (address : Addr)
    (type : BreakpointType) :
    Except StdException Breakpoint :=
  if tid < 1 then
    .error (.invalidArgument (utf8 "tid 必须是一个正值"))
  else if address &&& 0x3 ≠ 0 then
    .error (.invalidArgument (utf8 "address 必须四字节对齐"))
  else
    .ok
      { id := id
        tid := tid
        address := address
        type := type
        enabled := false
        originalInstruction := 0
        hardwareRegister := .invalid }

end Breakpoint

/- The tables of the manager. -/
structure BreakpointManager where
  breakpoints : UnorderedMap Int Breakpoint
  tidBreakpointsMap : UnorderedMap Pid (Finset Int)
  addressBreakpointMap : UnorderedMap Addr Int
  freeHardwareRegisters : UnorderedMap Pid (Finset DBRegister)
  hardwareRegistersCount : UnorderedMap Pid Nat
  nextBreakpointId : Int

end AnDbg

------------------------------------------------------------
-- Control Words
------------------------------------------------------------

namespace AnDbg

namespace BreakpointManager

def DBGBCR_ENABLE : BitVec 64 := 1 <<< 0
def DBGBCR_TYPE_EXECUTION : BitVec 64 := 0 <<< 1
def DBGBCR_TYPE_WRITE : BitVec 64 := 1 <<< 1
def DBGBCR_TYPE_READWRITE : BitVec 64 := 2 <<< 1
def DBGBCR_EL0 : BitVec 64 := 1 <<< 6
def DBGBCR_MATCH_FULL : BitVec 64 := 0x0 <<< 12

/- The address with which the probe fills every slot. -/
def testAddress : BitVec 64 := 0x10000000

/- The control word with which the probe fills every slot. -/
def testControl : BitVec 32 :=
  (DBGBCR_ENABLE ||| DBGBCR_TYPE_EXECUTION ||| DBGBCR_EL0
    ||| DBGBCR_MATCH_FULL).setWidth 32

/- `control |= DBGBCR_ENABLE` on a 32-bit control word. -/
def withEnable (control : BitVec 32) : BitVec 32 :=
  (control.setWidth 64 ||| DBGBCR_ENABLE).setWidth 32

/- `control &= ~DBGBCR_ENABLE` on a 32-bit control word. -/
def withoutEnable (control : BitVec 32) : BitVec 32 :=
  (control.setWidth 64 &&& ~~~DBGBCR_ENABLE).setWidth 32

/- The control word of a hardware breakpoint type. -/
def controlOf : BreakpointType → Option (BitVec 64)
| .hardwareExecution =>
    some (DBGBCR_ENABLE ||| DBGBCR_EL0 ||| DBGBCR_MATCH_FULL
      ||| DBGBCR_TYPE_EXECUTION)
| .hardwareWrite =>
    some (DBGBCR_ENABLE ||| DBGBCR_EL0 ||| DBGBCR_MATCH_FULL
      ||| DBGBCR_TYPE_WRITE)
| .hardwareReadwrite =>
    some (DBGBCR_ENABLE ||| DBGBCR_EL0 ||| DBGBCR_MATCH_FULL
      ||| DBGBCR_TYPE_READWRITE)
| .software => none
| .other _ => none

end BreakpointManager

end AnDbg

------------------------------------------------------------
-- Tables
------------------------------------------------------------

namespace AnDbg

namespace BreakpointManager

open UnorderedMap

/- `BreakpointManager()`. -/
def init : BreakpointManager where
  breakpoints := ∅
  tidBreakpointsMap := ∅
  addressBreakpointMap := ∅
  freeHardwareRegisters := ∅
  hardwareRegistersCount := ∅
  nextBreakpointId := 1

/- `m_free_hardware_registers_[tid]`, as a value. -/
def free
    (m : BreakpointManager)
    (tid : Pid) : Finset DBRegister :=
  index tid m.freeHardwareRegisters

/- `m_free_hardware_registers_[tid]`, which makes the pool. -/
def touchFree
    (tid : Pid)
    (m : BreakpointManager) : BreakpointManager :=
  { m with
    freeHardwareRegisters :=
      touch tid m.freeHardwareRegisters }

/- `m_free_hardware_registers_[tid].erase(reg)`. -/
def takeRegister
    (tid : Pid)
    (reg : DBRegister)
    (m : BreakpointManager) : BreakpointManager :=
  { m with
    freeHardwareRegisters :=
      update tid (fun free => free.erase reg)
        m.freeHardwareRegisters }

/- `m_free_hardware_registers_[tid].insert(reg)`. -/
def giveRegister
    (tid : Pid)
    (reg : DBRegister)
    (m : BreakpointManager) : BreakpointManager :=
  { m with
    freeHardwareRegisters :=
      update tid (insert reg) m.freeHardwareRegisters }

/- Some live breakpoint is at the address. -/
def checkDuplicateBreakpoint
    (address : Addr)
    (m : BreakpointManager) : Bool :=
  anyValue (fun bp => bp.address == address) m.breakpoints

/- Number a breakpoint and enter it into the tables. -/
def newBreakpoint
    (tid : Pid)
    (address : Addr)
    (type : BreakpointType)
    (originalInstruction : Word)
    (m : BreakpointManager) :
    Except StdException Int × BreakpointManager :=
  let breakpointId := m.nextBreakpointId
  let m := { m with nextBreakpointId := breakpointId + 1 }
  match Breakpoint.make breakpointId tid address type with
  | .error e => (.error e, m)
  | .ok breakpoint =>
    let breakpoint :=
      { breakpoint with
        enabled := true
        originalInstruction := originalInstruction }
    (.ok breakpointId,
      { m with
        breakpoints :=
          emplace breakpointId breakpoint m.breakpoints
        tidBreakpointsMap :=
          update tid (insert breakpointId) m.tidBreakpointsMap
        addressBreakpointMap :=
          m.addressBreakpointMap.insert address breakpointId })

/- All live breakpoints. -/
def getBreakpoints
    (m : BreakpointManager) : Multiset Breakpoint :=
  values m.breakpoints

/- The live breakpoints that the index of a thread names. -/
def getBreakpointsOf
    (tid : Pid)
    (m : BreakpointManager) : Multiset Breakpoint :=
  match m.tidBreakpointsMap.lookup tid with
  | none => 0
  | some ids =>
    ids.val.filterMap fun breakpointId =>
      m.breakpoints.lookup breakpointId

/- The live breakpoint with an id. -/
def getBreakpoint
    (breakpointId : Int)
    (m : BreakpointManager) : Option Breakpoint :=
  m.breakpoints.lookup breakpointId

/-
  The lookup by address.  A missing entry is read through
  the iterator `end()`, which is undefined (`none`); an entry
  that is there is not looked at.
-/
def getBreakpointAt
    (address : Addr)
    (m : BreakpointManager) : Option (Option Breakpoint) :=
  match m.addressBreakpointMap.lookup address with
  | none => none
  | some _ => some none

end BreakpointManager

end AnDbg

------------------------------------------------------------
-- Hardware Register Probe
------------------------------------------------------------

namespace AnDbg

namespace BreakpointManager

open UnorderedMap RegisterControl

variable {κ : Type}
variable [Regset κ]

/- The register set with which every slot is tried. -/
def testDbg (originDbg : UserHwdebugState) :
    UserHwdebugState :=
  { originDbg with
    dbgRegs := fun _ => ⟨testAddress, testControl⟩ }

/- The number of slots that kept the test values. -/
def verifiedCount (verifyDbg : UserHwdebugState) : Nat :=
  (List.finRange 16).countP fun index =>
    verifyDbg.dbgRegs index == ⟨testAddress, testControl⟩

/- Put the registers `0` to `count - 1` into the pool. -/
def fillFree
    (tid : Pid)
    (count : Nat)
    (free : UnorderedMap Pid (Finset DBRegister)) :
    UnorderedMap Pid (Finset DBRegister) :=
  (List.range count).foldl
    (fun free i => update tid (insert (.ofNat i)) free) free

/- Count the debug registers of a thread and fill its pool. -/
def initHardwareRegister
    (tid : Pid)
    (m : BreakpointManager)
    (k : κ) : Outcome BreakpointManager κ Status :=
  if tid ∈ m.hardwareRegistersCount then
    ⟨.successText (utf8 "已经初始化"), m, k⟩
  else
    let m :=
      { m with
        hardwareRegistersCount :=
          m.hardwareRegistersCount.insert tid 0 }
    match getAllDbg tid k with
    | (none, k) =>
      ⟨.fail (utf8 "获取调试寄存器原始状态失败"), m, k⟩
    | (some originDbg, k) =>
      match setAllDbg tid (testDbg originDbg) k with
      | (false, k) =>
        ⟨.fail (utf8 "提交调试寄存器测试值失败"), m,
          (setAllDbg tid originDbg k).2⟩
      | (true, k) =>
        match getAllDbg tid k with
        | (none, k) =>
          ⟨.fail (utf8 "验证时, 获取调试寄存器失败"), m,
            (setAllDbg tid originDbg k).2⟩
        | (some verifyDbg, k) =>
          let count := verifiedCount verifyDbg
          let m :=
            { m with
              hardwareRegistersCount :=
                m.hardwareRegistersCount.insert tid count }
          match setAllDbg tid originDbg k with
          | (false, k) =>
            ⟨.fail (utf8
              "set_all_dbg 失败! 目标进程调试寄存器可能被污染"),
              m, k⟩
          | (true, k) =>
            ⟨.successText (utf8 "init_hardware_register 成功"),
              { m with
                freeHardwareRegisters :=
                  fillFree tid count
                    m.freeHardwareRegisters },
              k⟩

/- The number of debug registers of a thread, or `-1`. -/
def getHardwareRegistersCount
    (tid : Pid)
    (m : BreakpointManager)
    (k : κ) : Outcome BreakpointManager κ Int :=
  let done := initHardwareRegister tid m k
  if done.result.isSuccess then
    let count : Nat :=
      index tid done.object.hardwareRegistersCount
    ⟨count, done.object, done.world⟩
  else
    ⟨-1, done.object, done.world⟩

end BreakpointManager

end AnDbg

------------------------------------------------------------
-- Setting Breakpoints
------------------------------------------------------------

namespace AnDbg

namespace BreakpointManager

open UnorderedMap RegisterControl MemoryControl
open LittleEndian

variable {κ : Type}

/- The text of the exception for an unaligned address. -/
def misaligned (address : Addr) : StdException :=
  .invalidArgument
    (utf8 "地址 0x" ++ dec address.toNat
      ++ utf8 " 未按 4 字节对齐")

/- Patch an instruction word and enter the breakpoint. -/
def setSoftwareBreakpoint
    [MemoryControl κ]
    (tid : Pid)
    (address : Addr)
    (m : BreakpointManager)
    (k : κ) :
    Outcome BreakpointManager κ (Except StdException Int) :=
  if address &&& 0x3 ≠ 0 then
    ⟨.error (misaligned address), m, k⟩
  else if m.checkDuplicateBreakpoint address then
    ⟨.ok (-1), m, k⟩
  else
    match readMemory tid address (encode 4 (0 : Word)) k with
    | (false, _, k) => ⟨.ok (-1), m, k⟩
    | (true, buffer, k) =>
      let originalInstruction := decode 32 buffer
      match writeMemory tid address
          (encode 4 Breakpoint.BRK_OPCODE) k with
      | (false, k) => ⟨.ok (-1), m, k⟩
      | (true, k) =>
        let done :=
          m.newBreakpoint tid address .software
            originalInstruction
        ⟨done.1, done.2, k⟩

/-
  The part of `set_hardware_breakpoint` that follows the
  choice of a register.
-/
def armRegister
    [Regset κ]
    (tid : Pid)
    (address : Addr)
    (type : BreakpointType)
    (reg : DBRegister)
    (m : BreakpointManager)
    (k : κ) :
    Outcome BreakpointManager κ (Except StdException Int) :=
  let m := m.takeRegister tid reg
  match controlOf type with
  -- the register that was taken is not given back here
  | none => ⟨.ok (-1), m, k⟩
  | some control =>
    match setDbg tid reg (address, control.setWidth 32) k with
    | (false, k) => ⟨.ok (-1), m.giveRegister tid reg, k⟩
    | (true, k) =>
      match m.newBreakpoint tid address type 0 with
      | (.error e, m) => ⟨.error e, m, k⟩
      | (.ok id, m) =>
        ⟨.ok id,
          { m with
            breakpoints :=
              update id
                (fun bp => { bp with hardwareRegister := reg })
                m.breakpoints },
          k⟩

/- Take a debug register, arm it and enter the breakpoint. -/
def setHardwareBreakpoint
    [Regset κ]
    [HashOrder κ DBRegister]
    (tid : Pid)
    (address : Addr)
    (type : BreakpointType)
    (m : BreakpointManager)
    (k : κ) :
    Outcome BreakpointManager κ (Except StdException Int) :=
  if address &&& 0x3 ≠ 0 then
    ⟨.error (misaligned address), m, k⟩
  else if m.checkDuplicateBreakpoint address then
    ⟨.ok (-1), m, k⟩
  else
    let m := m.touchFree tid
    if m.free tid = ∅ then
      ⟨.ok (-1), m, k⟩
    else
      let probe := initHardwareRegister tid m k
      let m := probe.object
      let k := probe.world
      if probe.result.isFail then
        ⟨.ok (-1), m, k⟩
      else
        let reg := HashOrder.first (m.free tid) k
        armRegister tid address type reg m k

end BreakpointManager

end AnDbg

------------------------------------------------------------
-- Removing, Enabling And Disabling
------------------------------------------------------------

namespace AnDbg

namespace BreakpointManager

open UnorderedMap RegisterControl MemoryControl
open LittleEndian

variable {κ : Type}
variable [MemoryControl κ] [Regset κ]

/- Drop a breakpoint from the tables. -/
def eraseBreakpoint
    (breakpointId : Int)
    (breakpoint : Breakpoint)
    (m : BreakpointManager) : BreakpointManager :=
  let tidBreakpointsMap :=
    update breakpoint.tid (fun ids => ids.erase breakpoint.id)
      m.tidBreakpointsMap
  { m with
    tidBreakpointsMap :=
      if index breakpoint.tid tidBreakpointsMap = ∅ then
        tidBreakpointsMap.erase breakpoint.tid
      else
        tidBreakpointsMap
    breakpoints := m.breakpoints.erase breakpointId }

/-
  The text of a removal reads the breakpoint through a
  reference whose entry is gone by then, so that what it
  prints of it is indeterminate.
-/
def removedText
    (breakpointId : Int)
    (entry : Option Breakpoint) : StdString :=
  let field (text : Breakpoint → StdString) : StdString :=
    (entry.map text).getD (ascii "?")
  utf8 "成功移除断点: ID = " ++ dec breakpointId
    ++ utf8 ", TID = " ++ field (fun bp => dec bp.tid)
    ++ utf8 ", 地址 = 0x"
    ++ field (fun bp => hex bp.address.toNat)

/- Clear the enable bit of a register as far as calls allow. -/
def disarm (breakpoint : Breakpoint) (k : κ) : κ :=
  match getDbg breakpoint.tid breakpoint.hardwareRegister
      k with
  | (none, k) => k
  | (some (address, control), k) =>
    (setDbg breakpoint.tid breakpoint.hardwareRegister
      (address, withoutEnable control) k).2

/- Restore what a breakpoint changed and drop it. -/
def removeBreakpoint
    (breakpointId : Int)
    (m : BreakpointManager)
    (k : κ) : Outcome BreakpointManager κ Status :=
  match m.breakpoints.lookup breakpointId with
  | none =>
    ⟨.fail (utf8 "未找到 ID: " ++ dec breakpointId
      ++ utf8 " 的断点"), m, k⟩
  | some breakpoint =>
    let done (m : BreakpointManager) (k : κ) :
        Outcome BreakpointManager κ Status :=
      let m := m.eraseBreakpoint breakpointId breakpoint
      ⟨.success (removedText breakpointId
        (m.breakpoints.lookup breakpointId)), m, k⟩
    if breakpoint.type = .software then
      match writeMemory breakpoint.tid breakpoint.address
          (encode 4 breakpoint.originalInstruction) k with
      | (false, k) =>
        ⟨.fail (utf8 "恢复软件断点 [ID: " ++ dec breakpointId
          ++ utf8 "] 原指令失败"), m, k⟩
      | (true, k) => done m k
    else if breakpoint.hardwareRegister ≠ .invalid then
      -- neither of the two register calls is checked
      done
        (m.giveRegister breakpoint.tid
          breakpoint.hardwareRegister)
        (disarm breakpoint k)
    else
      done m k

/- Set the flag of a live breakpoint. -/
def setEnabled
    (breakpointId : Int)
    (breakpoint : Breakpoint)
    (enabled : Bool)
    (m : BreakpointManager) : BreakpointManager :=
  { m with
    breakpoints :=
      m.breakpoints.insert breakpointId
        { breakpoint with enabled := enabled } }

/- The text that names a breakpoint in a status. -/
def describe
    (breakpointId : Int)
    (breakpoint : Breakpoint) : StdString :=
  utf8 " [ID: " ++ dec breakpointId
    ++ utf8 ", TID: " ++ dec breakpoint.tid
    ++ utf8 ", 地址: 0x" ++ hex breakpoint.address.toNat
    ++ utf8 "]"

/- Put a disabled breakpoint back in place. -/
def enable
    (breakpointId : Int)
    (m : BreakpointManager)
    (k : κ) : Outcome BreakpointManager κ Status :=
  match m.breakpoints.lookup breakpointId with
  | none =>
    ⟨.fail (utf8 "启用断点失败: 未找到 ID = "
      ++ dec breakpointId ++ utf8 " 的断点"), m, k⟩
  | some breakpoint =>
    let done (k : κ) : Outcome BreakpointManager κ Status :=
      ⟨.success (utf8 "成功启用断点"
        ++ describe breakpointId breakpoint),
        m.setEnabled breakpointId breakpoint true, k⟩
    if breakpoint.enabled then
      ⟨.success (utf8 "断点 [ID: " ++ dec breakpointId
        ++ utf8 "] 已处于启用状态, 无需重复操作"), m, k⟩
    else if breakpoint.type = .software then
      match writeMemory breakpoint.tid breakpoint.address
          (encode 4 Breakpoint.BRK_OPCODE) k with
      | (false, k) => ⟨.fail (utf8 "写入断点指令失败"), m, k⟩
      | (true, k) => done k
    else if breakpoint.hardwareRegister ≠ .invalid then
      match getDbg breakpoint.tid breakpoint.hardwareRegister
          k with
      | (none, k) =>
        ⟨.fail (utf8 "获取调试寄存器失败"), m, k⟩
      | (some (address, control), k) =>
        match setDbg breakpoint.tid breakpoint.hardwareRegister
            (address, withEnable control) k with
        | (false, k) =>
          ⟨.fail (utf8 "更新控制寄存器失败"), m, k⟩
        | (true, k) => done k
    else
      done k

/- Take an enabled breakpoint out of place. -/
def disable
    (breakpointId : Int)
    (m : BreakpointManager)
    (k : κ) : Outcome BreakpointManager κ Status :=
  match m.breakpoints.lookup breakpointId with
  | none =>
    ⟨.fail (utf8 "禁用断点失败: 未找到 ID = "
      ++ dec breakpointId ++ utf8 " 的断点"), m, k⟩
  | some breakpoint =>
    let done (k : κ) : Outcome BreakpointManager κ Status :=
      ⟨.success (utf8 "成功禁用断点"
        ++ describe breakpointId breakpoint),
        m.setEnabled breakpointId breakpoint false, k⟩
    if breakpoint.enabled = false then
      ⟨.success (utf8 "断点 [ID: " ++ dec breakpointId
        ++ utf8 "] 已处于禁用状态, 无需重复操作"), m, k⟩
    else if breakpoint.type = .software then
      match writeMemory breakpoint.tid breakpoint.address
          (encode 4 breakpoint.originalInstruction) k with
      | (false, k) => ⟨.fail (utf8 "恢复原指令失败"), m, k⟩
      | (true, k) => done k
    else if breakpoint.hardwareRegister ≠ .invalid then
      match getDbg breakpoint.tid breakpoint.hardwareRegister
          k with
      | (none, k) => ⟨.fail (utf8 "get_dbg 失败"), m, k⟩
      | (some (address, control), k) =>
        match setDbg breakpoint.tid breakpoint.hardwareRegister
            (address, withoutEnable control) k with
        | (false, k) =>
          ⟨.fail (utf8 "更新控制寄存器失败"), m, k⟩
        | (true, k) => done k
    else
      done k

end BreakpointManager

end AnDbg

------------------------------------------------------------
-- Public Operations
------------------------------------------------------------

namespace AnDbg

namespace BreakpointManager

/- The public operations with their arguments. -/
inductive Op
  | getHardwareRegistersCount (tid : Pid)
  | initHardwareRegister (tid : Pid)
  | setSoftwareBreakpoint (tid : Pid) (address : Addr)
  | setHardwareBreakpoint (tid : Pid) (address : Addr)
      (type : BreakpointType)
  | removeBreakpoint (breakpointId : Int)
  | enable (breakpointId : Int)
  | disable (breakpointId : Int)
  | getBreakpoints
  | getBreakpointsOf (tid : Pid)
  | getBreakpoint (breakpointId : Int)
  | getBreakpointAt (address : Addr)
deriving DecidableEq

/- What the operations return. -/
inductive Answer
  | count (n : Int)
  | status (s : Status)
  | id (breakpointId : Except StdException Int)
  | list (breakpoints : Multiset Breakpoint)
  | entry (breakpoint : Option Breakpoint)
  | entryAt (breakpoint : Option (Option Breakpoint))

/- The manager together with the world it acts on. -/
structure Session (κ : Type) where
  manager : BreakpointManager
  world : κ

variable {κ : Type}
variable [MemoryControl κ] [Regset κ]
variable [HashOrder κ DBRegister]

/- An operation of the manager. -/
def exec
    (op : Op)
    (s : Session κ) : Outcome BreakpointManager κ Answer :=
  let answer {α : Type} (wrap : α → Answer)
      (done : Outcome BreakpointManager κ α) :
      Outcome BreakpointManager κ Answer :=
    ⟨wrap done.result, done.object, done.world⟩
  match op with
  | .getHardwareRegistersCount tid =>
    answer .count
      (s.manager.getHardwareRegistersCount tid s.world)
  | .initHardwareRegister tid =>
    answer .status
      (s.manager.initHardwareRegister tid s.world)
  | .setSoftwareBreakpoint tid address =>
    answer .id
      (s.manager.setSoftwareBreakpoint tid address s.world)
  | .setHardwareBreakpoint tid address type =>
    answer .id
      (s.manager.setHardwareBreakpoint tid address type
        s.world)
  | .removeBreakpoint breakpointId =>
    answer .status
      (s.manager.removeBreakpoint breakpointId s.world)
  | .enable breakpointId =>
    answer .status (s.manager.enable breakpointId s.world)
  | .disable breakpointId =>
    answer .status (s.manager.disable breakpointId s.world)
  | .getBreakpoints =>
    ⟨.list s.manager.getBreakpoints, s.manager, s.world⟩
  | .getBreakpointsOf tid =>
    ⟨.list (s.manager.getBreakpointsOf tid), s.manager,
      s.world⟩
  | .getBreakpoint breakpointId =>
    ⟨.entry (s.manager.getBreakpoint breakpointId),
      s.manager, s.world⟩
  | .getBreakpointAt address =>
    ⟨.entryAt (s.manager.getBreakpointAt address),
      s.manager, s.world⟩

/- The state that an operation leaves behind. -/
def step (op : Op) (s : Session κ) : Session κ :=
  ⟨(exec op s).object, (exec op s).world⟩

/- The state of a new manager. -/
def Session.start (k : κ) : Session κ :=
  ⟨BreakpointManager.init, k⟩

end BreakpointManager

end AnDbg
