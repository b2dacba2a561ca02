import AnDbg.Base.Json
import AnDbg.Base.Utils
import AnDbg.Core.DebuggerCore.Model

/-
  Reading and writing registers by name.

  A request has a part for the general and one for the
  floating-point registers; the entries of a part are taken
  one after the other, and the first that is wrong ends the
  request, with the entries before it already written.

  Main declarations:
    * `AnDbg.DebuggerCore.writeRegisters`
    * `AnDbg.DebuggerCore.readRegisters`
-/

------------------------------------------------------------
-- Writing
------------------------------------------------------------

namespace AnDbg

namespace DebuggerCore

open RegisterControl

variable {κ : Type}
variable [Regset κ]

/- The end of a request: an exception, or its status. -/
abbrev Ending := Except StdException Status

/-
  The text of a value that must be one; asking another value
  for its text to report it throws.
-/
def textOf : Json → Except Ending StdString
| .string s => .ok s
| _ => .error (.error .typeError)

/- The number of a value, or the end of the request. -/
def numberOf
    (w : Nat)
    (value : StdString) : Except Ending (BitVec w) :=
  match Utils.hexStrToNum w value with
  | some number => .ok number
  | none =>
    .error (.ok (.fail (utf8 "value 不是合法的 16 进制字符串: "
      ++ value)))

/- The text for a name that no register has. -/
def badName (regName : StdString) : Ending :=
  .ok (.fail (utf8 "寄存器名称不对, 错误名称: " ++ regName))

/- The general register and the value that an entry names. -/
def gprEntry
    (regName : StdString)
    (value : Json) : Except Ending (GPRegister × BitVec 64) := do
  let text ← textOf value
  let number ← numberOf 64 text
  let reg := str2gpr regName
  if reg = .invalid then
    throw (badName regName)
  return (reg, number)

/-
  The floating-point register and the value that an entry
  names; the register decides the width of the value.
-/
def fprEntry
    (regName : StdString)
    (value : Json) : Except Ending (FPRegister × FPRValue) := do
  let text ← textOf value
  let reg := str2fpr regName
  match reg with
  | .invalid => throw (badName regName)
  | .v _ => return (reg, .bits128 (← numberOf 128 text))
  | .fpsr | .fpcr => return (reg, .bits32 (← numberOf 32 text))
  | .maxRegisters =>
    throw (.ok (.fail (utf8 "不支持的寄存器: " ++ regName)))

/-
  Take the entries of a part one by one; `none` means that
  all of them were written.
-/
def writeEntries
    {ρ : Type}
    (entry : StdString → Json → Except Ending ρ)
    (write : ρ → κ → Bool × κ)
    (name : String) :
    List (StdString × Json) → κ → Option Ending × κ
| [], k => (none, k)
| (regName, value) :: fields, k =>
    match entry regName value with
    | .error ending => (some ending, k)
    | .ok target =>
      match write target k with
      | (false, k) =>
        (some (.ok (.fail (utf8 name ++ utf8 " 失败: "
          ++ regName))), k)
      | (true, k) => writeEntries entry write name fields k

/- A part of a request to write registers. -/
def writePart
    {ρ : Type}
    (entry : StdString → Json → Except Ending ρ)
    (write : ρ → κ → Bool × κ)
    (name part : String)
    (jsonData : Json)
    (k : κ) : Option Ending × κ :=
  match jsonData.field (ascii part) with
  | none => (none, k)
  | some (.object fields) =>
    writeEntries entry write name fields k
  | some _ =>
    (some (.ok (.fail (ascii part ++ utf8 " 的 json 格式不对"))),
      k)

/- `write_registers`. -/
def writeRegisters
    (jsonData : Json)
    (c : DebuggerCore)
    (k : κ) : Ending × κ :=
  match writePart gprEntry
      (fun entry k => setGpr c.currentTid entry.1 entry.2 k)
      "set_gpr" "GPR" jsonData k with
  | (some ending, k) => (ending, k)
  | (none, k) =>
    match writePart fprEntry
        (fun entry k => setFpr c.currentTid entry.1 entry.2 k)
        "set_fpr" "FPR" jsonData k with
    | (some ending, k) => (ending, k)
    | (none, k) =>
      (.ok (.successText (utf8 "write_registers 成功")), k)

end DebuggerCore

end AnDbg

------------------------------------------------------------
-- Reading
------------------------------------------------------------

namespace AnDbg

namespace DebuggerCore

open RegisterControl

variable {κ : Type}
variable [Regset κ]

/- A number as the text that stands for it in a reply. -/
def hexJson {w : Nat} (number : BitVec w) : Json :=
  match Utils.numToHexStr number true with
  | some text => .string text
  | none => .null

/- The text of a floating-point register's value. -/
def fprJson : FPRValue → Json
| .bits128 v => hexJson v
| .bits32 v => hexJson v

/- The fields of a reply, or the status of its failure. -/
abbrev Fields := Except Status (List (StdString × Json))

/- The text for a register that a structure has no place for. -/
def noPointer (regName : StdString) : Status :=
  .fail (utf8 "从结构体中读取 " ++ regName
    ++ utf8 " 指针失败")

/- Every register of a structure that was read whole. -/
def allFields
    {ρ : Type}
    (ofNat : Nat → ρ)
    (str : ρ → StdString)
    (load : ρ → Option Json)
    (indices : List Nat) : Fields :=
  indices.foldlM
    (fun result i =>
      let reg := ofNat i
      match load reg with
      | none => .error (noPointer (str reg))
      | some value => .ok (Json.setField (str reg) value result))
    []

/- The named registers, each read for itself. -/
def namedFields
    (dump : Json → StdString)
    (read : StdString → κ → Except Status Json × κ) :
    List Json → List (StdString × Json) → κ → Fields × κ
| [], result, k => (.ok result, k)
| .string regName :: names, result, k =>
    match read regName k with
    | (.error s, k) => (.error s, k)
    | (.ok value, k) =>
      namedFields dump read names
        (Json.setField regName value result) k
| other :: _, _, k =>
    (.error (.fail (utf8 "期待一个字符串, 而实际是: "
      ++ dump other)), k)

/- A general register, by its name. -/
def readGpr
    (tid : Pid)
    (regName : StdString)
    (k : κ) : Except Status Json × κ :=
  let reg := str2gpr regName
  if reg = .invalid then
    (.error (.fail (utf8 "GPR 寄存器名称错误, 无效名称: "
      ++ regName)), k)
  else
    match getGpr tid reg k with
    | (none, k) =>
      (.error (.fail (utf8 "读取 GPR 失败: " ++ regName)), k)
    | (some value, k) => (.ok (hexJson value), k)

/- A floating-point register, by its name. -/
def readFpr
    (tid : Pid)
    (regName : StdString)
    (k : κ) : Except Status Json × κ :=
  let reg := str2fpr regName
  if reg = .invalid then
    (.error (.fail (utf8 "FPR 寄存器名称错误, 无效名称: "
      ++ regName)), k)
  else
    match getFpr tid reg k with
    | (none, k) =>
      (.error (.fail (utf8 "读取 FPR 失败: " ++ regName)), k)
    | (some value, k) => (.ok (fprJson value), k)

/- All general registers. -/
def readAllGpr
    (tid : Pid)
    (k : κ) : Fields × κ :=
  match getAllGpr tid k with
  | (none, k) => (.error (.fail (utf8 "get_all_gpr 失败")), k)
  | (some regs, k) =>
    (allFields GPRegister.ofNat gpr2str
      (fun reg =>
        (getGprPointer reg).map fun pointer =>
          hexJson (pointer.load regs))
      (List.range 34), k)

/- All floating-point registers. -/
def readAllFpr
    (tid : Pid)
    (k : κ) : Fields × κ :=
  match getAllFpr tid k with
  | (none, k) =>
    (.error (.fail (utf8 "批量读取所有 FPR 寄存器失败")), k)
  | (some fpr, k) =>
    (allFields FPRegister.ofNat fpr2str
      (fun reg =>
        (getFprPointer reg).map fun pointer =>
          fprJson (pointer.load fpr))
      (List.range 34), k)

/- A part of a request to read registers. -/
def readPart
    (dump : Json → StdString)
    (readAll : κ → Fields × κ)
    (read : StdString → κ → Except Status Json × κ)
    (request : Json)
    (k : κ) : Fields × κ :=
  match request with
  | .string reqStr =>
    if reqStr = ascii "all" then
      readAll k
    else
      (.error (.fail (utf8 "不支持的字段: " ++ reqStr)), k)
  | .array names => namedFields dump read names [] k
  | _ => (.error (.fail (utf8 "不受支持的格式")), k)

/-
  One part of `read_registers`, which adds its fields to the
  result; `none` means that the request goes on.
-/
def readInto
    (dump : Json → StdString)
    (readAll : κ → Fields × κ)
    (read : StdString → κ → Except Status Json × κ)
    (part : String)
    (jsonData result : Json)
    (k : κ) : Option Status × Json × κ :=
  match jsonData.field (ascii part) with
  | none => (none, result, k)
  | some request =>
    match readPart dump readAll read request k with
    | (.error s, k) => (some s, result, k)
    | (.ok fields, k) =>
      (none, Json.set (ascii part) (.object fields) result, k)

/- `read_registers`, with the result that it fills. -/
def readRegisters
    (dump : Json → StdString)
    (jsonData result : Json)
    (c : DebuggerCore)
    (k : κ) : (Status × Json) × κ :=
  match readInto dump (readAllGpr c.currentTid)
      (readGpr c.currentTid) "GPR" jsonData result k with
  | (some s, result, k) => ((s, result), k)
  | (none, result, k) =>
    match readInto dump (readAllFpr c.currentTid)
        (readFpr c.currentTid) "FPR" jsonData result k with
    | (some s, result, k) => ((s, result), k)
    | (none, result, k) =>
      ((.successText (utf8 "read_registers 成功"), result), k)

end DebuggerCore

end AnDbg
