import AnDbg.Core.Target
import Mathlib.Logic.Function.Basic

/-
  Register names, and access to single registers through
  whole register sets.

  Every access to one register reads its whole set; a write
  changes one field of what was read and stores the whole
  set again.  A pointer into a register structure is the
  place it points to.

  Main declarations:
    * `AnDbg.GPRegister`, `AnDbg.FPRegister` and
      `AnDbg.DBRegister`
    * `AnDbg.RegisterControl.str2gpr` and
      `AnDbg.RegisterControl.str2fpr`
    * `AnDbg.RegisterControl.getGpr`, `setGpr`, `getFpr`,
      `setFpr`, `getDbg` and `setDbg`
    * `AnDbg.RegisterControl.getGpr_cases`, `getDbg_cases`
      and `setDbg_cases`
-/

------------------------------------------------------------
-- Register Indices
------------------------------------------------------------

namespace AnDbg

/- The general registers. -/
inductive GPRegister
  | x (i : Fin 31)
  | sp
  | pc
  | pstate
  | maxRegisters
  | invalid
deriving DecidableEq

/- The floating-point registers. -/
inductive FPRegister
  | v (i : Fin 32)
  | fpsr
  | fpcr
  | maxRegisters
  | invalid
deriving DecidableEq

/- The debug registers. -/
inductive DBRegister
  | dbg (i : Fin 16)
  | dbgInfo
  | maxRegisters
  | invalid
deriving DecidableEq

/- `static_cast<GPRegister>`; values past the last are invalid. -/
def GPRegister.ofNat (i : Nat) : GPRegister :=
  if h : i < 31 then .x ⟨i, h⟩
  else if i = 31 then .sp
  else if i = 32 then .pc
  else if i = 33 then .pstate
  else if i = 34 then .maxRegisters
  else .invalid

/- `static_cast<FPRegister>`; values past the last are invalid. -/
def FPRegister.ofNat (i : Nat) : FPRegister :=
  if h : i < 32 then .v ⟨i, h⟩
  else if i = 32 then .fpsr
  else if i = 33 then .fpcr
  else if i = 34 then .maxRegisters
  else .invalid

/- `static_cast<DBRegister>`; values past the last are invalid. -/
def DBRegister.ofNat (i : Nat) : DBRegister :=
  if h : i < 16 then .dbg ⟨i, h⟩
  else if i = 16 then .dbgInfo
  else if i = 17 then .maxRegisters
  else .invalid

/- `static_cast<int>`. -/
def GPRegister.toNat : GPRegister → Nat
| .x i => i
| .sp => 31
| .pc => 32
| .pstate => 33
| .maxRegisters => 34
| .invalid => 35

/- `static_cast<int>`. -/
def FPRegister.toNat : FPRegister → Nat
| .v i => i
| .fpsr => 32
| .fpcr => 33
| .maxRegisters => 34
| .invalid => 35

theorem DBRegister.ofNat_of_lt
    {i : Nat}
    (hi : i < 16) :
    DBRegister.ofNat i = .dbg ⟨i, hi⟩ := by
  rw [DBRegister.ofNat, dif_pos hi]

end AnDbg

------------------------------------------------------------
-- Register Names
------------------------------------------------------------

namespace AnDbg

namespace RegisterControl

/- `gpr_names`. -/
def gprNames : List StdString :=
  [ "x0", "x1", "x2", "x3", "x4", "x5", "x6", "x7",
    "x8", "x9", "x10", "x11", "x12", "x13", "x14", "x15",
    "x16", "x17", "x18", "x19", "x20", "x21", "x22", "x23",
    "x24", "x25", "x26", "x27", "x28", "x29", "x30",
    "sp", "pc", "pstate" ].map ascii

/- `fpr_names`. -/
def fprNames : List StdString :=
  [ "v0", "v1", "v2", "v3", "v4", "v5", "v6", "v7",
    "v8", "v9", "v10", "v11", "v12", "v13", "v14", "v15",
    "v16", "v17", "v18", "v19", "v20", "v21", "v22", "v23",
    "v24", "v25", "v26", "v27", "v28", "v29", "v30", "v31",
    "fpsr", "fpcr" ].map ascii

/- `gpr2str`. -/
def gpr2str (reg : GPRegister) : StdString :=
  gprNames.getD reg.toNat (ascii "unknown")

/- `fpr2str`. -/
def fpr2str (reg : FPRegister) : StdString :=
  fprNames.getD reg.toNat (ascii "unknown")

/- The register of a name, the first of the table that is equal. -/
def str2gpr (name : StdString) : GPRegister :=
  match gprNames.idxOf? (cStr name) with
  | some i => .ofNat i
  | none => .invalid

/- The register of a name, the first of the table that is equal. -/
def str2fpr (name : StdString) : FPRegister :=
  match fprNames.idxOf? (cStr name) with
  | some i => .ofNat i
  | none => .invalid

end RegisterControl

end AnDbg

------------------------------------------------------------
-- Pointers Into A Register Set
------------------------------------------------------------

namespace AnDbg

/- Where a `uint64_t*` into `user_pt_regs` points. -/
inductive GPRPointer
  | regs (i : Fin 31)
  | sp
  | pc
  | pstate

/- Where a pointer into `user_fpsimd_state` points. -/
inductive FPRPointer
  | vregs (i : Fin 32)
  | fpcr
  | fpsr

/-
  Where the pair of pointers into `user_hwdebug_state`
  points: to the two words of a slot, or to `dbg_info` with
  no address.
-/
inductive DBGPointer
  | slot (i : Fin 16)
  | dbgInfo

/- The value of a floating-point register, by its width. -/
inductive FPRValue
  | bits128 (v : BitVec 128)
  | bits32 (v : BitVec 32)
deriving DecidableEq

namespace RegisterControl

/- `get_gpr_pointer`. -/
def getGprPointer : GPRegister → Option GPRPointer
| .x i => some (.regs i)
| .sp => some .sp
| .pc => some .pc
| .pstate => some .pstate
| .maxRegisters => none
| .invalid => none

/- `get_fpr_pointer`. -/
def getFprPointer : FPRegister → Option FPRPointer
| .v i => some (.vregs i)
| .fpcr => some .fpcr
| .fpsr => some .fpsr
| .maxRegisters => none
| .invalid => none

/- `get_dbg_pointer`. -/
def getDbgPointer : DBRegister → Option DBGPointer
| .dbg i => some (.slot i)
| .dbgInfo => some .dbgInfo
| .maxRegisters => none
| .invalid => none

end RegisterControl

namespace GPRPointer

def load (regs : UserPtRegs) : GPRPointer → BitVec 64
| .regs i => regs.regs i
| .sp => regs.sp
| .pc => regs.pc
| .pstate => regs.pstate

def store
    (regs : UserPtRegs)
    (value : BitVec 64) : GPRPointer → UserPtRegs
| .regs i =>
    { regs with regs := Function.update regs.regs i value }
| .sp => { regs with sp := value }
| .pc => { regs with pc := value }
| .pstate => { regs with pstate := value }

end GPRPointer

namespace FPRPointer

def load (fpr : UserFpsimdState) : FPRPointer → FPRValue
| .vregs i => .bits128 (fpr.vregs i)
| .fpcr => .bits32 fpr.fpcr
| .fpsr => .bits32 fpr.fpsr

/- A store through the pointer, if the widths agree. -/
def store
    (fpr : UserFpsimdState) :
    FPRPointer → FPRValue → Option UserFpsimdState
| .vregs i, .bits128 v =>
    some { fpr with vregs := Function.update fpr.vregs i v }
| .fpcr, .bits32 v => some { fpr with fpcr := v }
| .fpsr, .bits32 v => some { fpr with fpsr := v }
| .vregs _, .bits32 _ => none
| .fpcr, .bits128 _ => none
| .fpsr, .bits128 _ => none

end FPRPointer

namespace DBGPointer

def load
    (dbg : UserHwdebugState) :
    DBGPointer → BitVec 64 × BitVec 32
| .slot i => ((dbg.dbgRegs i).addr, (dbg.dbgRegs i).ctrl)
| .dbgInfo => (0, dbg.dbgInfo)

def store
    (dbg : UserHwdebugState)
    (value : BitVec 64 × BitVec 32) :
    DBGPointer → UserHwdebugState
| .slot i =>
    { dbg with
      dbgRegs :=
        Function.update dbg.dbgRegs i ⟨value.1, value.2⟩ }
| .dbgInfo => { dbg with dbgInfo := value.2 }

end DBGPointer

end AnDbg

------------------------------------------------------------
-- Access To Single Registers
------------------------------------------------------------

namespace AnDbg

namespace RegisterControl

variable {κ : Type}
variable [Regset κ]

def getAllGpr (tid : Pid) (k : κ) : Option UserPtRegs × κ :=
  Regset.getRegset .gpr tid k

def setAllGpr
    (tid : Pid)
    (regs : UserPtRegs)
    (k : κ) : Bool × κ :=
  Regset.setRegset .gpr tid regs k

def getAllFpr
    (tid : Pid)
    (k : κ) : Option UserFpsimdState × κ :=
  Regset.getRegset .fpr tid k

def setAllFpr
    (tid : Pid)
    (fpr : UserFpsimdState)
    (k : κ) : Bool × κ :=
  Regset.setRegset .fpr tid fpr k

def getAllDbg
    (tid : Pid)
    (k : κ) : Option UserHwdebugState × κ :=
  Regset.getRegset .dbg tid k

def setAllDbg
    (tid : Pid)
    (dbg : UserHwdebugState)
    (k : κ) : Bool × κ :=
  Regset.setRegset .dbg tid dbg k

def getGpr
    (tid : Pid)
    (reg : GPRegister)
    (k : κ) : Option (BitVec 64) × κ :=
  match getAllGpr tid k with
  | (none, k) => (none, k)
  | (some gpr, k) =>
    ((getGprPointer reg).map (GPRPointer.load gpr), k)

def setGpr
    (tid : Pid)
    (reg : GPRegister)
    (value : BitVec 64)
    (k : κ) : Bool × κ :=
  match getAllGpr tid k with
  | (none, k) => (false, k)
  | (some gpr, k) =>
    match getGprPointer reg with
    | none => (false, k)
    | some pointer =>
      setAllGpr tid (pointer.store gpr value) k

def getFpr
    (tid : Pid)
    (reg : FPRegister)
    (k : κ) : Option FPRValue × κ :=
  match getAllFpr tid k with
  | (none, k) => (none, k)
  | (some fpr, k) =>
    ((getFprPointer reg).map (FPRPointer.load fpr), k)

def setFpr
    (tid : Pid)
    (reg : FPRegister)
    (value : FPRValue)
    (k : κ) : Bool × κ :=
  match getAllFpr tid k with
  | (none, k) => (false, k)
  | (some fpr, k) =>
    match getFprPointer reg with
    | none => (false, k)
    | some pointer =>
      match pointer.store fpr value with
      | none => (false, k)
      | some fpr => setAllFpr tid fpr k

def getDbg
    (tid : Pid)
    (reg : DBRegister)
    (k : κ) : Option (BitVec 64 × BitVec 32) × κ :=
  match getAllDbg tid k with
  | (none, k) => (none, k)
  | (some dbg, k) =>
    ((getDbgPointer reg).map (DBGPointer.load dbg), k)

def setDbg
    (tid : Pid)
    (reg : DBRegister)
    (value : BitVec 64 × BitVec 32)
    (k : κ) : Bool × κ :=
  match getAllDbg tid k with
  | (none, k) => (false, k)
  | (some dbg, k) =>
    match getDbgPointer reg with
    | none => (false, k)
    | some pointer =>
      setAllDbg tid (pointer.store dbg value) k

variable {tid : Pid} {k k' : κ}

/- A general register is read out of its whole set. -/
theorem getGpr_cases
    {reg : GPRegister}
    {found : Option (BitVec 64)}
    (hGet : getGpr tid reg k = (found, k')) :
    ∃ all,
      getAllGpr tid k = (all, k') ∧
      found =
        all.bind fun gpr =>
          (getGprPointer reg).map (GPRPointer.load gpr) := by
  rw [getGpr] at hGet
  rcases hAll : getAllGpr tid k with ⟨_ | gpr, k₁⟩
  · rw [hAll] at hGet
    cases hGet
    exact ⟨none, rfl, rfl⟩
  · rw [hAll] at hGet
    cases hGet
    exact ⟨some gpr, rfl, rfl⟩

variable {reg : DBRegister}

/- A debug register is read out of its whole set. -/
theorem getDbg_cases
    {found : Option (BitVec 64 × BitVec 32)}
    (hGet : getDbg tid reg k = (found, k')) :
    ∃ all,
      getAllDbg tid k = (all, k') ∧
      found =
        all.bind fun dbg =>
          (getDbgPointer reg).map (DBGPointer.load dbg) := by
  rw [getDbg] at hGet
  rcases hAll : getAllDbg tid k with ⟨_ | dbg, k₁⟩
  · rw [hAll] at hGet
    cases hGet
    exact ⟨none, rfl, rfl⟩
  · rw [hAll] at hGet
    cases hGet
    exact ⟨some dbg, rfl, rfl⟩

/-
  A debug register is set by storing its whole set, unless
  the set does not come or there is no such register.
-/
theorem setDbg_cases
    {value : BitVec 64 × BitVec 32}
    {done : Bool}
    (hSet : setDbg tid reg value k = (done, k')) :
    (done = false ∧
      ∃ all,
        getAllDbg tid k = (all, k') ∧
        (all = none ∨ getDbgPointer reg = none)) ∨
    ∃ dbg pointer k₁,
      getAllDbg tid k = (some dbg, k₁) ∧
      getDbgPointer reg = some pointer ∧
      setAllDbg tid (pointer.store dbg value) k₁ =
        (done, k') := by
  rw [setDbg] at hSet
  rcases hAll : getAllDbg tid k with ⟨_ | dbg, k₁⟩
  · rw [hAll] at hSet
    cases hSet
    exact .inl ⟨rfl, none, rfl, .inl rfl⟩
  rw [hAll] at hSet
  dsimp only at hSet
  cases hPointer : getDbgPointer reg with
  | none =>
      rw [hPointer] at hSet
      cases hSet
      exact .inl ⟨rfl, some dbg, rfl, .inr rfl⟩
  | some pointer =>
      rw [hPointer] at hSet
      exact .inr ⟨dbg, pointer, k₁, rfl, rfl, hSet⟩

end RegisterControl

end AnDbg
