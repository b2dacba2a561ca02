import AnDbg.Core.RegisterControl

/-
  The general and the floating-point registers of a thread.

  A register file is the simplest world in which registers
  can be read and written.  Where the calls for the register
  sets go through and store what they are given, the file of
  a thread is all that an access to its registers sees and
  changes.

  Main declarations:
    * `AnDbg.ThreadRegisters`
    * `AnDbg.ReadsRegisters` and `AnDbg.StoresRegisters`
    * `AnDbg.ThreadRegisters.value` and `ext_value`
    * `AnDbg.ReadsRegisters.getGpr` and `AnDbg.StoresRegisters.setGpr`
    * `AnDbg.RegisterControl.gpr2str_str2gpr`
-/

------------------------------------------------------------
-- Register Files
------------------------------------------------------------

namespace AnDbg

/- The two register sets that hold a thread's values. -/
structure ThreadRegisters where
  gpr : UserPtRegs
  fpr : UserFpsimdState

/- A file answers for itself; it has no debug registers. -/
instance : Regset ThreadRegisters where
  getRegset
  | .gpr, _, file => (some file.gpr, file)
  | .fpr, _, file => (some file.fpr, file)
  | .dbg, _, file => (none, file)
  setRegset
  | .gpr, _, data, file => (true, { file with gpr := data })
  | .fpr, _, data, file => (true, { file with fpr := data })
  | .dbg, _, _, file => (false, file)

/- All registers are zero. -/
def ThreadRegisters.cleared : ThreadRegisters where
  gpr := ⟨fun _ => 0, 0, 0, 0⟩
  fpr := ⟨fun _ => 0, 0, 0⟩

open RegisterControl

/- Reads of the thread's register sets succeed. -/
structure ReadsRegisters
    {κ : Type}
    [Regset κ]
    (tid : Pid)
    (file : κ → ThreadRegisters) : Prop where
  getAllGpr :
    ∀ {found : Option UserPtRegs} {k k' : κ},
      getAllGpr tid k = (found, k') →
        found = some (file k).gpr ∧ file k' = file k
  getAllFpr :
    ∀ {found : Option UserFpsimdState} {k k' : κ},
      getAllFpr tid k = (found, k') →
        found = some (file k).fpr ∧ file k' = file k

/- Writes succeed as well, and store what they are given. -/
structure StoresRegisters
    {κ : Type}
    [Regset κ]
    (tid : Pid)
    (file : κ → ThreadRegisters) : Prop
    extends ReadsRegisters tid file where
  setAllGpr :
    ∀ {regs : UserPtRegs} {done : Bool} {k k' : κ},
      setAllGpr tid regs k = (done, k') →
        done = true ∧ file k' = { file k with gpr := regs }
  setAllFpr :
    ∀ {fpr : UserFpsimdState} {done : Bool} {k k' : κ},
      setAllFpr tid fpr k = (done, k') →
        done = true ∧ file k' = { file k with fpr := fpr }

theorem ThreadRegisters.storesRegisters
    (tid : Pid) :
    StoresRegisters tid (id : ThreadRegisters → ThreadRegisters) where
  getAllGpr h := by
    cases h
    exact ⟨rfl, rfl⟩
  getAllFpr h := by
    cases h
    exact ⟨rfl, rfl⟩
  setAllGpr h := by
    cases h
    exact ⟨rfl, rfl⟩
  setAllFpr h := by
    cases h
    exact ⟨rfl, rfl⟩

end AnDbg

------------------------------------------------------------
-- Loads And Stores
------------------------------------------------------------

namespace AnDbg

deriving instance DecidableEq for GPRPointer
deriving instance DecidableEq for FPRPointer

namespace GPRPointer

theorem load_store
    (regs : UserPtRegs)
    (value : BitVec 64)
    (p q : GPRPointer) :
    q.load (p.store regs value) =
      if q = p then value else q.load regs := by
  cases p with
  | regs i =>
      cases q with
      | regs j =>
          by_cases hij : j = i
          · subst hij
            simp [store, load]
          · simp [store, load, hij]
      | sp => rfl
      | pc => rfl
      | pstate => rfl
  | sp => cases q <;> rfl
  | pc => cases q <;> rfl
  | pstate => cases q <;> rfl

/- A register set is what its places hold. -/
theorem ext
    {regs regs' : UserPtRegs}
    (hLoad : ∀ p : GPRPointer, p.load regs = p.load regs') :
    regs = regs' := by
  rcases regs with ⟨x, sp, pc, pstate⟩
  rcases regs' with ⟨x', sp', pc', pstate'⟩
  have hx : x = x' := funext fun i => hLoad (.regs i)
  have hSp : sp = sp' := hLoad .sp
  have hPc : pc = pc' := hLoad .pc
  have hPstate : pstate = pstate' := hLoad .pstate
  rw [hx, hSp, hPc, hPstate]

end GPRPointer

namespace FPRPointer

theorem load_store
    {fpr fpr' : UserFpsimdState}
    {value : FPRValue}
    {p : FPRPointer}
    (hStore : p.store fpr value = some fpr')
    (q : FPRPointer) :
    q.load fpr' = if q = p then value else q.load fpr := by
  unfold store at hStore
  split at hStore
  next i v =>
    cases hStore
    cases q with
    | vregs j =>
        by_cases hij : j = i
        · subst hij
          simp [load]
        · simp [load, hij]
    | fpcr => rfl
    | fpsr => rfl
  next v =>
    cases hStore
    cases q <;> rfl
  next v =>
    cases hStore
    cases q <;> rfl
  all_goals cases hStore

/- A value has the width of the place. -/
def Fits : FPRPointer → FPRValue → Prop
| .vregs _, .bits128 _ => True
| .fpcr, .bits32 _ => True
| .fpsr, .bits32 _ => True
| .vregs _, .bits32 _ => False
| .fpcr, .bits128 _ => False
| .fpsr, .bits128 _ => False

theorem exists_store
    (p : FPRPointer)
    {value : FPRValue}
    (hFits : p.Fits value)
    (fpr : UserFpsimdState) :
    ∃ fpr', p.store fpr value = some fpr' := by
  cases p with
  | vregs i =>
      cases value with
      | bits128 v => exact ⟨_, rfl⟩
      | bits32 v => cases hFits
  | fpcr =>
      cases value with
      | bits128 v => cases hFits
      | bits32 v => exact ⟨_, rfl⟩
  | fpsr =>
      cases value with
      | bits128 v => cases hFits
      | bits32 v => exact ⟨_, rfl⟩

/- A register set is what its places hold. -/
theorem ext
    {fpr fpr' : UserFpsimdState}
    (hLoad : ∀ p : FPRPointer, p.load fpr = p.load fpr') :
    fpr = fpr' := by
  rcases fpr with ⟨v, fpsr, fpcr⟩
  rcases fpr' with ⟨v', fpsr', fpcr'⟩
  have hv : v = v' :=
    funext fun i => FPRValue.bits128.inj (hLoad (.vregs i))
  have hFpsr : fpsr = fpsr' :=
    FPRValue.bits32.inj (hLoad .fpsr)
  have hFpcr : fpcr = fpcr' :=
    FPRValue.bits32.inj (hLoad .fpcr)
  rw [hv, hFpsr, hFpcr]

end FPRPointer

end AnDbg

------------------------------------------------------------
-- Places Of A File
------------------------------------------------------------

namespace AnDbg

/- Where the value of a register is kept. -/
inductive RegisterPlace
  | general (p : GPRPointer)
  | floating (p : FPRPointer)
deriving DecidableEq

inductive RegisterValue
  | general (v : BitVec 64)
  | floating (v : FPRValue)
deriving DecidableEq

namespace ThreadRegisters

/- The value at a place. -/
def value (file : ThreadRegisters) : RegisterPlace → RegisterValue
| .general p => .general (p.load file.gpr)
| .floating p => .floating (p.load file.fpr)

/- A file is what its places hold. -/
theorem ext_value
    {file file' : ThreadRegisters}
    (hValue : file.value = file'.value) :
    file = file' := by
  have hGpr : file.gpr = file'.gpr :=
    GPRPointer.ext fun p =>
      RegisterValue.general.inj (congrFun hValue (.general p))
  have hFpr : file.fpr = file'.fpr :=
    FPRPointer.ext fun p =>
      RegisterValue.floating.inj (congrFun hValue (.floating p))
  rcases file with ⟨gpr, fpr⟩
  cases hGpr
  cases hFpr
  rfl

theorem value_store_gpr
    (file : ThreadRegisters)
    (p : GPRPointer)
    (v : BitVec 64) :
    { file with gpr := p.store file.gpr v }.value =
      Function.update file.value (.general p) (.general v) := by
  funext place
  cases place with
  | general q =>
      rw [value, GPRPointer.load_store]
      by_cases hq : q = p
      · rw [if_pos hq, hq, Function.update_self]
      · rw [if_neg hq, Function.update_of_ne (by simpa using hq)]
        rfl
  | floating q =>
      rw [Function.update_of_ne (by simp)]
      rfl

theorem value_store_fpr
    {file : ThreadRegisters}
    {p : FPRPointer}
    {v : FPRValue}
    {fpr : UserFpsimdState}
    (hStore : p.store file.fpr v = some fpr) :
    { file with fpr := fpr }.value =
      Function.update file.value (.floating p)
        (.floating v) := by
  funext place
  cases place with
  | general q =>
      rw [Function.update_of_ne (by simp)]
      rfl
  | floating q =>
      rw [value, FPRPointer.load_store hStore]
      by_cases hq : q = p
      · rw [if_pos hq, hq, Function.update_self]
      · rw [if_neg hq, Function.update_of_ne (by simpa using hq)]
        rfl

end ThreadRegisters

end AnDbg

------------------------------------------------------------
-- Accesses To A File
------------------------------------------------------------

namespace AnDbg

open RegisterControl

variable {κ : Type}
variable [Regset κ]
variable {tid : Pid} {file : κ → ThreadRegisters}

theorem ReadsRegisters.getGpr
    (hReads : ReadsRegisters tid file)
    (reg : GPRegister)
    (k : κ) :
    (getGpr tid reg k).1 =
        (getGprPointer reg).map
          (GPRPointer.load (file k).gpr) ∧
      file (RegisterControl.getGpr tid reg k).2 = file k := by
  unfold RegisterControl.getGpr
  rcases hAll : RegisterControl.getAllGpr tid k with ⟨found, k'⟩
  rcases hReads.getAllGpr hAll with ⟨rfl, hFile⟩
  exact ⟨rfl, hFile⟩

theorem ReadsRegisters.getFpr
    (hReads : ReadsRegisters tid file)
    (reg : FPRegister)
    (k : κ) :
    (getFpr tid reg k).1 =
        (getFprPointer reg).map
          (FPRPointer.load (file k).fpr) ∧
      file (RegisterControl.getFpr tid reg k).2 = file k := by
  unfold RegisterControl.getFpr
  rcases hAll : RegisterControl.getAllFpr tid k with ⟨found, k'⟩
  rcases hReads.getAllFpr hAll with ⟨rfl, hFile⟩
  exact ⟨rfl, hFile⟩

theorem StoresRegisters.setGpr
    (hStores : StoresRegisters tid file)
    {reg : GPRegister}
    {p : GPRPointer}
    (hPointer : getGprPointer reg = some p)
    (value : BitVec 64)
    (k : κ) :
    (setGpr tid reg value k).1 = true ∧
      (file (RegisterControl.setGpr tid reg value k).2).value =
        Function.update (file k).value (.general p)
          (.general value) := by
  unfold RegisterControl.setGpr
  rcases hAll : RegisterControl.getAllGpr tid k with ⟨found, k₁⟩
  rcases hStores.getAllGpr hAll with ⟨rfl, hFile⟩
  dsimp only
  rw [hPointer]
  dsimp only
  rcases hSet : RegisterControl.setAllGpr tid
    (p.store (file k).gpr value) k₁ with ⟨done, k₂⟩
  rcases hStores.setAllGpr hSet with ⟨hDone, hStored⟩
  rw [hFile] at hStored
  refine ⟨hDone, ?_⟩
  dsimp only
  rw [hStored]
  exact (file k).value_store_gpr p value

theorem StoresRegisters.setFpr
    (hStores : StoresRegisters tid file)
    {reg : FPRegister}
    {p : FPRPointer}
    {value : FPRValue}
    (hPointer : getFprPointer reg = some p)
    (hFits : p.Fits value)
    (k : κ) :
    (setFpr tid reg value k).1 = true ∧
      (file (RegisterControl.setFpr tid reg value k).2).value =
        Function.update (file k).value (.floating p)
          (.floating value) := by
  unfold RegisterControl.setFpr
  rcases hAll : RegisterControl.getAllFpr tid k with ⟨found, k₁⟩
  rcases hStores.getAllFpr hAll with ⟨rfl, hFile⟩
  rcases p.exists_store hFits (file k).fpr with ⟨fpr, hStore⟩
  dsimp only
  rw [hPointer]
  dsimp only
  rw [hStore]
  dsimp only
  rcases hSet : RegisterControl.setAllFpr tid fpr k₁ with
    ⟨done, k₂⟩
  rcases hStores.setAllFpr hSet with ⟨hDone, hStored⟩
  rw [hFile] at hStored
  refine ⟨hDone, ?_⟩
  dsimp only
  rw [hStored]
  exact ThreadRegisters.value_store_fpr hStore

end AnDbg

------------------------------------------------------------
-- Names And Registers
------------------------------------------------------------

namespace AnDbg

namespace RegisterControl

/- What a name table finds, it finds at the name's index. -/
theorem getD_of_idxOf?
    {names : List StdString}
    {name : StdString}
    {i : Nat}
    (unknown : StdString)
    (hIndex : names.idxOf? name = some i) :
    names.getD i unknown = name ∧ i < names.length ∧
      name ∈ names := by
  rcases List.findIdx?_eq_some_iff_getElem.mp hIndex with
    ⟨hLt, hName, -⟩
  have hFound : names[i] = name := beq_iff_eq.mp hName
  refine ⟨?_, hLt, hFound ▸ List.getElem_mem hLt⟩
  rw [List.getD_eq_getElem?_getD,
    List.getElem?_eq_getElem hLt, hFound]
  rfl

theorem idxOf?_eq_none_iff
    {names : List StdString}
    {name : StdString} :
    names.idxOf? name = none ↔ name ∉ names := by
  rw [List.idxOf?, List.findIdx?_eq_none_iff]
  constructor
  · intro hAll hMem
    have hNe := hAll name hMem
    rw [beq_self_eq_true] at hNe
    cases hNe
  · intro hAbsent other hMem
    rw [beq_eq_false_iff_ne]
    rintro rfl
    exact hAbsent hMem

theorem GPRegister.toNat_ofNat
    {i : Nat}
    (hi : i < 34) :
    (GPRegister.ofNat i).toNat = i ∧
      GPRegister.ofNat i ≠ .invalid := by
  have hAll :
      ∀ i < 34, (GPRegister.ofNat i).toNat = i ∧
        GPRegister.ofNat i ≠ .invalid := by
    decide
  exact hAll i hi

theorem FPRegister.toNat_ofNat
    {i : Nat}
    (hi : i < 34) :
    (FPRegister.ofNat i).toNat = i ∧
      FPRegister.ofNat i ≠ .invalid := by
  have hAll :
      ∀ i < 34, (FPRegister.ofNat i).toNat = i ∧
        FPRegister.ofNat i ≠ .invalid := by
    decide
  exact hAll i hi

theorem str2gpr_eq_invalid_iff
    {name : StdString} :
    str2gpr name = .invalid ↔ cStr name ∉ gprNames := by
  unfold str2gpr
  split
  next i hIndex =>
    rcases getD_of_idxOf? [] hIndex with ⟨-, hLt, hMem⟩
    rw [iff_false_left (GPRegister.toNat_ofNat hLt).2,
      not_not]
    exact hMem
  next hIndex =>
    rw [iff_true_left rfl]
    exact idxOf?_eq_none_iff.mp hIndex

theorem str2fpr_eq_invalid_iff
    {name : StdString} :
    str2fpr name = .invalid ↔ cStr name ∉ fprNames := by
  unfold str2fpr
  split
  next i hIndex =>
    rcases getD_of_idxOf? [] hIndex with ⟨-, hLt, hMem⟩
    rw [iff_false_left (FPRegister.toNat_ofNat hLt).2,
      not_not]
    exact hMem
  next hIndex =>
    rw [iff_true_left rfl]
    exact idxOf?_eq_none_iff.mp hIndex

/- A register that was found is printed by the name it has. -/
theorem gpr2str_str2gpr
    {name : StdString}
    (hValid : str2gpr name ≠ .invalid) :
    gpr2str (str2gpr name) = cStr name := by
  unfold str2gpr at hValid ⊢
  split at hValid
  next i hIndex =>
    rcases getD_of_idxOf? (ascii "unknown") hIndex with
      ⟨hName, hLt, -⟩
    rw [gpr2str, (GPRegister.toNat_ofNat hLt).1, hName]
  next => exact absurd rfl hValid

theorem fpr2str_str2fpr
    {name : StdString}
    (hValid : str2fpr name ≠ .invalid) :
    fpr2str (str2fpr name) = cStr name := by
  unfold str2fpr at hValid ⊢
  split at hValid
  next i hIndex =>
    rcases getD_of_idxOf? (ascii "unknown") hIndex with
      ⟨hName, hLt, -⟩
    rw [fpr2str, (FPRegister.toNat_ofNat hLt).1, hName]
  next => exact absurd rfl hValid

end RegisterControl

end AnDbg
