import AnDbg.Core.ThreadRegisters
import AnDbg.Lib.Layout

/-
  Registers by their offsets.

  A register can be accessed by the offset of its field in
  the structure of its set, without the rest of the set.
  The fields of the structures lie one after the other in
  the order of their declaration.  An offset leads to the
  same bytes as the pointer into the structure, so either
  way of access does what the other one does.

  Main declarations:
    * `AnDbg.RegisterControl.getGprOffset` and `getFprOffset`
    * `AnDbg.UserPtRegs.bytes` and `AnDbg.UserFpsimdState.bytes`
    * `AnDbg.GPRPointer.bytes_store`
    * `AnDbg.FPRPointer.bytes_store`
    * `AnDbg.RegisterControl.offsets_agree`
-/

------------------------------------------------------------
-- Offsets
------------------------------------------------------------

namespace AnDbg

namespace RegisterControl

/- `get_gpr_offset`; `regs` is at 0 and `sp` at 248. -/
def getGprOffset : GPRegister → Option Nat
| .x i => some (0 + i * 8)
| .sp => some 248
| .pc => some 256
| .pstate => some 264
| .maxRegisters => none
| .invalid => none

/- `get_fpr_offset`; `vregs` is at 0 and `fpsr` at 512. -/
def getFprOffset : FPRegister → Option Nat
| .v i => some (0 + i * 16)
| .fpsr => some 512
| .fpcr => some 516
| .maxRegisters => none
| .invalid => none

end RegisterControl

end AnDbg

------------------------------------------------------------
-- General Registers
------------------------------------------------------------

namespace AnDbg

open LittleEndian Layout

/- The fields of `struct user_pt_regs`, as they lie in it. -/
def UserPtRegs.fields (regs : UserPtRegs) : List (List Byte) :=
  (List.ofFn fun i => encode 8 (regs.regs i)) ++
    [encode 8 regs.sp, encode 8 regs.pc, encode 8 regs.pstate]

/- The bytes of the structure. -/
def UserPtRegs.bytes (regs : UserPtRegs) : List Byte :=
  regs.fields.flatten

namespace GPRPointer

/- The field that a pointer leads to. -/
def index : GPRPointer → Nat
| .regs i => i
| .sp => 31
| .pc => 32
| .pstate => 33

theorem fields_index
    (regs : UserPtRegs)
    (p : GPRPointer) :
    regs.fields[p.index]? = some (encode 8 (p.load regs)) := by
  have hLength :
      (List.ofFn fun i => encode 8 (regs.regs i)).length =
        31 :=
    List.length_ofFn
  cases p with
  | regs i =>
      have hLt := i.isLt.trans_eq hLength.symm
      rw [UserPtRegs.fields, index, load,
        List.getElem?_append_left hLt,
        List.getElem?_eq_getElem hLt, List.getElem_ofFn]
  | _ =>
      rw [UserPtRegs.fields, index,
        List.getElem?_append_right (hLength.le.trans (by decide)),
        hLength]
      rfl

theorem exists_index
    {i : Nat}
    (hi : i < 34) :
    ∃ p : GPRPointer, p.index = i := by
  by_cases hx : i < 31
  · exact ⟨.regs ⟨i, hx⟩, rfl⟩
  · have hCases : i = 31 ∨ i = 32 ∨ i = 33 := by omega
    rcases hCases with rfl | rfl | rfl
    · exact ⟨.sp, rfl⟩
    · exact ⟨.pc, rfl⟩
    · exact ⟨.pstate, rfl⟩

theorem place_index
    (regs : UserPtRegs)
    (p : GPRPointer) :
    place regs.fields p.index = 8 * p.index := by
  have hIndex : p.index < 34 := by
    cases p with
    | regs i => exact Nat.lt_trans i.isLt (by decide)
    | sp => decide
    | pc => decide
    | pstate => decide
  apply place_eq_mul
  intro j hj
  rcases exists_index (Nat.lt_trans hj hIndex) with ⟨q, rfl⟩
  exact ⟨_, fields_index regs q, length_encode 8 _⟩

/- At the place of a register there are its bytes. -/
theorem slice_bytes
    (regs : UserPtRegs)
    (p : GPRPointer) :
    slice (8 * p.index) 8 regs.bytes =
      encode 8 (p.load regs) := by
  have hSlice := slice_flatten (fields_index regs p)
  rw [length_encode, place_index] at hSlice
  exact hSlice

/- A store overwrites the bytes at the place. -/
theorem bytes_store
    (regs : UserPtRegs)
    (value : BitVec 64)
    (p : GPRPointer) :
    (p.store regs value).bytes =
      patch (8 * p.index) (encode 8 value) regs.bytes := by
  have hNew := fields_index (p.store regs value) p
  rw [load_store, if_pos rfl] at hNew
  have hLength :
      (encode 8 value).length =
        (encode 8 (p.load regs)).length := by
    simp
  rw [← place_index regs p]
  apply flatten_eq_patch (fields_index regs p) hLength hNew
  intro j hOther
  by_cases hj : j < 34
  · rcases exists_index hj with ⟨q, rfl⟩
    have hNe : q ≠ p := fun hEq => hOther (hEq ▸ rfl)
    rw [fields_index, fields_index, load_store, if_neg hNe]
  · have hNone (regs : UserPtRegs) : regs.fields[j]? = none := by
      apply List.getElem?_eq_none
      simp only [UserPtRegs.fields, List.length_append,
        List.length_ofFn, List.length_cons, List.length_nil]
      omega
    rw [hNone, hNone]

end GPRPointer

/- An offset is that of the field which the pointer leads to. -/
theorem RegisterControl.getGprOffset_eq
    (reg : GPRegister) :
    getGprOffset reg =
      (getGprPointer reg).map fun p => 8 * p.index := by
  cases reg with
  | x i =>
      have hOffset : 0 + i.val * 8 = 8 * i.val := by omega
      exact congrArg some hOffset
  | _ => rfl

end AnDbg

------------------------------------------------------------
-- Floating-Point Registers
------------------------------------------------------------

namespace AnDbg

open LittleEndian Layout

/- The bytes of a value, by its width. -/
def FPRValue.bytes : FPRValue → List Byte
| .bits128 v => encode 16 v
| .bits32 v => encode 4 v

/-
  The fields of `struct user_fpsimd_state`, as they lie in
  it, up to the words that are reserved.
-/
def UserFpsimdState.fields
    (fpr : UserFpsimdState) : List (List Byte) :=
  (List.ofFn fun i => encode 16 (fpr.vregs i)) ++
    [encode 4 fpr.fpsr, encode 4 fpr.fpcr]

/- The bytes of the structure. -/
def UserFpsimdState.bytes (fpr : UserFpsimdState) : List Byte :=
  fpr.fields.flatten

namespace FPRPointer

/- The field that a pointer leads to. -/
def index : FPRPointer → Nat
| .vregs i => i
| .fpsr => 32
| .fpcr => 33

/- Where the field begins. -/
def offset : FPRPointer → Nat
| .vregs i => 16 * i
| .fpsr => 512
| .fpcr => 516

/- How many bytes the field has. -/
def size : FPRPointer → Nat
| .vregs _ => 16
| .fpsr => 4
| .fpcr => 4

theorem length_bytes_load
    (fpr : UserFpsimdState)
    (p : FPRPointer) :
    (p.load fpr).bytes.length = p.size := by
  cases p with
  | _ => exact length_encode _ _

/- A value fits exactly if it is as long as the field. -/
theorem fits_iff_length
    {p : FPRPointer}
    {value : FPRValue} :
    p.Fits value ↔ value.bytes.length = p.size := by
  cases p with
  | _ =>
      cases value with
      | bits128 v => simp [Fits, FPRValue.bytes, size]
      | bits32 v => simp [Fits, FPRValue.bytes, size]

theorem fields_index
    (fpr : UserFpsimdState)
    (p : FPRPointer) :
    fpr.fields[p.index]? = some (p.load fpr).bytes := by
  have hLength :
      (List.ofFn fun i => encode 16 (fpr.vregs i)).length =
        32 :=
    List.length_ofFn
  cases p with
  | vregs i =>
      have hLt := i.isLt.trans_eq hLength.symm
      rw [UserFpsimdState.fields, index, load, FPRValue.bytes,
        List.getElem?_append_left hLt,
        List.getElem?_eq_getElem hLt, List.getElem_ofFn]
  | _ =>
      rw [UserFpsimdState.fields, index,
        List.getElem?_append_right (hLength.le.trans (by decide)),
        hLength]
      rfl

theorem exists_index
    {i : Nat}
    (hi : i < 34) :
    ∃ p : FPRPointer, p.index = i := by
  by_cases hv : i < 32
  · exact ⟨.vregs ⟨i, hv⟩, rfl⟩
  · have hCases : i = 32 ∨ i = 33 := by omega
    rcases hCases with rfl | rfl
    · exact ⟨.fpsr, rfl⟩
    · exact ⟨.fpcr, rfl⟩

theorem place_index
    (fpr : UserFpsimdState)
    (p : FPRPointer) :
    place fpr.fields p.index = p.offset := by
  have hVregs {i : Nat} (hi : i ≤ 32) :
      place fpr.fields i = 16 * i := by
    apply place_eq_mul
    intro j hj
    exact ⟨_, fields_index fpr (.vregs ⟨j, by omega⟩),
      length_encode 16 _⟩
  have hFpsr : place fpr.fields 32 = 512 := hVregs (le_refl 32)
  cases p with
  | vregs i => exact hVregs i.isLt.le
  | fpsr => exact hFpsr
  | fpcr =>
      have hNext := place_succ (fields_index fpr .fpsr)
      rw [length_bytes_load] at hNext
      change place fpr.fields (32 + 1) = 512 + 4
      rw [← hFpsr]
      exact hNext

/- At the place of a register there are its bytes. -/
theorem slice_bytes
    (fpr : UserFpsimdState)
    (p : FPRPointer) :
    slice p.offset p.size fpr.bytes = (p.load fpr).bytes := by
  have hSlice := slice_flatten (fields_index fpr p)
  rw [length_bytes_load, place_index] at hSlice
  exact hSlice

/- A store overwrites the bytes at the place. -/
theorem bytes_store
    {fpr fpr' : UserFpsimdState}
    {value : FPRValue}
    {p : FPRPointer}
    (hFits : p.Fits value)
    (hStore : p.store fpr value = some fpr') :
    fpr'.bytes = patch p.offset value.bytes fpr.bytes := by
  have hNew := fields_index fpr' p
  rw [load_store hStore, if_pos rfl] at hNew
  have hLength :
      value.bytes.length = (p.load fpr).bytes.length :=
    (fits_iff_length.mp hFits).trans
      (length_bytes_load fpr p).symm
  rw [← place_index fpr p]
  apply flatten_eq_patch (fields_index fpr p) hLength hNew
  intro j hOther
  by_cases hj : j < 34
  · rcases exists_index hj with ⟨q, rfl⟩
    have hNe : q ≠ p := fun hEq => hOther (hEq ▸ rfl)
    rw [fields_index, fields_index, load_store hStore,
      if_neg hNe]
  · have hNone (fpr : UserFpsimdState) : fpr.fields[j]? = none := by
      apply List.getElem?_eq_none
      simp only [UserFpsimdState.fields, List.length_append,
        List.length_ofFn, List.length_cons, List.length_nil]
      omega
    rw [hNone, hNone]

end FPRPointer

/- An offset is that of the field which the pointer leads to. -/
theorem RegisterControl.getFprOffset_eq
    (reg : FPRegister) :
    getFprOffset reg =
      (getFprPointer reg).map FPRPointer.offset := by
  cases reg with
  | v i =>
      have hOffset : 0 + i.val * 16 = 16 * i.val := by omega
      exact congrArg some hOffset
  | _ => rfl

end AnDbg

------------------------------------------------------------
-- Access By Offset
------------------------------------------------------------

namespace AnDbg

open LittleEndian Layout

namespace RegisterControl

variable {κ : Type}
variable [Regset κ]
variable {tid : Pid} {file : κ → ThreadRegisters}

/- What is written through a pointer is all that changes. -/
theorem file_setGpr
    (hStores : StoresRegisters tid file)
    {reg : GPRegister}
    {p : GPRPointer}
    (hPointer : getGprPointer reg = some p)
    (value : BitVec 64)
    (k : κ) :
    file (setGpr tid reg value k).2 =
      { file k with gpr := p.store (file k).gpr value } := by
  apply ThreadRegisters.ext_value
  rw [(hStores.setGpr hPointer value k).2,
    ThreadRegisters.value_store_gpr]

theorem file_setFpr
    (hStores : StoresRegisters tid file)
    {reg : FPRegister}
    {p : FPRPointer}
    {value : FPRValue}
    (hPointer : getFprPointer reg = some p)
    (hFits : p.Fits value)
    (k : κ) :
    ∃ fpr, p.store (file k).fpr value = some fpr ∧
      file (setFpr tid reg value k).2 =
        { file k with fpr := fpr } := by
  rcases p.exists_store hFits (file k).fpr with ⟨fpr, hStore⟩
  refine ⟨fpr, hStore, ThreadRegisters.ext_value ?_⟩
  rw [(hStores.setFpr hPointer hFits k).2,
    ThreadRegisters.value_store_fpr hStore]

/- Without a place for the value nothing is written. -/
theorem setGpr_of_none
    (hReads : ReadsRegisters tid file)
    {reg : GPRegister}
    (hPointer : getGprPointer reg = none)
    (value : BitVec 64)
    (k : κ) :
    (setGpr tid reg value k).1 = false ∧
      file (setGpr tid reg value k).2 = file k := by
  unfold setGpr
  rcases hAll : getAllGpr tid k with ⟨found, k₁⟩
  rcases hReads.getAllGpr hAll with ⟨rfl, hFile⟩
  dsimp only
  rw [hPointer]
  exact ⟨rfl, hFile⟩

theorem setFpr_of_none
    (hReads : ReadsRegisters tid file)
    {reg : FPRegister}
    {value : FPRValue}
    (hRefused :
      ∀ p, getFprPointer reg = some p → ¬ p.Fits value)
    (k : κ) :
    (setFpr tid reg value k).1 = false ∧
      file (setFpr tid reg value k).2 = file k := by
  unfold setFpr
  rcases hAll : getAllFpr tid k with ⟨found, k₁⟩
  rcases hReads.getAllFpr hAll with ⟨rfl, hFile⟩
  dsimp only
  cases hPointer : getFprPointer reg with
  | none => exact ⟨rfl, hFile⟩
  | some p =>
      have hNone : p.store (file k).fpr value = none := by
        have hFits := hRefused p hPointer
        cases p <;> cases value <;>
          first
            | rfl
            | exact absurd trivial hFits
      dsimp only
      rw [hNone]
      exact ⟨rfl, hFile⟩

/-
  A general register is read and written as the eight bytes
  at its offset; without an offset there is no access.
-/
def GprByOffset
    (tid : Pid)
    (file : κ → ThreadRegisters)
    (reg : GPRegister)
    (value : BitVec 64)
    (k : κ) : Prop :=
  let bytes := (file k).gpr.bytes
  let set := setGpr tid reg value k
  match getGprOffset reg with
  | none =>
    (getGpr tid reg k).1 = none ∧ set.1 = false ∧
      file set.2 = file k
  | some offset =>
    (getGpr tid reg k).1 =
        some (decode 64 (slice offset 8 bytes)) ∧
      set.1 = true ∧
      (file set.2).gpr.bytes =
        patch offset (encode 8 value) bytes ∧
      (file set.2).fpr = (file k).fpr

/-
  A floating-point register is read and written as the bytes
  at its offset, by values of its own width only.
-/
def FprByOffset
    (tid : Pid)
    (file : κ → ThreadRegisters)
    (reg : FPRegister)
    (value : FPRValue)
    (k : κ) : Prop :=
  let bytes := (file k).fpr.bytes
  let set := setFpr tid reg value k
  match getFprOffset reg with
  | none =>
    (getFpr tid reg k).1 = none ∧ set.1 = false ∧
      file set.2 = file k
  | some offset =>
    ∃ found,
      (getFpr tid reg k).1 = some found ∧
        found.bytes =
          slice offset found.bytes.length bytes ∧
        if value.bytes.length = found.bytes.length then
          set.1 = true ∧
            (file set.2).fpr.bytes =
              patch offset value.bytes bytes ∧
            (file set.2).gpr = (file k).gpr
        else
          set.1 = false ∧ file set.2 = file k

theorem gprByOffset
    (hStores : StoresRegisters tid file)
    (reg : GPRegister)
    (value : BitVec 64)
    (k : κ) :
    GprByOffset tid file reg value k := by
  unfold GprByOffset
  have hGet := (hStores.toReadsRegisters.getGpr reg k).1
  rw [getGprOffset_eq]
  cases hPointer : getGprPointer reg with
  | none =>
      rw [hPointer] at hGet
      exact ⟨hGet,
        setGpr_of_none hStores.toReadsRegisters hPointer value k⟩
  | some p =>
      rw [hPointer] at hGet
      have hFile := file_setGpr hStores hPointer value k
      refine ⟨?_, (hStores.setGpr hPointer value k).1, ?_, ?_⟩
      · rw [hGet, p.slice_bytes,
          decode_encode _ (by decide)]
        rfl
      · rw [hFile]
        exact p.bytes_store (file k).gpr value
      · rw [hFile]

theorem fprByOffset
    (hStores : StoresRegisters tid file)
    (reg : FPRegister)
    (value : FPRValue)
    (k : κ) :
    FprByOffset tid file reg value k := by
  unfold FprByOffset
  have hGet := (hStores.toReadsRegisters.getFpr reg k).1
  rw [getFprOffset_eq]
  cases hPointer : getFprPointer reg with
  | none =>
      rw [hPointer] at hGet
      refine ⟨hGet,
        setFpr_of_none hStores.toReadsRegisters ?_ k⟩
      intro p hSome
      rw [hPointer] at hSome
      cases hSome
  | some p =>
      rw [hPointer] at hGet
      have hSize := FPRPointer.length_bytes_load (file k).fpr p
      refine ⟨_, hGet, ?_, ?_⟩
      · rw [hSize, p.slice_bytes]
      · rw [hSize]
        split
        next hWidth =>
          have hFits := FPRPointer.fits_iff_length.mpr hWidth
          rcases file_setFpr hStores hPointer hFits k with
            ⟨fpr, hStore, hFile⟩
          refine ⟨(hStores.setFpr hPointer hFits k).1, ?_, ?_⟩
          · rw [hFile]
            exact FPRPointer.bytes_store hFits hStore
          · rw [hFile]
        next hWidth =>
          apply setFpr_of_none hStores.toReadsRegisters
          intro q hSome hFits
          cases hPointer.symm.trans hSome
          exact hWidth (FPRPointer.fits_iff_length.mp hFits)

/-
  Every access to a register through its whole set is one to
  the bytes at its offset.
-/
theorem offsets_agree
    (hStores : StoresRegisters tid file)
    (k : κ) :
    (∀ reg value, GprByOffset tid file reg value k) ∧
      ∀ reg value, FprByOffset tid file reg value k :=
  ⟨fun reg value => gprByOffset hStores reg value k,
    fun reg value => fprByOffset hStores reg value k⟩

/- A register file is what is stored in it. -/
theorem offsets_agree_cleared :
    (∀ reg value,
      GprByOffset 7 id reg value ThreadRegisters.cleared) ∧
      ∀ reg value,
        FprByOffset 7 id reg value ThreadRegisters.cleared :=
  offsets_agree (ThreadRegisters.storesRegisters 7) _

end RegisterControl

end AnDbg
