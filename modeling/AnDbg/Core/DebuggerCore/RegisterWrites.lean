import AnDbg.Core.DebuggerCore.RegisterReads
import AnDbg.Lib.Assignments

/-
  What writing registers by name does.

  The entries of a request are checked and written one by
  one, so that a request amounts to the assignments of the
  entries before the first wrong one.  A wrong one leaves
  those assignments in place.

  Main declarations:
    * `AnDbg.DebuggerCore.gprEntry_eq_ok_iff` and
      `fprEntry_eq_ok_iff`
    * `AnDbg.DebuggerCore.leadingWrites` and `firstWrong`
    * `AnDbg.DebuggerCore.writeRegisters_eq`
    * `AnDbg.DebuggerCore.allOrNothing_iff`
-/

------------------------------------------------------------
-- Entries
------------------------------------------------------------

namespace AnDbg

namespace DebuggerCore

open RegisterControl Utils

/- The number for a floating-point register, by its width. -/
def fprNumber (reg : FPRegister) (n : Nat) : FPRValue :=
  match reg with
  | .v _ => .bits128 (BitVec.ofNat 128 n)
  | _ => .bits32 (BitVec.ofNat 32 n)

/- An entry that has nothing wrong. -/
def WellFormed
    (accepts : StdString → Prop)
    (regName : StdString)
    (value : Json) : Prop :=
  accepts regName ∧ ∃ s n, value = .string s ∧ WritesHex s n

theorem numberOf_eq_ok_iff
    {w : Nat}
    {s : StdString}
    {v : BitVec w} :
    numberOf w s = .ok v ↔
      ∃ n, WritesHex s n ∧ v = BitVec.ofNat w n := by
  unfold numberOf
  constructor
  · intro hOk
    cases hRead : hexStrToNum w s with
    | none =>
        rw [hRead] at hOk
        cases hOk
    | some number =>
        rcases writes_of_hexStrToNum hRead with ⟨n, hWrites⟩
        rw [hexStrToNum_of_writes hWrites] at hOk
        cases hOk
        exact ⟨n, hWrites, rfl⟩
  · intro hNumber
    rcases hNumber with ⟨n, hWrites, rfl⟩
    rw [hexStrToNum_of_writes hWrites]

/- A text that is no number ends the request with a status. -/
theorem numberOf_error
    {w : Nat}
    {s : StdString}
    {ending : Ending}
    (hError : numberOf w s = .error ending) :
    ∃ text, ending = .ok (.fail text) := by
  unfold numberOf at hError
  split at hError
  next => cases hError
  next =>
    cases hError
    exact ⟨_, rfl⟩

/- The checks of an entry for a general register. -/
theorem gprEntry_string
    (regName s : StdString) :
    gprEntry regName (.string s) =
      match numberOf 64 s with
      | .error ending => .error ending
      | .ok number =>
        if str2gpr regName = .invalid then
          .error (badName regName)
        else
          .ok (str2gpr regName, number) := by
  unfold gprEntry
  simp only [textOf, bind, Except.bind]
  cases numberOf 64 s with
  | error ending => rfl
  | ok number =>
      dsimp only
      split
      · rfl
      · rfl

theorem gprEntry_eq_ok_iff
    {regName : StdString}
    {value : Json}
    {target : GPRegister × BitVec 64} :
    gprEntry regName value = .ok target ↔
      str2gpr regName ≠ .invalid ∧
        ∃ s n, value = .string s ∧ WritesHex s n ∧
          target = (str2gpr regName, BitVec.ofNat 64 n) := by
  constructor
  · intro hOk
    cases value with
    | string s =>
        rw [gprEntry_string] at hOk
        split at hOk
        next => cases hOk
        next number hNumber =>
          split at hOk
          next => cases hOk
          next hValid =>
            cases hOk
            rcases numberOf_eq_ok_iff.mp hNumber with
              ⟨n, hWrites, rfl⟩
            exact ⟨hValid, s, n, rfl, hWrites, rfl⟩
    | _ => cases hOk
  · intro hEntry
    rcases hEntry with ⟨hValid, s, n, rfl, hWrites, rfl⟩
    rw [gprEntry_string,
      numberOf_eq_ok_iff.mpr ⟨n, hWrites, rfl⟩]
    exact if_neg hValid

/- The checks of an entry for a floating-point register. -/
theorem fprEntry_string
    (regName s : StdString) :
    fprEntry regName (.string s) =
      match str2fpr regName with
      | .invalid => .error (badName regName)
      | .v i =>
        (numberOf 128 s).map fun v => (.v i, .bits128 v)
      | .fpsr =>
        (numberOf 32 s).map fun v => (.fpsr, .bits32 v)
      | .fpcr =>
        (numberOf 32 s).map fun v => (.fpcr, .bits32 v)
      | .maxRegisters =>
        .error (.ok (.fail (utf8 "不支持的寄存器: "
          ++ regName))) := by
  unfold fprEntry
  simp only [textOf, bind, Except.bind]
  cases str2fpr regName with
  | invalid => rfl
  | v i => cases numberOf 128 s <;> rfl
  | fpsr => cases numberOf 32 s <;> rfl
  | fpcr => cases numberOf 32 s <;> rfl
  | maxRegisters => rfl

theorem map_numberOf_eq_ok_iff
    {w : Nat}
    {s : StdString}
    {ρ : Type}
    {f : BitVec w → ρ}
    {target : ρ} :
    (numberOf w s).map f = .ok target ↔
      ∃ n, WritesHex s n ∧ target = f (BitVec.ofNat w n) := by
  constructor
  · intro hOk
    cases hNumber : numberOf w s with
    | error ending =>
        rw [hNumber] at hOk
        cases hOk
    | ok v =>
        rcases numberOf_eq_ok_iff.mp hNumber with
          ⟨n, hWrites, rfl⟩
        rw [hNumber] at hOk
        cases hOk
        exact ⟨n, hWrites, rfl⟩
  · intro hNumber
    rcases hNumber with ⟨n, hWrites, rfl⟩
    rw [numberOf_eq_ok_iff.mpr ⟨n, hWrites, rfl⟩]
    rfl

theorem fprEntry_eq_ok_iff
    {regName : StdString}
    {value : Json}
    {target : FPRegister × FPRValue} :
    fprEntry regName value = .ok target ↔
      str2fpr regName ≠ .invalid ∧
        ∃ s n, value = .string s ∧ WritesHex s n ∧
          target =
            (str2fpr regName,
              fprNumber (str2fpr regName) n) := by
  constructor
  · intro hOk
    cases value with
    | string s =>
        rw [fprEntry_string] at hOk
        cases hReg : str2fpr regName with
        | invalid =>
            rw [hReg] at hOk
            cases hOk
        | maxRegisters =>
            rw [hReg] at hOk
            cases hOk
        | _ =>
            rw [hReg] at hOk
            rcases map_numberOf_eq_ok_iff.mp hOk with
              ⟨n, hWrites, rfl⟩
            exact ⟨by simp, s, n, rfl, hWrites, rfl⟩
    | _ => cases hOk
  · intro hEntry
    rcases hEntry with ⟨hValid, s, n, rfl, hWrites, rfl⟩
    rcases exists_fprPointer hValid with ⟨p, hPointer⟩
    rw [fprEntry_string]
    cases hReg : str2fpr regName with
    | invalid => exact absurd hReg hValid
    | maxRegisters =>
        rw [hReg] at hPointer
        cases hPointer
    | _ => exact map_numberOf_eq_ok_iff.mpr ⟨n, hWrites, rfl⟩

/- What can be wrong in a request. -/
inductive Wrong
  | container
  | entry (regName : StdString) (value : Json)

/- It has a text that can be reported. -/
def Wrong.HasText : Wrong → Prop
| .container => True
| .entry _ (.string _) => True
| .entry _ _ => False

/- How a request ends that meets something wrong, or nothing. -/
inductive EndsBy : Option Wrong → Option Ending → Prop
  | well : EndsBy none none
  | reported
      {wrong : Wrong}
      (hText : wrong.HasText)
      (text : StdString) :
      EndsBy (some wrong) (some (.ok (.fail text)))
  | threw
      {wrong : Wrong}
      (hText : ¬ wrong.HasText) :
      EndsBy (some wrong) (some (.error .typeError))

theorem gprEntry_error
    {regName : StdString}
    {value : Json}
    {ending : Ending}
    (hError : gprEntry regName value = .error ending) :
    EndsBy (some (.entry regName value)) (some ending) := by
  cases value with
  | string s =>
      rw [gprEntry_string] at hError
      split at hError
      next hNumber =>
        cases hError
        rcases numberOf_error hNumber with ⟨text, rfl⟩
        exact .reported (by trivial) text
      next =>
        split at hError
        next =>
          cases hError
          exact .reported (by trivial) _
        next => cases hError
  | _ =>
      cases hError
      exact .threw id

theorem map_numberOf_error
    {w : Nat}
    {s : StdString}
    {ρ : Type}
    {f : BitVec w → ρ}
    {ending : Ending}
    (hError : (numberOf w s).map f = .error ending) :
    ∃ text, ending = .ok (.fail text) := by
  cases hNumber : numberOf w s with
  | error found =>
      rw [hNumber] at hError
      cases hError
      exact numberOf_error hNumber
  | ok v =>
      rw [hNumber] at hError
      cases hError

theorem fprEntry_error
    {regName : StdString}
    {value : Json}
    {ending : Ending}
    (hError : fprEntry regName value = .error ending) :
    EndsBy (some (.entry regName value)) (some ending) := by
  cases value with
  | string s =>
      rw [fprEntry_string] at hError
      have hText : ∃ text, ending = .ok (.fail text) := by
        split at hError
        next =>
          cases hError
          exact ⟨_, rfl⟩
        next => exact map_numberOf_error hError
        next => exact map_numberOf_error hError
        next => exact map_numberOf_error hError
        next =>
          cases hError
          exact ⟨_, rfl⟩
      rcases hText with ⟨text, rfl⟩
      exact .reported (by trivial) text
  | _ =>
      cases hError
      exact .threw id

end DebuggerCore

end AnDbg

------------------------------------------------------------
-- Requests As Assignments
------------------------------------------------------------

namespace AnDbg

namespace DebuggerCore

open RegisterControl Utils Assignments

/- The assignment that a checked entry asks for. -/
def gprWrite
    (target : GPRegister × BitVec 64) :
    Option (RegisterPlace × RegisterValue) :=
  (getGprPointer target.1).map fun pointer =>
    (.general pointer, .general target.2)

def fprWrite
    (target : FPRegister × FPRValue) :
    Option (RegisterPlace × RegisterValue) :=
  (getFprPointer target.1).map fun pointer =>
    (.floating pointer, .floating target.2)

/-
  The assignments of the entries before the first wrong one,
  and that one, if there is one.
-/
def leading
    {ρ : Type}
    (entry : StdString → Json → Except Ending ρ)
    (asWrite : ρ → Option (RegisterPlace × RegisterValue)) :
    List (StdString × Json) →
      List (RegisterPlace × RegisterValue) × Option Wrong
| [] => ([], none)
| (regName, value) :: fields =>
    match entry regName value with
    | .error _ => ([], some (.entry regName value))
    | .ok target =>
      ((asWrite target).toList ++ (leading entry asWrite fields).1,
        (leading entry asWrite fields).2)

/- The same for a part, which may be no object at all. -/
def leadingPart
    {ρ : Type}
    (entry : StdString → Json → Except Ending ρ)
    (asWrite : ρ → Option (RegisterPlace × RegisterValue))
    (part : String)
    (jsonData : Json) :
    List (RegisterPlace × RegisterValue) × Option Wrong :=
  match jsonData.field (ascii part) with
  | none => ([], none)
  | some (.object fields) => leading entry asWrite fields
  | some _ => ([], some .container)

/- The general part is looked at before the other one. -/
def leadingWrites (jsonData : Json) :
    List (RegisterPlace × RegisterValue) :=
  let gpr := leadingPart gprEntry gprWrite "GPR" jsonData
  match gpr.2 with
  | some _ => gpr.1
  | none =>
    gpr.1 ++ (leadingPart fprEntry fprWrite "FPR" jsonData).1

/- The first wrong thing of a request. -/
def firstWrong (jsonData : Json) : Option Wrong :=
  match (leadingPart gprEntry gprWrite "GPR" jsonData).2 with
  | some wrong => some wrong
  | none => (leadingPart fprEntry fprWrite "FPR" jsonData).2

variable {κ ρ : Type}
variable {file : κ → ThreadRegisters}
variable {entry : StdString → Json → Except Ending ρ}
variable {write : ρ → κ → Bool × κ}
variable {asWrite : ρ → Option (RegisterPlace × RegisterValue)}

/-
  Writing a checked entry is one assignment; an entry that
  is not accepted ends the request.
-/
structure WritesEntries
    (file : κ → ThreadRegisters)
    (entry : StdString → Json → Except Ending ρ)
    (write : ρ → κ → Bool × κ)
    (asWrite : ρ → Option (RegisterPlace × RegisterValue)) :
    Prop where
  ok :
    ∀ {regName value target}, entry regName value = .ok target →
      ∃ place v, asWrite target = some (place, v) ∧
        ∀ k, (write target k).1 = true ∧
          (file (write target k).2).value =
            Function.update (file k).value place v
  error :
    ∀ {regName value ending},
      entry regName value = .error ending →
        EndsBy (some (.entry regName value)) (some ending)

theorem writeEntries_eq
    (hWrites : WritesEntries file entry write asWrite)
    (name : String)
    (fields : List (StdString × Json))
    (k : κ) :
    let done := writeEntries entry write name fields k
    EndsBy (leading entry asWrite fields).2 done.1 ∧
      (file done.2).value =
        applied (leading entry asWrite fields).1
          (file k).value := by
  induction fields generalizing k with
  | nil => exact ⟨.well, rfl⟩
  | cons field fields ih =>
      rcases field with ⟨regName, value⟩
      rw [writeEntries, leading]
      cases hEntry : entry regName value with
      | error ending => exact ⟨hWrites.error hEntry, rfl⟩
      | ok target =>
          rcases hWrites.ok hEntry with ⟨place, v, hWrite, hDone⟩
          rcases hDone k with ⟨hTrue, hValue⟩
          dsimp only
          generalize write target k = answer at hTrue hValue
          rcases answer with ⟨done, k'⟩
          cases hTrue
          dsimp only at hValue ⊢
          rcases ih k' with ⟨hEnding, hFile⟩
          refine ⟨hEnding, ?_⟩
          rw [hFile, hValue, hWrite, Option.toList_some,
            List.singleton_append]
          rfl

theorem writePart_eq
    (hWrites : WritesEntries file entry write asWrite)
    (name part : String)
    (jsonData : Json)
    (k : κ) :
    let done := writePart entry write name part jsonData k
    EndsBy (leadingPart entry asWrite part jsonData).2 done.1 ∧
      (file done.2).value =
        applied (leadingPart entry asWrite part jsonData).1
          (file k).value := by
  unfold writePart leadingPart
  cases jsonData.field (ascii part) with
  | none => exact ⟨.well, rfl⟩
  | some request =>
      cases request with
      | object fields =>
          exact writeEntries_eq hWrites name fields k
      | _ => exact ⟨.reported (by trivial) _, rfl⟩

variable [Regset κ]
variable {c : DebuggerCore}

theorem writesEntries_gpr
    (hStores : StoresRegisters c.currentTid file) :
    WritesEntries file gprEntry
      (fun entry k => setGpr c.currentTid entry.1 entry.2 k)
      gprWrite := by
  refine ⟨?_, gprEntry_error⟩
  intro regName value target hOk
  rcases gprEntry_eq_ok_iff.mp hOk with
    ⟨hValid, s, n, -, -, rfl⟩
  rcases exists_gprPointer hValid with ⟨p, hPointer⟩
  refine ⟨.general p, .general (BitVec.ofNat 64 n), ?_,
    hStores.setGpr hPointer _⟩
  unfold gprWrite
  rw [hPointer]
  rfl

/- A register takes numbers of its own width. -/
theorem fits_fprNumber
    {reg : FPRegister}
    {p : FPRPointer}
    (hPointer : getFprPointer reg = some p)
    (n : Nat) :
    p.Fits (fprNumber reg n) := by
  cases reg with
  | v i =>
      cases hPointer
      trivial
  | fpsr =>
      cases hPointer
      trivial
  | fpcr =>
      cases hPointer
      trivial
  | maxRegisters => cases hPointer
  | invalid => cases hPointer

theorem writesEntries_fpr
    (hStores : StoresRegisters c.currentTid file) :
    WritesEntries file fprEntry
      (fun entry k => setFpr c.currentTid entry.1 entry.2 k)
      fprWrite := by
  refine ⟨?_, fprEntry_error⟩
  intro regName value target hOk
  rcases fprEntry_eq_ok_iff.mp hOk with
    ⟨hValid, s, n, -, -, rfl⟩
  rcases exists_fprPointer hValid with ⟨p, hPointer⟩
  refine ⟨.floating p,
    .floating (fprNumber (str2fpr regName) n), ?_,
    hStores.setFpr hPointer (fits_fprNumber hPointer n)⟩
  unfold fprWrite
  rw [hPointer]
  rfl

/-
  A request does the assignments before its first wrong
  entry, and ends as that entry makes it end.
-/
theorem writeRegisters_eq
    (hStores : StoresRegisters c.currentTid file)
    (jsonData : Json)
    (k : κ) :
    let done := writeRegisters jsonData c k
    (∃ ending,
        EndsBy (firstWrong jsonData) ending ∧
          done.1 = ending.getD
            (.ok (.successText
              (utf8 "write_registers 成功")))) ∧
      (file done.2).value =
        applied (leadingWrites jsonData) (file k).value := by
  have hGpr := writePart_eq (writesEntries_gpr hStores)
    "set_gpr" "GPR" jsonData k
  unfold writeRegisters firstWrong leadingWrites
  generalize writePart gprEntry
    (fun entry k => setGpr c.currentTid entry.1 entry.2 k)
    "set_gpr" "GPR" jsonData k = first at hGpr
  generalize leadingPart gprEntry gprWrite "GPR" jsonData = gpr
    at hGpr
  rcases first with ⟨ending, k₁⟩
  rcases gpr with ⟨writes, wrong⟩
  rcases hGpr with ⟨hEnds, hFile⟩
  dsimp only at hEnds hFile ⊢
  cases hEnds with
  | reported hText text =>
      exact ⟨⟨_, .reported hText text, rfl⟩, hFile⟩
  | threw hText => exact ⟨⟨_, .threw hText, rfl⟩, hFile⟩
  | well =>
      have hFpr := writePart_eq (writesEntries_fpr hStores)
        "set_fpr" "FPR" jsonData k₁
      dsimp only
      generalize writePart fprEntry
        (fun entry k => setFpr c.currentTid entry.1 entry.2 k)
        "set_fpr" "FPR" jsonData k₁ = second at hFpr
      rcases second with ⟨ending, k₂⟩
      rcases hFpr with ⟨hEnds₂, hFile₂⟩
      dsimp only at hFile₂
      rw [applied_append, ← hFile, ← hFile₂]
      cases ending with
      | some ending => exact ⟨⟨_, hEnds₂, rfl⟩, rfl⟩
      | none => exact ⟨⟨_, hEnds₂, rfl⟩, rfl⟩

end DebuggerCore

end AnDbg

------------------------------------------------------------
-- All Or Nothing
------------------------------------------------------------

namespace AnDbg

namespace DebuggerCore

open RegisterControl Utils Assignments

/- Something is wrong in a part of a request. -/
def PartMalformed
    (accepts : StdString → Prop)
    (part : String)
    (jsonData : Json) : Prop :=
  match jsonData.field (ascii part) with
  | none => False
  | some (.object fields) =>
    ∃ field ∈ fields, ¬ WellFormed accepts field.1 field.2
  | some _ => True

/- Something is wrong in one of the two parts. -/
def Malformed (jsonData : Json) : Prop :=
  PartMalformed (fun name => str2gpr name ≠ .invalid) "GPR"
      jsonData ∨
    PartMalformed (fun name => str2fpr name ≠ .invalid) "FPR"
      jsonData

section Parts

variable {ρ : Type}
variable {entry : StdString → Json → Except Ending ρ}
variable {asWrite : ρ → Option (RegisterPlace × RegisterValue)}
variable {accepts : StdString → Prop}

/- The entries that are accepted are the well-formed ones. -/
def ChecksFormat
    (entry : StdString → Json → Except Ending ρ)
    (accepts : StdString → Prop) : Prop :=
  ∀ regName value,
    (∃ target, entry regName value = .ok target) ↔
      WellFormed accepts regName value

theorem leading_none_iff
    (hChecks : ChecksFormat entry accepts)
    (fields : List (StdString × Json)) :
    (leading entry asWrite fields).2 = none ↔
      ∀ field ∈ fields, WellFormed accepts field.1 field.2 := by
  induction fields with
  | nil => simp [leading]
  | cons field fields ih =>
      rcases field with ⟨regName, value⟩
      rw [leading, List.forall_mem_cons, ← ih,
        ← hChecks regName value]
      cases entry regName value with
      | error ending => simp
      | ok target => simp

theorem leadingPart_none_iff
    (hChecks : ChecksFormat entry accepts)
    (part : String)
    (jsonData : Json) :
    (leadingPart entry asWrite part jsonData).2 = none ↔
      ¬ PartMalformed accepts part jsonData := by
  unfold leadingPart PartMalformed
  cases jsonData.field (ascii part) with
  | none => simp
  | some request =>
      cases request with
      | object fields =>
          dsimp only
          rw [leading_none_iff hChecks]
          push Not
          rfl
      | _ => simp

end Parts

theorem checksFormat_gpr :
    ChecksFormat gprEntry
      (fun name => str2gpr name ≠ .invalid) := by
  intro regName value
  constructor
  · intro hOk
    rcases hOk with ⟨target, hOk⟩
    rcases gprEntry_eq_ok_iff.mp hOk with
      ⟨hValid, s, n, hValue, hWrites, -⟩
    exact ⟨hValid, s, n, hValue, hWrites⟩
  · intro hWell
    rcases hWell with ⟨hValid, s, n, hValue, hWrites⟩
    exact ⟨_, gprEntry_eq_ok_iff.mpr
      ⟨hValid, s, n, hValue, hWrites, rfl⟩⟩

theorem checksFormat_fpr :
    ChecksFormat fprEntry
      (fun name => str2fpr name ≠ .invalid) := by
  intro regName value
  constructor
  · intro hOk
    rcases hOk with ⟨target, hOk⟩
    rcases fprEntry_eq_ok_iff.mp hOk with
      ⟨hValid, s, n, hValue, hWrites, -⟩
    exact ⟨hValid, s, n, hValue, hWrites⟩
  · intro hWell
    rcases hWell with ⟨hValid, s, n, hValue, hWrites⟩
    exact ⟨_, fprEntry_eq_ok_iff.mpr
      ⟨hValid, s, n, hValue, hWrites, rfl⟩⟩

theorem firstWrong_none_iff
    (jsonData : Json) :
    firstWrong jsonData = none ↔ ¬ Malformed jsonData := by
  have hGpr :
      (leadingPart gprEntry gprWrite "GPR" jsonData).2 = none ↔
        _ :=
    leadingPart_none_iff checksFormat_gpr "GPR" jsonData
  have hFpr :
      (leadingPart fprEntry fprWrite "FPR" jsonData).2 = none ↔
        _ :=
    leadingPart_none_iff checksFormat_fpr "FPR" jsonData
  unfold firstWrong Malformed
  rw [not_or, ← hGpr, ← hFpr]
  cases (leadingPart gprEntry gprWrite "GPR" jsonData).2 with
  | none => simp
  | some wrong => simp

/- The request was answered with success. -/
def EndsWell (ending : Ending) : Prop :=
  ∃ status, ending = .ok status ∧ status.isSuccess = true

variable {κ : Type}
variable [Regset κ]
variable {c : DebuggerCore}
variable {file : κ → ThreadRegisters}

/-
  Without success no register is changed, and a malformed
  request is answered with a failure, not with an exception.
-/
structure AllOrNothing
    (file : κ → ThreadRegisters)
    (jsonData : Json)
    (c : DebuggerCore)
    (k : κ) : Prop where
  untouched :
    ¬ EndsWell (writeRegisters jsonData c k).1 →
      file (writeRegisters jsonData c k).2 = file k
  answered :
    Malformed jsonData →
      ∃ status,
        (writeRegisters jsonData c k).1 = .ok status ∧
          status.isFail = true

/-
  If there is anything wrong in the request, then the first
  wrong thing is not a value that has no text, and every
  register that an entry before it names holds the value
  which the last such entry gives it.
-/
def FailsHarmlessly
    (jsonData : Json)
    (file : ThreadRegisters) : Prop :=
  ∀ wrong, firstWrong jsonData = some wrong →
    wrong.HasText ∧
      ∀ place v,
        last place (leadingWrites jsonData) = some v →
          file.value place = v

/-
  For every register file and every request, if the calls
  for the register sets go through: all or nothing is done
  exactly if the request fails harmlessly.
-/
theorem allOrNothing_iff
    (hStores : StoresRegisters c.currentTid file)
    (jsonData : Json)
    (k : κ) :
    AllOrNothing file jsonData c k ↔
      FailsHarmlessly jsonData (file k) := by
  rcases writeRegisters_eq hStores jsonData k with
    ⟨⟨ending, hEnds, hEnding⟩, hFile⟩
  constructor
  · intro hAll wrong hWrong
    have hMalformed : Malformed jsonData := by
      by_contra hFine
      rw [(firstWrong_none_iff jsonData).mpr hFine] at hWrong
      cases hWrong
    rcases hAll.answered hMalformed with
      ⟨status, hStatus, hFail⟩
    have hNotWell :
        ¬ EndsWell (writeRegisters jsonData c k).1 := by
      intro hWell
      rcases hWell with ⟨other, hOther, hSuccess⟩
      rw [hStatus] at hOther
      cases hOther
      rw [Status.isFail_eq_not_isSuccess, hSuccess] at hFail
      cases hFail
    constructor
    · rw [hWrong] at hEnds
      cases hEnds with
      | reported hText => exact hText
      | threw =>
          rw [hStatus] at hEnding
          cases hEnding
    · rw [← applied_eq_self_iff, ← hFile,
        hAll.untouched hNotWell]
  · intro hHarmless
    constructor
    case untouched =>
      intro hNotWell
      apply ThreadRegisters.ext_value
      rw [hFile, applied_eq_self_iff]
      cases hWrong : firstWrong jsonData with
      | none =>
          rw [hWrong] at hEnds
          cases hEnds
          exact absurd ⟨_, hEnding, rfl⟩ hNotWell
      | some wrong => exact (hHarmless wrong hWrong).2
    case answered =>
      intro hMalformed
      cases hWrong : firstWrong jsonData with
      | none =>
          exact absurd hMalformed
            ((firstWrong_none_iff jsonData).mp hWrong)
      | some wrong =>
          have hText := (hHarmless wrong hWrong).1
          rw [hWrong] at hEnds
          cases hEnds with
          | reported _ text => exact ⟨_, hEnding, rfl⟩
          | threw hNot => exact absurd hText hNot

/- The second of two entries has no number. -/
theorem allOrNothing_iff_second :
    let jsonData : Json :=
      .object
        [(ascii "GPR",
          .object
            [(ascii "x0", .string (ascii "0x1")),
              (ascii "x1", .string (ascii "zz"))])]
    AllOrNothing id jsonData init ThreadRegisters.cleared ↔
      FailsHarmlessly jsonData ThreadRegisters.cleared :=
  allOrNothing_iff
    (ThreadRegisters.storesRegisters init.currentTid) _ _

/-
  The first entry stays written when the second one has no
  number, and a value that is a number is an exception.
-/
theorem not_allOrNothing_second :
    ¬ AllOrNothing id
        (.object
          [(ascii "GPR",
            .object
              [(ascii "x0", .string (ascii "0x1")),
                (ascii "x1", .string (ascii "zz"))])])
        init ThreadRegisters.cleared ∧
      ¬ AllOrNothing id
        (.object
          [(ascii "GPR",
            .object [(ascii "x0", .integer 1)])])
        init ThreadRegisters.cleared := by
  constructor
  · intro hAll
    have hSame := hAll.untouched (by
      intro hWell
      rcases hWell with ⟨status, hStatus, hSuccess⟩
      cases hStatus
      cases hSuccess)
    have hValue := congrArg (fun file => file.gpr.regs 0) hSame
    exact absurd hValue (by decide)
  · intro hAll
    have hMalformed :
        Malformed
          (.object
            [(ascii "GPR",
              .object [(ascii "x0", .integer 1)])]) := by
      left
      refine ⟨(ascii "x0", .integer 1), by simp, ?_⟩
      intro hWell
      rcases hWell with ⟨-, s, n, hValue, -⟩
      cases hValue
    rcases hAll.answered hMalformed with ⟨status, hStatus, -⟩
    cases hStatus

end DebuggerCore

end AnDbg
