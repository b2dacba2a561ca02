import AnDbg.Core.DebuggerCore.RegisterWrites

/-
  Registers that are written, and then read.

  In a request without a wrong entry each name stands for a
  place of its own, so that the assignments do not overwrite
  each other: the registers it names read back as the
  numbers they were given, and no other one has changed.

  Main declarations:
    * `AnDbg.RegisterControl.gprPlace` and `fprPlace`
    * `AnDbg.DebuggerCore.WritesNumbers`
    * `AnDbg.DebuggerCore.writeRegisters_reads_back`
-/

------------------------------------------------------------
-- Reading Back
------------------------------------------------------------

namespace AnDbg

namespace RegisterControl

/- The place of the register that a name denotes. -/
def gprPlace (name : StdString) : Option RegisterPlace :=
  (getGprPointer (str2gpr name)).map RegisterPlace.general

def fprPlace (name : StdString) : Option RegisterPlace :=
  (getFprPointer (str2fpr name)).map RegisterPlace.floating

/- The register that is kept at a place. -/
def gprAt : GPRPointer → GPRegister
| .regs i => .x i
| .sp => .sp
| .pc => .pc
| .pstate => .pstate

def fprAt : FPRPointer → FPRegister
| .vregs i => .v i
| .fpcr => .fpcr
| .fpsr => .fpsr

theorem eq_gprAt
    {reg : GPRegister}
    {p : GPRPointer}
    (hPointer : getGprPointer reg = some p) :
    reg = gprAt p := by
  cases reg with
  | maxRegisters => cases hPointer
  | invalid => cases hPointer
  | _ =>
      cases hPointer
      rfl

theorem eq_fprAt
    {reg : FPRegister}
    {p : FPRPointer}
    (hPointer : getFprPointer reg = some p) :
    reg = fprAt p := by
  cases reg with
  | maxRegisters => cases hPointer
  | invalid => cases hPointer
  | _ =>
      cases hPointer
      rfl

/- Different names of the table denote different places. -/
theorem gprPlace_inj
    {name name' : StdString}
    {place : RegisterPlace}
    (hName : name ∈ gprNames)
    (hName' : name' ∈ gprNames)
    (hPlace : gprPlace name = some place)
    (hPlace' : gprPlace name' = some place) :
    name = name' := by
  have hNoNul : ∀ name ∈ gprNames, 0#8 ∉ name := by decide
  have hC := cStr_eq_self (hNoNul name hName)
  have hC' := cStr_eq_self (hNoNul name' hName')
  have hValid : str2gpr name ≠ .invalid := by
    rwa [ne_eq, str2gpr_eq_invalid_iff, not_not, hC]
  have hValid' : str2gpr name' ≠ .invalid := by
    rwa [ne_eq, str2gpr_eq_invalid_iff, not_not, hC']
  rcases Option.map_eq_some_iff.mp hPlace with
    ⟨p, hPointer, rfl⟩
  rcases Option.map_eq_some_iff.mp hPlace' with
    ⟨p', hPointer', hEq⟩
  cases hEq
  rw [← hC, ← hC', ← gpr2str_str2gpr hValid,
    ← gpr2str_str2gpr hValid',
    eq_gprAt hPointer, eq_gprAt hPointer']

theorem fprPlace_inj
    {name name' : StdString}
    {place : RegisterPlace}
    (hName : name ∈ fprNames)
    (hName' : name' ∈ fprNames)
    (hPlace : fprPlace name = some place)
    (hPlace' : fprPlace name' = some place) :
    name = name' := by
  have hNoNul : ∀ name ∈ fprNames, 0#8 ∉ name := by decide
  have hC := cStr_eq_self (hNoNul name hName)
  have hC' := cStr_eq_self (hNoNul name' hName')
  have hValid : str2fpr name ≠ .invalid := by
    rwa [ne_eq, str2fpr_eq_invalid_iff, not_not, hC]
  have hValid' : str2fpr name' ≠ .invalid := by
    rwa [ne_eq, str2fpr_eq_invalid_iff, not_not, hC']
  rcases Option.map_eq_some_iff.mp hPlace with
    ⟨p, hPointer, rfl⟩
  rcases Option.map_eq_some_iff.mp hPlace' with
    ⟨p', hPointer', hEq⟩
  cases hEq
  rw [← hC, ← hC', ← fpr2str_str2fpr hValid,
    ← fpr2str_str2fpr hValid',
    eq_fprAt hPointer, eq_fprAt hPointer']

end RegisterControl

namespace DebuggerCore

open RegisterControl Utils Assignments

/- A part that maps names of the table to numbers, or none. -/
structure NumbersFor
    (table : List StdString)
    (fields : Option (List (StdString × Json))) : Prop where
  once : ∀ list ∈ fields, (list.map Prod.fst).Nodup
  number :
    ∀ list ∈ fields, ∀ field ∈ list,
      field.1 ∈ table ∧
        ∃ s n, field.2 = .string s ∧ WritesHex s n

section Parts

variable {ρ : Type}
variable {entry : StdString → Json → Except Ending ρ}
variable {asWrite : ρ → Option (RegisterPlace × RegisterValue)}
variable {accepts : StdString → Prop}
variable {table : List StdString}
variable {place : StdString → Option RegisterPlace}
variable {fields : List (StdString × Json)}

/- A checked entry assigns to the place that it names. -/
def AssignsPlaces
    (entry : StdString → Json → Except Ending ρ)
    (asWrite : ρ → Option (RegisterPlace × RegisterValue))
    (place : StdString → Option RegisterPlace) : Prop :=
  ∀ {regName value target w},
    entry regName value = .ok target →
      asWrite target = some w → place regName = some w.1

/- Every assignment comes from an entry. -/
theorem exists_of_mem_leading
    {w : RegisterPlace × RegisterValue}
    (hMem : w ∈ (leading entry asWrite fields).1) :
    ∃ field ∈ fields, ∃ target,
      entry field.1 field.2 = .ok target ∧
        asWrite target = some w := by
  induction fields with
  | nil => cases hMem
  | cons field fields ih =>
      rcases field with ⟨regName, value⟩
      rw [leading] at hMem
      cases hEntry : entry regName value with
      | error ending =>
          rw [hEntry] at hMem
          cases hMem
      | ok target =>
          rw [hEntry] at hMem
          rcases List.mem_append.mp hMem with hHead | hTail
          · exact ⟨_, List.mem_cons_self, target, hEntry,
              Option.mem_toList.mp hHead⟩
          · rcases ih hTail with ⟨other, hOther, hTarget⟩
            exact ⟨other, List.mem_cons_of_mem _ hOther,
              hTarget⟩

/- In a part without a wrong entry each one is written. -/
theorem mem_leading_of_mem
    {field : StdString × Json}
    {target : ρ}
    {w : RegisterPlace × RegisterValue}
    (hFine : (leading entry asWrite fields).2 = none)
    (hField : field ∈ fields)
    (hEntry : entry field.1 field.2 = .ok target)
    (hWrite : asWrite target = some w) :
    w ∈ (leading entry asWrite fields).1 := by
  induction fields with
  | nil => cases hField
  | cons head fields ih =>
      rw [leading] at hFine ⊢
      cases hHead : entry head.1 head.2 with
      | error ending =>
          rw [hHead] at hFine
          cases hFine
      | ok found =>
          rw [hHead] at hFine
          cases hField with
          | head =>
              rw [hHead] at hEntry
              cases hEntry
              exact List.mem_append_left _
                (Option.mem_toList.mpr hWrite)
          | tail _ hField =>
              exact List.mem_append_right _ (ih hFine hField)

/- Entries of different names write to different places. -/
theorem nodup_leading
    (hAssigns : AssignsPlaces entry asWrite place)
    (hInj :
      ∀ {name name' p}, name ∈ table → name' ∈ table →
        place name = some p → place name' = some p →
          name = name')
    (hOnce : (fields.map Prod.fst).Nodup)
    (hNames : ∀ field ∈ fields, field.1 ∈ table) :
    ((leading entry asWrite fields).1.map Prod.fst).Nodup := by
  induction fields with
  | nil => exact List.nodup_nil
  | cons field fields ih =>
      rcases field with ⟨regName, value⟩
      rw [List.map_cons, List.nodup_cons] at hOnce
      rw [List.forall_mem_cons] at hNames
      rw [leading]
      cases hEntry : entry regName value with
      | error ending => exact List.nodup_nil
      | ok target =>
          have hRest := ih hOnce.2 hNames.2
          dsimp only
          cases hWrite : asWrite target with
          | none => exact hRest
          | some w =>
              rw [Option.toList_some, List.singleton_append,
                List.map_cons, List.nodup_cons]
              refine ⟨?_, hRest⟩
              intro hMem
              rcases List.mem_map.mp hMem with
                ⟨w', hw', hPlace⟩
              rcases exists_of_mem_leading hw' with
                ⟨other, hOther, found, hFound, hWrite'⟩
              have hHere := hAssigns hEntry hWrite
              have hThere := hAssigns hFound hWrite'
              rw [hPlace] at hThere
              have hSame := hInj hNames.1
                (hNames.2 other hOther) hHere hThere
              exact hOnce.1
                (hSame ▸ List.mem_map_of_mem hOther)

end Parts

theorem assignsPlaces_gpr :
    AssignsPlaces gprEntry gprWrite gprPlace := by
  intro regName value target w hOk hWrite
  rcases gprEntry_eq_ok_iff.mp hOk with
    ⟨-, s, n, -, -, rfl⟩
  rcases Option.map_eq_some_iff.mp hWrite with
    ⟨p, hPointer, rfl⟩
  exact Option.map_eq_some_iff.mpr ⟨p, hPointer, rfl⟩

theorem assignsPlaces_fpr :
    AssignsPlaces fprEntry fprWrite fprPlace := by
  intro regName value target w hOk hWrite
  rcases fprEntry_eq_ok_iff.mp hOk with
    ⟨-, s, n, -, -, rfl⟩
  rcases Option.map_eq_some_iff.mp hWrite with
    ⟨p, hPointer, rfl⟩
  exact Option.map_eq_some_iff.mpr ⟨p, hPointer, rfl⟩

section Parts

variable {ρ : Type}
variable {entry : StdString → Json → Except Ending ρ}
variable {asWrite : ρ → Option (RegisterPlace × RegisterValue)}
variable {accepts : StdString → Prop}
variable {table : List StdString}
variable {place : StdString → Option RegisterPlace}

/- The assignments of a part with nothing wrong in it. -/
structure Assigns
    (entry : StdString → Json → Except Ending ρ)
    (asWrite : ρ → Option (RegisterPlace × RegisterValue))
    (place : StdString → Option RegisterPlace)
    (fields : Option (List (StdString × Json)))
    (done :
      List (RegisterPlace × RegisterValue) × Option Wrong) :
    Prop where
  fine : done.2 = none
  nodup : (done.1.map Prod.fst).Nodup
  written :
    ∀ list ∈ fields, ∀ field ∈ list, ∀ {target w},
      entry field.1 field.2 = .ok target →
        asWrite target = some w → w ∈ done.1
  named :
    ∀ w ∈ done.1, ∃ list ∈ fields, ∃ field ∈ list,
      place field.1 = some w.1

theorem assigns_leadingPart
    (hChecks : ChecksFormat entry accepts)
    (hAssigns : AssignsPlaces entry asWrite place)
    (hInj :
      ∀ {name name' p}, name ∈ table → name' ∈ table →
        place name = some p → place name' = some p →
          name = name')
    (hAccepts : ∀ name ∈ table, accepts name)
    {part : String}
    {jsonData : Json}
    {fields : Option (List (StdString × Json))}
    (hField :
      jsonData.field (ascii part) = fields.map Json.object)
    (hNumbers : NumbersFor table fields) :
    Assigns entry asWrite place fields
      (leadingPart entry asWrite part jsonData) := by
  unfold leadingPart
  rw [hField]
  cases fields with
  | none =>
      constructor
      case fine => rfl
      case nodup => exact List.nodup_nil
      case written =>
        intro list hList
        cases hList
      case named =>
        intro w hw
        cases hw
  | some list =>
      have hFine :
          (leading entry asWrite list).2 = none := by
        rw [leading_none_iff hChecks]
        intro field hMem
        rcases hNumbers.number list rfl field hMem with
          ⟨hName, s, n, hValue, hWrites⟩
        exact ⟨hAccepts _ hName, s, n, hValue, hWrites⟩
      constructor
      case fine => exact hFine
      case nodup =>
        exact nodup_leading hAssigns hInj
          (hNumbers.once list rfl)
          (fun field hMem =>
            (hNumbers.number list rfl field hMem).1)
      case written =>
        intro other hOther field hMem target w hEntry hWrite
        cases hOther
        exact mem_leading_of_mem hFine hMem hEntry hWrite
      case named =>
        intro w hw
        rcases exists_of_mem_leading hw with
          ⟨field, hMem, target, hEntry, hWrite⟩
        exact ⟨list, rfl, field, hMem,
          hAssigns hEntry hWrite⟩

end Parts

theorem accepts_gprNames :
    ∀ name ∈ gprNames, str2gpr name ≠ .invalid := by
  intro name hName
  exact (((looksUp_gpr .cleared).mem_iff name).mp hName).1

theorem accepts_fprNames :
    ∀ name ∈ fprNames, str2fpr name ≠ .invalid := by
  intro name hName
  exact (((looksUp_fpr .cleared).mem_iff name).mp hName).1

/- Requests that write numbers to registers. -/
structure WritesNumbers
    (jsonData : Json)
    (gprs fprs : Option (List (StdString × Json))) : Prop where
  gprPart :
    jsonData.field (ascii "GPR") = gprs.map Json.object
  fprPart :
    jsonData.field (ascii "FPR") = fprs.map Json.object
  gprNumbers : NumbersFor gprNames gprs
  fprNumbers : NumbersFor fprNames fprs

variable {jsonData : Json}
variable {gprs fprs : Option (List (StdString × Json))}

theorem WritesNumbers.assignsGpr
    (hNumbers : WritesNumbers jsonData gprs fprs) :
    Assigns gprEntry gprWrite gprPlace gprs
      (leadingPart gprEntry gprWrite "GPR" jsonData) :=
  assigns_leadingPart checksFormat_gpr assignsPlaces_gpr
    gprPlace_inj accepts_gprNames hNumbers.gprPart
    hNumbers.gprNumbers

theorem WritesNumbers.assignsFpr
    (hNumbers : WritesNumbers jsonData gprs fprs) :
    Assigns fprEntry fprWrite fprPlace fprs
      (leadingPart fprEntry fprWrite "FPR" jsonData) :=
  assigns_leadingPart checksFormat_fpr assignsPlaces_fpr
    fprPlace_inj accepts_fprNames hNumbers.fprPart
    hNumbers.fprNumbers

theorem WritesNumbers.firstWrong_none
    (hNumbers : WritesNumbers jsonData gprs fprs) :
    firstWrong jsonData = none := by
  unfold firstWrong
  rw [hNumbers.assignsGpr.fine]
  exact hNumbers.assignsFpr.fine

theorem WritesNumbers.leadingWrites_eq
    (hNumbers : WritesNumbers jsonData gprs fprs) :
    leadingWrites jsonData =
      (leadingPart gprEntry gprWrite "GPR" jsonData).1 ++
        (leadingPart fprEntry fprWrite "FPR" jsonData).1 := by
  unfold leadingWrites
  dsimp only
  rw [hNumbers.assignsGpr.fine]

/- No place is assigned to twice. -/
theorem WritesNumbers.nodup
    (hNumbers : WritesNumbers jsonData gprs fprs) :
    ((leadingWrites jsonData).map Prod.fst).Nodup := by
  rw [hNumbers.leadingWrites_eq, List.map_append,
    List.nodup_append]
  refine ⟨hNumbers.assignsGpr.nodup, hNumbers.assignsFpr.nodup,
    ?_⟩
  intro p hp p' hp' hSame
  subst hSame
  rcases List.mem_map.mp hp with ⟨w, hw, hPlace⟩
  rcases List.mem_map.mp hp' with ⟨w', hw', hPlace'⟩
  rcases hNumbers.assignsGpr.named w hw with
    ⟨-, -, field, -, hGpr⟩
  rcases hNumbers.assignsFpr.named w' hw' with
    ⟨-, -, field', -, hFpr⟩
  rcases Option.map_eq_some_iff.mp hGpr with ⟨q, -, hq⟩
  rcases Option.map_eq_some_iff.mp hFpr with ⟨q', -, hq'⟩
  rw [hPlace, ← hPlace', ← hq'] at hq
  cases hq

/- The value that a general register has afterwards. -/
theorem WritesNumbers.gprField_eq
    (hNumbers : WritesNumbers jsonData gprs fprs)
    {before after : ThreadRegisters}
    (hAfter :
      after.value =
        applied (leadingWrites jsonData) before.value)
    {list : List (StdString × Json)}
    (hList : list ∈ gprs)
    {name s : StdString}
    {n : Nat}
    (hField : (name, Json.string s) ∈ list)
    (hWrites : WritesHex s n) :
    gprField after name = .string (hexText (n % 2 ^ 64)) := by
  have hName :=
    (hNumbers.gprNumbers.number list hList _ hField).1
  have hValid := accepts_gprNames name hName
  rcases exists_gprPointer hValid with ⟨p, hPointer⟩
  have hEntry :
      gprEntry name (.string s) =
        .ok (str2gpr name, BitVec.ofNat 64 n) :=
    gprEntry_eq_ok_iff.mpr ⟨hValid, s, n, rfl, hWrites, rfl⟩
  have hWrite :
      gprWrite (str2gpr name, BitVec.ofNat 64 n) =
        some (.general p, .general (BitVec.ofNat 64 n)) :=
    Option.map_eq_some_iff.mpr ⟨p, hPointer, rfl⟩
  have hMem :
      (RegisterPlace.general p,
          RegisterValue.general (BitVec.ofNat 64 n)) ∈
        leadingWrites jsonData := by
    rw [hNumbers.leadingWrites_eq]
    exact List.mem_append_left _ (hNumbers.assignsGpr.written
      list hList _ hField hEntry hWrite)
  have hValue := congrFun hAfter (.general p)
  rw [applied_apply, last_of_mem hNumbers.nodup hMem] at hValue
  unfold gprField
  rw [hPointer]
  dsimp only
  rw [RegisterValue.general.inj hValue, hexJson,
    numToHexStr_eq, BitVec.toNat_ofNat]

/- The width of a floating-point register. -/
def fprWidth (name : StdString) : Nat :=
  match str2fpr name with
  | .v _ => 128
  | _ => 32

theorem fprJson_fprNumber
    (name : StdString)
    (n : Nat) :
    fprJson (fprNumber (str2fpr name) n) =
      .string (hexText (n % 2 ^ fprWidth name)) := by
  unfold fprNumber fprWidth
  cases str2fpr name with
  | v i =>
      dsimp only [fprJson, hexJson]
      rw [numToHexStr_eq, BitVec.toNat_ofNat]
  | _ =>
      dsimp only [fprJson, hexJson]
      rw [numToHexStr_eq, BitVec.toNat_ofNat]

/- The value that a floating-point register has afterwards. -/
theorem WritesNumbers.fprField_eq
    (hNumbers : WritesNumbers jsonData gprs fprs)
    {before after : ThreadRegisters}
    (hAfter :
      after.value =
        applied (leadingWrites jsonData) before.value)
    {list : List (StdString × Json)}
    (hList : list ∈ fprs)
    {name s : StdString}
    {n : Nat}
    (hField : (name, Json.string s) ∈ list)
    (hWrites : WritesHex s n) :
    fprField after name =
      .string (hexText (n % 2 ^ fprWidth name)) := by
  have hName :=
    (hNumbers.fprNumbers.number list hList _ hField).1
  have hValid := accepts_fprNames name hName
  rcases exists_fprPointer hValid with ⟨p, hPointer⟩
  have hEntry :
      fprEntry name (.string s) =
        .ok (str2fpr name, fprNumber (str2fpr name) n) :=
    fprEntry_eq_ok_iff.mpr ⟨hValid, s, n, rfl, hWrites, rfl⟩
  have hWrite :
      fprWrite (str2fpr name, fprNumber (str2fpr name) n) =
        some (.floating p,
          .floating (fprNumber (str2fpr name) n)) :=
    Option.map_eq_some_iff.mpr ⟨p, hPointer, rfl⟩
  have hMem :
      (RegisterPlace.floating p,
          RegisterValue.floating
            (fprNumber (str2fpr name) n)) ∈
        leadingWrites jsonData := by
    rw [hNumbers.leadingWrites_eq]
    exact List.mem_append_right _ (hNumbers.assignsFpr.written
      list hList _ hField hEntry hWrite)
  have hValue := congrFun hAfter (.floating p)
  rw [applied_apply, last_of_mem hNumbers.nodup hMem] at hValue
  unfold fprField
  rw [hPointer]
  dsimp only
  rw [RegisterValue.floating.inj hValue, fprJson_fprNumber]

/- A place that no entry names keeps its value. -/
theorem WritesNumbers.value_of_not_named
    (hNumbers : WritesNumbers jsonData gprs fprs)
    {before after : ThreadRegisters}
    (hAfter :
      after.value =
        applied (leadingWrites jsonData) before.value)
    {place : RegisterPlace}
    (hGprs :
      ∀ list ∈ gprs, ∀ field ∈ list,
        gprPlace field.1 ≠ some place)
    (hFprs :
      ∀ list ∈ fprs, ∀ field ∈ list,
        fprPlace field.1 ≠ some place) :
    after.value place = before.value place := by
  have hNone :
      last place (leadingWrites jsonData) = none := by
    rw [last_eq_none_iff, hNumbers.leadingWrites_eq]
    intro hMem
    rcases List.mem_map.mp hMem with ⟨w, hw, rfl⟩
    rcases List.mem_append.mp hw with hGpr | hFpr
    · rcases hNumbers.assignsGpr.named w hGpr with
        ⟨list, hList, field, hField, hPlace⟩
      exact hGprs list hList field hField hPlace
    · rcases hNumbers.assignsFpr.named w hFpr with
        ⟨list, hList, field, hField, hPlace⟩
      exact hFprs list hList field hField hPlace
  rw [hAfter, applied_apply, hNone]
  rfl

/- The reply to a part shows the numbers that were written. -/
def ShowsNumbers
    (width : StdString → Nat)
    (fields : Option (List (StdString × Json)))
    (reply : Option Json) : Prop :=
  ∀ list ∈ fields, ∃ items,
    reply = some (.object items) ∧
      ∀ name s n, (name, Json.string s) ∈ list →
        WritesHex s n →
          items.lookup name =
            some (.string (hexText (n % 2 ^ width name)))

theorem showsNumbers_replyPart
    {field : StdString → Json}
    {width : StdString → Nat}
    {fields : Option (List (StdString × Json))}
    (hField :
      ∀ list ∈ fields, ∀ {name s n},
        (name, Json.string s) ∈ list → WritesHex s n →
          field name =
            .string (hexText (n % 2 ^ width name))) :
    ShowsNumbers width fields
      (replyPart field
        (fields.map fun list => list.map Prod.fst)) := by
  intro list hList
  cases hList
  refine ⟨_, rfl, ?_⟩
  intro name s n hMem hWrites
  rw [SortedMap.lookup_ofKeys,
    if_pos (List.mem_map_of_mem (f := Prod.fst) hMem),
    hField list rfl hMem hWrites]

variable {κ : Type}
variable [Regset κ]
variable {c : DebuggerCore}
variable {file : κ → ThreadRegisters}

/-
  For every register file, and all numbers for any of the
  registers: the request succeeds, reading the same names
  shows the numbers modulo the widths of the registers, and
  no other register is changed.
-/
theorem writeRegisters_reads_back
    (hStores : StoresRegisters c.currentTid file)
    (dump : Json → StdString)
    (hNumbers : WritesNumbers jsonData gprs fprs)
    {request : Json}
    (hGprs :
      request.field (ascii "GPR") =
        listedPart (gprs.map fun list => list.map Prod.fst))
    (hFprs :
      request.field (ascii "FPR") =
        listedPart (fprs.map fun list => list.map Prod.fst))
    (k : κ) :
    let written := writeRegisters jsonData c k
    let reply := readRegisters dump request .null c written.2
    EndsWell written.1 ∧
      reply.1.1.isSuccess = true ∧
      ShowsNumbers (fun _ => 64) gprs
        (reply.1.2.field (ascii "GPR")) ∧
      ShowsNumbers fprWidth fprs
        (reply.1.2.field (ascii "FPR")) ∧
      ∀ place,
        (∀ list ∈ gprs, ∀ field ∈ list,
          gprPlace field.1 ≠ some place) →
        (∀ list ∈ fprs, ∀ field ∈ list,
          fprPlace field.1 ≠ some place) →
        (file written.2).value place =
          (file k).value place := by
  intro written reply
  rcases writeRegisters_eq hStores jsonData k with
    ⟨⟨ending, hEnds, hEnding⟩, hFile⟩
  have hAsksGpr :
      Asks gprNames (fun name => str2gpr name ≠ .invalid)
        (request.field (ascii "GPR"))
        (gprs.map fun list => list.map Prod.fst) := by
    rw [hGprs]
    apply asks_listedPart
    intro names hNames name hName
    rcases Option.mem_map.mp hNames with ⟨list, hList, rfl⟩
    rcases List.mem_map.mp hName with ⟨field, hField, rfl⟩
    exact accepts_gprNames _
      (hNumbers.gprNumbers.number list hList field hField).1
  have hAsksFpr :
      Asks fprNames (fun name => str2fpr name ≠ .invalid)
        (request.field (ascii "FPR"))
        (fprs.map fun list => list.map Prod.fst) := by
    rw [hFprs]
    apply asks_listedPart
    intro names hNames name hName
    rcases Option.mem_map.mp hNames with ⟨list, hList, rfl⟩
    rcases List.mem_map.mp hName with ⟨field, hField, rfl⟩
    exact accepts_fprNames _
      (hNumbers.fprNumbers.number list hList field hField).1
  rcases readRegisters_reply hStores.toReadsRegisters dump
      hAsksGpr hAsksFpr written.2 with
    ⟨hSuccess, hGprReply, hFprReply, -⟩
  refine ⟨?_, hSuccess, ?_, ?_, ?_⟩
  · rw [hNumbers.firstWrong_none] at hEnds
    cases hEnds
    exact ⟨_, hEnding, rfl⟩
  · rw [hGprReply]
    exact showsNumbers_replyPart
      (fun list hList => hNumbers.gprField_eq hFile hList)
  · rw [hFprReply]
    exact showsNumbers_replyPart
      (fun list hList => hNumbers.fprField_eq hFile hList)
  · intro place hNotGpr hNotFpr
    exact hNumbers.value_of_not_named hFile hNotGpr hNotFpr

/- A general register and a status register are written. -/
theorem writeRegisters_reads_back_two :
    let gprs : List (StdString × Json) :=
      [(ascii "x1", .string (ascii "0xFf"))]
    let fprs : List (StdString × Json) :=
      [(ascii "fpsr", .string (ascii "10"))]
    let jsonData : Json :=
      .object
        [(ascii "FPR", .object fprs), (ascii "GPR", .object gprs)]
    let request : Json :=
      .object
        [(ascii "FPR", .array [.string (ascii "fpsr")]),
          (ascii "GPR", .array [.string (ascii "x1")])]
    let written :=
      writeRegisters jsonData init ThreadRegisters.cleared
    let reply :=
      readRegisters (fun _ => []) request .null init written.2
    EndsWell written.1 ∧
      reply.1.1.isSuccess = true ∧
      ShowsNumbers (fun _ => 64) (some gprs)
        (reply.1.2.field (ascii "GPR")) ∧
      ShowsNumbers fprWidth (some fprs)
        (reply.1.2.field (ascii "FPR")) ∧
      ∀ place,
        (∀ list ∈ some gprs, ∀ field ∈ list,
          gprPlace field.1 ≠ some place) →
        (∀ list ∈ some fprs, ∀ field ∈ list,
          fprPlace field.1 ≠ some place) →
        written.2.value place =
          ThreadRegisters.cleared.value place := by
  intro gprs fprs
  apply writeRegisters_reads_back
    (ThreadRegisters.storesRegisters init.currentTid)
    (fun _ => [])
  · constructor
    case gprPart => rfl
    case fprPart => rfl
    case gprNumbers =>
      constructor
      case once =>
        intro list hList
        cases hList
        decide
      case number =>
        intro list hList field hField
        cases hList
        cases List.mem_singleton.mp hField
        exact ⟨by decide, _, _, rfl,
          .intro (ascii "0x") (ascii "Ff") [15, 15]
            (by decide) (by decide) (by decide)⟩
    case fprNumbers =>
      constructor
      case once =>
        intro list hList
        cases hList
        decide
      case number =>
        intro list hList field hField
        cases hList
        cases List.mem_singleton.mp hField
        exact ⟨by decide, _, _, rfl,
          .intro [] (ascii "10") [1, 0]
            (by decide) (by decide) (by decide)⟩
  · rfl
  · rfl

end DebuggerCore

end AnDbg
