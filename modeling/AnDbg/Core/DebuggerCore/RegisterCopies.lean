import AnDbg.Base.HexCodec
import AnDbg.Core.DebuggerCore.RegisterRoundTrip

/-
  Writing what was read.

  Each register of a reply is a text that `write_registers`
  takes for the number it was made of, at the width of the
  register.  So a reply that is written assigns to every
  place that was asked for the value it had, whatever the
  names and however often they were asked for.

  Main declarations:
    * `AnDbg.DebuggerCore.askedPlaces`
    * `AnDbg.DebuggerCore.writeRegisters_of_reply`
    * `AnDbg.DebuggerCore.savedReply`
    * `AnDbg.DebuggerCore.readRegisters_eq_savedReply`
-/

------------------------------------------------------------
-- A Register That Is Shown
------------------------------------------------------------

namespace AnDbg

namespace DebuggerCore

open RegisterControl Utils

theorem hexJson_eq
    {w : Nat}
    (v : BitVec w) :
    hexJson v = .string (hexText v.toNat) := by
  unfold hexJson
  rw [numToHexStr_eq]

/- The text of a number is read as the number. -/
theorem numberOf_hexText
    {w : Nat}
    (v : BitVec w) :
    numberOf w (hexText v.toNat) = .ok v := by
  have hWrites : WritesHex (hexText v.toNat) v.toNat :=
    (hex_spec v.toNat).1.writesHex (.inr (.inl rfl))
  refine numberOf_eq_ok_iff.mpr ⟨v.toNat, hWrites, ?_⟩
  rw [BitVec.ofNat_toNat, BitVec.setWidth_eq]

theorem gprEntry_gprField
    {name : StdString}
    {p : GPRPointer}
    (hPointer : getGprPointer (str2gpr name) = some p)
    (file : ThreadRegisters) :
    gprEntry name (gprField file name) =
      .ok (str2gpr name, p.load file.gpr) := by
  have hValid : str2gpr name ≠ .invalid := by
    intro hInvalid
    rw [hInvalid] at hPointer
    cases hPointer
  unfold gprField
  rw [hPointer]
  dsimp only
  rw [hexJson_eq, gprEntry_string, numberOf_hexText]
  exact if_neg hValid

/- The width of a register decides how its text is read. -/
theorem fprEntry_fprField
    {name : StdString}
    {p : FPRPointer}
    (hPointer : getFprPointer (str2fpr name) = some p)
    (file : ThreadRegisters) :
    fprEntry name (fprField file name) =
      .ok (str2fpr name, p.load file.fpr) := by
  unfold fprField
  rw [hPointer]
  dsimp only
  cases hReg : str2fpr name with
  | invalid =>
      rw [hReg] at hPointer
      cases hPointer
  | maxRegisters =>
      rw [hReg] at hPointer
      cases hPointer
  | _ =>
      rw [hReg] at hPointer
      cases hPointer
      dsimp only [FPRPointer.load, fprJson]
      rw [hexJson_eq, fprEntry_string, hReg]
      dsimp only
      rw [numberOf_hexText]
      rfl

end DebuggerCore

end AnDbg

------------------------------------------------------------
-- Writing A Reply Back
------------------------------------------------------------

namespace AnDbg

namespace DebuggerCore

open RegisterControl SortedMap Assignments

/- The places of the registers that a request asks for. -/
def askedPlaces
    (gprs fprs : Option (List StdString)) :
    List RegisterPlace :=
  (gprs.getD []).filterMap gprPlace ++
    (fprs.getD []).filterMap fprPlace

/- Assign to each place the value that it had. -/
def copies
    (saved : ThreadRegisters)
    (places : List RegisterPlace) :
    List (RegisterPlace × RegisterValue) :=
  places.map fun place => (place, saved.value place)

theorem applied_copies
    (saved : ThreadRegisters)
    (places : List RegisterPlace)
    (f : RegisterPlace → RegisterValue)
    (place : RegisterPlace) :
    applied (copies saved places) f place =
      if place ∈ places then saved.value place
      else f place := by
  have hPlaces :
      (copies saved places).map Prod.fst = places := by
    unfold copies
    rw [List.map_map]
    exact List.map_id places
  rw [applied_of_copies (g := saved.value), hPlaces]
  intro write hWrite
  rcases List.mem_map.mp hWrite with ⟨other, -, rfl⟩
  rfl

section Parts

variable {ρ : Type}
variable {saved : ThreadRegisters}
variable {accepts : StdString → Prop}
variable {field : StdString → Json}
variable {entry : StdString → Json → Except Ending ρ}
variable {asWrite : ρ → Option (RegisterPlace × RegisterValue)}
variable {place : StdString → Option RegisterPlace}

/- What a reply shows of a name is assigned to its place. -/
def CopiesPlaces
    (saved : ThreadRegisters)
    (accepts : StdString → Prop)
    (field : StdString → Json)
    (entry : StdString → Json → Except Ending ρ)
    (asWrite : ρ → Option (RegisterPlace × RegisterValue))
    (place : StdString → Option RegisterPlace) : Prop :=
  ∀ name, accepts name →
    ∃ target p,
      entry name (field name) = .ok target ∧
        place name = some p ∧
        asWrite target = some (p, saved.value p)

theorem leading_of_copies
    (hCopies :
      CopiesPlaces saved accepts field entry asWrite place)
    {fields : List (StdString × Json)}
    (hFields :
      ∀ f ∈ fields, accepts f.1 ∧ f.2 = field f.1) :
    leading entry asWrite fields =
      (copies saved ((fields.map Prod.fst).filterMap place),
        none) := by
  induction fields with
  | nil => rfl
  | cons f fields ih =>
      rcases f with ⟨name, value⟩
      rcases hFields (name, value) List.mem_cons_self with
        ⟨hAccepts, hValue⟩
      rcases hCopies name hAccepts with
        ⟨target, p, hEntry, hPlace, hWrite⟩
      dsimp only at hValue
      rw [leading, hValue, hEntry]
      dsimp only
      rw [ih (fun other hOther =>
          hFields other (List.mem_cons_of_mem _ hOther)),
        hWrite, List.map_cons, List.filterMap_cons, hPlace]
      rfl

/-
  A part of a reply has nothing wrong, and amounts to copies
  for the names that were asked for.
-/
theorem leadingPart_of_copies
    (hCopies :
      CopiesPlaces saved accepts field entry asWrite place)
    {part : String}
    {jsonData : Json}
    {names : Option (List StdString)}
    (hAccepts : ∀ list ∈ names, ∀ name ∈ list, accepts name)
    (hField :
      jsonData.field (ascii part) = replyPart field names) :
    ∃ places,
      leadingPart entry asWrite part jsonData =
          (copies saved places, none) ∧
        ∀ p, p ∈ places ↔
          p ∈ (names.getD []).filterMap place := by
  unfold leadingPart
  rw [hField]
  cases names with
  | none => exact ⟨[], rfl, fun _ => Iff.rfl⟩
  | some names =>
      refine ⟨_, leading_of_copies hCopies ?_, ?_⟩
      · intro f hf
        rcases mem_ofKeys hf with ⟨hName, hValue⟩
        exact ⟨hAccepts names rfl f.1 hName, hValue⟩
      · intro p
        rw [List.mem_filterMap, List.mem_filterMap]
        simp only [mem_keys_ofKeys, Option.getD_some]

end Parts

theorem copiesPlaces_gpr
    (saved : ThreadRegisters) :
    CopiesPlaces saved (fun name => str2gpr name ≠ .invalid)
      (gprField saved) gprEntry gprWrite gprPlace := by
  intro name hValid
  rcases exists_gprPointer hValid with ⟨p, hPointer⟩
  refine ⟨_, .general p, gprEntry_gprField hPointer saved,
    ?_, ?_⟩
  · unfold gprPlace
    rw [hPointer]
    rfl
  · unfold gprWrite
    rw [hPointer]
    rfl

theorem copiesPlaces_fpr
    (saved : ThreadRegisters) :
    CopiesPlaces saved (fun name => str2fpr name ≠ .invalid)
      (fprField saved) fprEntry fprWrite fprPlace := by
  intro name hValid
  rcases exists_fprPointer hValid with ⟨p, hPointer⟩
  refine ⟨_, .floating p, fprEntry_fprField hPointer saved,
    ?_, ?_⟩
  · unfold fprPlace
    rw [hPointer]
    rfl
  · unfold fprWrite
    rw [hPointer]
    rfl

variable {κ : Type}
variable [Regset κ]
variable {c : DebuggerCore}
variable {file : κ → ThreadRegisters}
variable {saved : ThreadRegisters}
variable {gprs fprs : Option (List StdString)}

/- A reply that is written gives its registers their values. -/
theorem writeRegisters_of_reply
    (hStores : StoresRegisters c.currentTid file)
    {jsonData : Json}
    (hGprs :
      ∀ names ∈ gprs, ∀ name ∈ names, str2gpr name ≠ .invalid)
    (hFprs :
      ∀ names ∈ fprs, ∀ name ∈ names, str2fpr name ≠ .invalid)
    (hGprPart :
      jsonData.field (ascii "GPR") =
        replyPart (gprField saved) gprs)
    (hFprPart :
      jsonData.field (ascii "FPR") =
        replyPart (fprField saved) fprs)
    (k : κ) :
    let done := writeRegisters jsonData c k
    EndsWell done.1 ∧
      ∀ place,
        (file done.2).value place =
          if place ∈ askedPlaces gprs fprs then
            saved.value place
          else (file k).value place := by
  rcases leadingPart_of_copies (copiesPlaces_gpr saved) hGprs
      hGprPart with ⟨general, hGpr, hGeneral⟩
  rcases leadingPart_of_copies (copiesPlaces_fpr saved) hFprs
      hFprPart with ⟨floating, hFpr, hFloating⟩
  rcases writeRegisters_eq hStores jsonData k with
    ⟨⟨ending, hEnds, hEnding⟩, hFile⟩
  have hWrong : firstWrong jsonData = none := by
    unfold firstWrong
    rw [hGpr, hFpr]
  have hWrites :
      leadingWrites jsonData =
        copies saved (general ++ floating) := by
    unfold leadingWrites copies
    rw [hGpr, hFpr, List.map_append]
    rfl
  have hAsked (place : RegisterPlace) :
      place ∈ general ++ floating ↔
        place ∈ askedPlaces gprs fprs := by
    unfold askedPlaces
    rw [List.mem_append, List.mem_append, hGeneral, hFloating]
  constructor
  · rw [hWrong] at hEnds
    cases hEnds
    exact ⟨_, hEnding, rfl⟩
  · intro place
    rw [hFile, hWrites, applied_copies]
    simp only [hAsked]

end DebuggerCore

end AnDbg

------------------------------------------------------------
-- Reading Again
------------------------------------------------------------

namespace AnDbg

namespace DebuggerCore

open RegisterControl SortedMap

/- The result of a request for the names. -/
def savedReply
    (saved : ThreadRegisters)
    (gprs fprs : Option (List StdString)) : Json :=
  addPart "FPR" (replyPart (fprField saved) fprs)
    (addPart "GPR" (replyPart (gprField saved) gprs) .null)

theorem Asks.accepts
    {table : List StdString}
    {accepts : StdString → Prop}
    {part : Option Json}
    {names : Option (List StdString)}
    (hAsks : Asks table accepts part names)
    (hTable : ∀ name ∈ table, accepts name) :
    ∀ list ∈ names, ∀ name ∈ list, accepts name := by
  cases hAsks with
  | nothing =>
      intro list hList
      cases hList
  | all =>
      intro list hList
      cases hList
      exact hTable
  | names names hAccepts =>
      intro list hList
      cases hList
      exact hAccepts

variable {κ : Type}
variable [Regset κ]
variable {c : DebuggerCore}
variable {file : κ → ThreadRegisters}
variable {request : Json}
variable {gprs fprs : Option (List StdString)}

theorem readRegisters_eq_savedReply
    (hReads : ReadsRegisters c.currentTid file)
    (dump : Json → StdString)
    (hGprs :
      Asks gprNames (fun name => str2gpr name ≠ .invalid)
        (request.field (ascii "GPR")) gprs)
    (hFprs :
      Asks fprNames (fun name => str2fpr name ≠ .invalid)
        (request.field (ascii "FPR")) fprs)
    (k : κ) :
    (readRegisters dump request .null c k).1 =
      (.successText (utf8 "read_registers 成功"),
        savedReply (file k) gprs fprs) := by
  have hGpr :=
    readInto_eq (readsFields_gpr hReads) dump hGprs .null k
  unfold readRegisters
  generalize readInto dump (readAllGpr c.currentTid)
    (readGpr c.currentTid) "GPR" request .null k = first
    at hGpr
  rcases first with ⟨ending, result₁, k₁⟩
  rcases hGpr with ⟨rfl, hResult₁, hFile₁⟩
  have hFpr :=
    readInto_eq (readsFields_fpr hReads) dump hFprs result₁ k₁
  dsimp only
  generalize readInto dump (readAllFpr c.currentTid)
    (readFpr c.currentTid) "FPR" request result₁ k₁ = second
    at hFpr
  rcases second with ⟨ending, result₂, k₂⟩
  rcases hFpr with ⟨rfl, hResult₂, -⟩
  dsimp only at hResult₁ hFile₁ hResult₂ ⊢
  rw [hResult₂, hResult₁, hFile₁]
  rfl

/- A field shows the value of its place, and no other. -/
theorem gprField_congr
    {file file' : ThreadRegisters}
    {name : StdString}
    (hSame :
      ∀ place, gprPlace name = some place →
        file.value place = file'.value place) :
    gprField file name = gprField file' name := by
  unfold gprField
  cases hPointer : getGprPointer (str2gpr name) with
  | none => rfl
  | some p =>
      have hPlace : gprPlace name = some (.general p) := by
        unfold gprPlace
        rw [hPointer]
        rfl
      dsimp only
      rw [RegisterValue.general.inj (hSame _ hPlace)]

theorem fprField_congr
    {file file' : ThreadRegisters}
    {name : StdString}
    (hSame :
      ∀ place, fprPlace name = some place →
        file.value place = file'.value place) :
    fprField file name = fprField file' name := by
  unfold fprField
  cases hPointer : getFprPointer (str2fpr name) with
  | none => rfl
  | some p =>
      have hPlace : fprPlace name = some (.floating p) := by
        unfold fprPlace
        rw [hPointer]
        rfl
      dsimp only
      rw [RegisterValue.floating.inj (hSame _ hPlace)]

theorem replyPart_congr
    {field field' : StdString → Json}
    {names : Option (List StdString)}
    (hSame :
      ∀ name ∈ names.getD [], field name = field' name) :
    replyPart field names = replyPart field' names := by
  cases names with
  | none => rfl
  | some names =>
      rw [Option.getD_some] at hSame
      unfold replyPart
      rw [Option.map_some, Option.map_some,
        ofKeys_congr hSame]

/- The reply depends on the places that are asked for. -/
theorem savedReply_congr
    {saved saved' : ThreadRegisters}
    (hSame :
      ∀ place ∈ askedPlaces gprs fprs,
        saved.value place = saved'.value place) :
    savedReply saved gprs fprs = savedReply saved' gprs fprs := by
  unfold askedPlaces at hSame
  have hGpr :
      replyPart (gprField saved) gprs =
        replyPart (gprField saved') gprs := by
    apply replyPart_congr
    intro name hName
    apply gprField_congr
    intro place hPlace
    exact hSame place (List.mem_append_left _
      (List.mem_filterMap.mpr ⟨name, hName, hPlace⟩))
  have hFpr :
      replyPart (fprField saved) fprs =
        replyPart (fprField saved') fprs := by
    apply replyPart_congr
    intro name hName
    apply fprField_congr
    intro place hPlace
    exact hSame place (List.mem_append_right _
      (List.mem_filterMap.mpr ⟨name, hName, hPlace⟩))
  unfold savedReply
  rw [hGpr, hFpr]

/- Every place is the place of a name. -/
theorem exists_gprName
    (p : GPRPointer) :
    ∃ name ∈ gprNames, gprPlace name = some (.general p) := by
  have hIndex :
      ∃ i < 34, getGprPointer (GPRegister.ofNat i) = some p := by
    cases p with
    | regs j =>
        have hAll :
            ∀ j : Fin 31,
              getGprPointer (GPRegister.ofNat j) =
                some (.regs j) := by
          decide
        exact ⟨j, by omega, hAll j⟩
    | sp => exact ⟨31, by decide, rfl⟩
    | pc => exact ⟨32, by decide, rfl⟩
    | pstate => exact ⟨33, by decide, rfl⟩
  rcases hIndex with ⟨i, hi, hPointer⟩
  refine ⟨gpr2str (GPRegister.ofNat i), ?_, ?_⟩
  · rw [← map_gpr2str]
    exact List.mem_map_of_mem (List.mem_range.mpr hi)
  · unfold gprPlace
    rw [str2gpr_gpr2str hi, hPointer]
    rfl

theorem exists_fprName
    (p : FPRPointer) :
    ∃ name ∈ fprNames, fprPlace name = some (.floating p) := by
  have hIndex :
      ∃ i < 34, getFprPointer (FPRegister.ofNat i) = some p := by
    cases p with
    | vregs j =>
        have hAll :
            ∀ j : Fin 32,
              getFprPointer (FPRegister.ofNat j) =
                some (.vregs j) := by
          decide
        exact ⟨j, by omega, hAll j⟩
    | fpcr => exact ⟨33, by decide, rfl⟩
    | fpsr => exact ⟨32, by decide, rfl⟩
  rcases hIndex with ⟨i, hi, hPointer⟩
  refine ⟨fpr2str (FPRegister.ofNat i), ?_, ?_⟩
  · rw [← map_fpr2str]
    exact List.mem_map_of_mem (List.mem_range.mpr hi)
  · unfold fprPlace
    rw [str2fpr_fpr2str hi, hPointer]
    rfl

/- To ask for all registers is to ask for every place. -/
theorem mem_askedPlaces_all
    (place : RegisterPlace) :
    place ∈ askedPlaces (some gprNames) (some fprNames) := by
  unfold askedPlaces
  rw [Option.getD_some, Option.getD_some, List.mem_append,
    List.mem_filterMap, List.mem_filterMap]
  cases place with
  | general p => exact .inl (exists_gprName p)
  | floating p => exact .inr (exists_fprName p)

end DebuggerCore

end AnDbg
