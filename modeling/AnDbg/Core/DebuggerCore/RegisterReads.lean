import AnDbg.Base.HexText
import AnDbg.Core.DebuggerCore.Registers
import AnDbg.Core.ThreadRegisters

/-
  What reading registers by name returns.

  The fields of a reply are those of a map from names to
  texts, whether the registers are enumerated or asked for
  one by one: both ways end in the same place of the same
  register set, and print it at its own width.

  Main declarations:
    * `AnDbg.DebuggerCore.gprField` and `fprField`
    * `AnDbg.DebuggerCore.readPart_names`
    * `AnDbg.DebuggerCore.readPart_all`
    * `AnDbg.DebuggerCore.readRegisters_reply`
    * `AnDbg.DebuggerCore.readRegisters_named_of_all`
-/

------------------------------------------------------------
-- Names Of The Registers
------------------------------------------------------------

namespace AnDbg

namespace RegisterControl

/- The names in the order of the registers. -/
theorem map_gpr2str :
    (List.range 34).map
        (fun i => gpr2str (GPRegister.ofNat i)) =
      gprNames := by
  decide

theorem map_fpr2str :
    (List.range 34).map
        (fun i => fpr2str (FPRegister.ofNat i)) =
      fprNames := by
  decide

theorem str2gpr_gpr2str
    {i : Nat}
    (hi : i < 34) :
    str2gpr (gpr2str (GPRegister.ofNat i)) =
      GPRegister.ofNat i := by
  have hAll :
      ∀ i < 34, str2gpr (gpr2str (GPRegister.ofNat i)) =
        GPRegister.ofNat i := by
    decide
  exact hAll i hi

theorem str2fpr_fpr2str
    {i : Nat}
    (hi : i < 34) :
    str2fpr (fpr2str (FPRegister.ofNat i)) =
      FPRegister.ofNat i := by
  have hAll :
      ∀ i < 34, str2fpr (fpr2str (FPRegister.ofNat i)) =
        FPRegister.ofNat i := by
    decide
  exact hAll i hi

/- A register that is found has a place in its set. -/
theorem exists_gprPointer
    {name : StdString}
    (hValid : str2gpr name ≠ .invalid) :
    ∃ p, getGprPointer (str2gpr name) = some p := by
  unfold str2gpr at hValid ⊢
  split at hValid
  next i hIndex =>
    rcases getD_of_idxOf? [] hIndex with ⟨-, hLt, -⟩
    have hAll :
        ∀ i < 34,
          (getGprPointer (GPRegister.ofNat i)).isSome = true := by
      decide
    exact Option.isSome_iff_exists.mp (hAll i hLt)
  next => exact absurd rfl hValid

theorem exists_fprPointer
    {name : StdString}
    (hValid : str2fpr name ≠ .invalid) :
    ∃ p, getFprPointer (str2fpr name) = some p := by
  unfold str2fpr at hValid ⊢
  split at hValid
  next i hIndex =>
    rcases getD_of_idxOf? [] hIndex with ⟨-, hLt, -⟩
    have hAll :
        ∀ i < 34,
          (getFprPointer (FPRegister.ofNat i)).isSome = true := by
      decide
    exact Option.isSome_iff_exists.mp (hAll i hLt)
  next => exact absurd rfl hValid

end RegisterControl

end AnDbg

------------------------------------------------------------
-- The Fields Of A Reply
------------------------------------------------------------

namespace AnDbg

namespace DebuggerCore

open RegisterControl SortedMap

/- The value of a general register as a reply shows it. -/
def gprField (file : ThreadRegisters) (name : StdString) : Json :=
  match getGprPointer (str2gpr name) with
  | some pointer => hexJson (pointer.load file.gpr)
  | none => .null

/- The value of a floating-point register. -/
def fprField (file : ThreadRegisters) (name : StdString) : Json :=
  match getFprPointer (str2fpr name) with
  | some pointer => fprJson (pointer.load file.fpr)
  | none => .null

/- Enumerating a structure fills the map of its registers. -/
theorem allFields_eq
    {ρ : Type}
    {ofNat : Nat → ρ}
    {str : ρ → StdString}
    {load : ρ → Option Json}
    {value : StdString → Json}
    {indices : List Nat}
    (hLoad :
      ∀ i ∈ indices,
        load (ofNat i) = some (value (str (ofNat i)))) :
    allFields ofNat str load indices =
      .ok (ofKeys value (indices.map fun i => str (ofNat i))
        []) := by
  unfold allFields
  generalize ([] : List (StdString × Json)) = result
  induction indices generalizing result with
  | nil => rfl
  | cons i indices ih =>
      rw [List.foldlM_cons]
      dsimp only
      rw [hLoad i List.mem_cons_self]
      dsimp only
      rw [Json.setField_eq_insert]
      exact ih
        (fun j hj => hLoad j (List.mem_cons_of_mem i hj)) _

variable {κ : Type}
variable [Regset κ]
variable {tid : Pid} {file : κ → ThreadRegisters}

omit [Regset κ] in
/- Asking for names one by one fills the map of the names. -/
theorem namedFields_eq
    {read : StdString → κ → Except Status Json × κ}
    {value : ThreadRegisters → StdString → Json}
    {names : List StdString}
    (hRead :
      ∀ name ∈ names, ∀ k,
        (read name k).1 = .ok (value (file k) name) ∧
          file (read name k).2 = file k)
    (dump : Json → StdString)
    (result : List (StdString × Json))
    (k : κ) :
    let done :=
      namedFields dump read (names.map Json.string) result k
    done.1 = .ok (ofKeys (value (file k)) names result) ∧
      file done.2 = file k := by
  induction names generalizing result k with
  | nil => exact ⟨rfl, rfl⟩
  | cons name names ih =>
      rcases hRead name List.mem_cons_self k with
        ⟨hValue, hFile⟩
      rw [List.map_cons, namedFields]
      generalize read name k = answer at hValue hFile
      rcases answer with ⟨found, k'⟩
      cases hValue
      dsimp only at hFile ⊢
      rcases ih
          (fun other hOther =>
            hRead other (List.mem_cons_of_mem name hOther))
          (Json.setField name (value (file k) name) result) k'
        with ⟨hFields, hKept⟩
      rw [hFile] at hFields hKept
      rw [Json.setField_eq_insert] at hFields hKept ⊢
      exact ⟨hFields, hKept⟩

theorem readGpr_eq
    (hReads : ReadsRegisters tid file)
    {name : StdString}
    (hValid : str2gpr name ≠ .invalid)
    (k : κ) :
    (readGpr tid name k).1 = .ok (gprField (file k) name) ∧
      file (readGpr tid name k).2 = file k := by
  rcases exists_gprPointer hValid with ⟨p, hPointer⟩
  rcases hReads.getGpr (str2gpr name) k with ⟨hGet, hFile⟩
  unfold readGpr gprField
  dsimp only
  rw [if_neg hValid]
  generalize getGpr tid (str2gpr name) k = answer
    at hGet hFile
  rcases answer with ⟨found, k'⟩
  rw [hPointer] at hGet ⊢
  cases hGet
  exact ⟨rfl, hFile⟩

theorem readFpr_eq
    (hReads : ReadsRegisters tid file)
    {name : StdString}
    (hValid : str2fpr name ≠ .invalid)
    (k : κ) :
    (readFpr tid name k).1 = .ok (fprField (file k) name) ∧
      file (readFpr tid name k).2 = file k := by
  rcases exists_fprPointer hValid with ⟨p, hPointer⟩
  rcases hReads.getFpr (str2fpr name) k with ⟨hGet, hFile⟩
  unfold readFpr fprField
  dsimp only
  rw [if_neg hValid]
  generalize getFpr tid (str2fpr name) k = answer
    at hGet hFile
  rcases answer with ⟨found, k'⟩
  rw [hPointer] at hGet ⊢
  cases hGet
  exact ⟨rfl, hFile⟩

theorem readAllGpr_eq
    (hReads : ReadsRegisters tid file)
    (k : κ) :
    (readAllGpr tid k).1 =
        .ok (ofKeys (gprField (file k)) gprNames []) ∧
      file (readAllGpr tid k).2 = file k := by
  unfold readAllGpr
  rcases hAll : getAllGpr tid k with ⟨found, k'⟩
  rcases hReads.getAllGpr hAll with ⟨rfl, hFile⟩
  refine ⟨?_, hFile⟩
  dsimp only
  rw [← map_gpr2str]
  apply allFields_eq
  intro i hi
  have hLt : i < 34 := List.mem_range.mp hi
  have hValid :
      str2gpr (gpr2str (GPRegister.ofNat i)) ≠ .invalid := by
    rw [str2gpr_gpr2str hLt]
    exact (GPRegister.toNat_ofNat hLt).2
  rcases exists_gprPointer hValid with ⟨p, hPointer⟩
  unfold gprField
  rw [hPointer]
  rw [str2gpr_gpr2str hLt] at hPointer
  rw [hPointer]
  rfl

theorem readAllFpr_eq
    (hReads : ReadsRegisters tid file)
    (k : κ) :
    (readAllFpr tid k).1 =
        .ok (ofKeys (fprField (file k)) fprNames []) ∧
      file (readAllFpr tid k).2 = file k := by
  unfold readAllFpr
  rcases hAll : getAllFpr tid k with ⟨found, k'⟩
  rcases hReads.getAllFpr hAll with ⟨rfl, hFile⟩
  refine ⟨?_, hFile⟩
  dsimp only
  rw [← map_fpr2str]
  apply allFields_eq
  intro i hi
  have hLt : i < 34 := List.mem_range.mp hi
  have hValid :
      str2fpr (fpr2str (FPRegister.ofNat i)) ≠ .invalid := by
    rw [str2fpr_fpr2str hLt]
    exact (FPRegister.toNat_ofNat hLt).2
  rcases exists_fprPointer hValid with ⟨p, hPointer⟩
  unfold fprField
  rw [hPointer]
  rw [str2fpr_fpr2str hLt] at hPointer
  rw [hPointer]
  rfl

end DebuggerCore

end AnDbg

------------------------------------------------------------
-- Replies
------------------------------------------------------------

namespace AnDbg

namespace DebuggerCore

open RegisterControl SortedMap

/- A part of a request, and the names that it stands for. -/
inductive Asks
    (table : List StdString)
    (accepts : StdString → Prop) :
    Option Json → Option (List StdString) → Prop
  | nothing : Asks table accepts none none
  | all :
      Asks table accepts (some (.string (ascii "all")))
        (some table)
  | names
      (names : List StdString)
      (hAccepts : ∀ name ∈ names, accepts name) :
      Asks table accepts (some (.array (names.map Json.string)))
        (some names)

/- The reply to a part. -/
def replyPart
    (field : StdString → Json)
    (names : Option (List StdString)) : Option Json :=
  names.map fun names => .object (ofKeys field names [])

/- A result to which the reply to a part was added. -/
def addPart
    (part : String)
    (reply : Option Json)
    (result : Json) : Json :=
  match reply with
  | none => result
  | some reply => Json.set (ascii part) reply result

/- A result starts as null and is then an object. -/
def IsResult (result : Json) : Prop :=
  result = .null ∨ ∃ fields, result = .object fields

theorem isResult_addPart
    {result : Json}
    (hResult : IsResult result)
    (part : String)
    (reply : Option Json) :
    IsResult (addPart part reply result) := by
  cases reply with
  | none => exact hResult
  | some reply => exact .inr ⟨_, Json.set_eq_object hResult _ _⟩

theorem field_addPart_of_ne
    {result : Json}
    {part : String}
    {key : StdString}
    (hResult : IsResult result)
    (hNe : key ≠ ascii part)
    (field : StdString → Json)
    (names : Option (List StdString)) :
    (addPart part (replyPart field names) result).field key =
      result.field key := by
  cases names with
  | none => rfl
  | some names =>
      exact (Json.field_set_object hResult _ _ _).trans
        (if_neg hNe)

theorem field_addPart_self
    {result : Json}
    {part : String}
    (hResult : IsResult result)
    (hAbsent : result.field (ascii part) = none)
    (field : StdString → Json)
    (names : Option (List StdString)) :
    (addPart part (replyPart field names) result).field
        (ascii part) =
      replyPart field names := by
  cases names with
  | none => exact hAbsent
  | some names =>
      exact (Json.field_set_object hResult _ _ _).trans
        (if_pos rfl)

variable {κ : Type}

/- What a way to read the registers of a class has to do. -/
structure ReadsFields
    (file : κ → ThreadRegisters)
    (field : ThreadRegisters → StdString → Json)
    (table : List StdString)
    (accepts : StdString → Prop)
    (readAll : κ → Fields × κ)
    (read : StdString → κ → Except Status Json × κ) :
    Prop where
  all :
    ∀ k,
      (readAll k).1 = .ok (ofKeys (field (file k)) table []) ∧
        file (readAll k).2 = file k
  named :
    ∀ name, accepts name → ∀ k,
      (read name k).1 = .ok (field (file k) name) ∧
        file (read name k).2 = file k

variable {file : κ → ThreadRegisters}
variable {field : ThreadRegisters → StdString → Json}
variable {table : List StdString}
variable {accepts : StdString → Prop}
variable {readAll : κ → Fields × κ}
variable {read : StdString → κ → Except Status Json × κ}

/- A part adds the map of its names to the result. -/
theorem readInto_eq
    (hFields : ReadsFields file field table accepts readAll read)
    (dump : Json → StdString)
    {part : String}
    {jsonData : Json}
    {names : Option (List StdString)}
    (hAsks :
      Asks table accepts (jsonData.field (ascii part)) names)
    (result : Json)
    (k : κ) :
    let done :=
      readInto dump readAll read part jsonData result k
    done.1 = none ∧
      done.2.1 =
        addPart part (replyPart (field (file k)) names)
          result ∧
      file done.2.2 = file k := by
  unfold readInto
  generalize jsonData.field (ascii part) = request at hAsks
  cases hAsks with
  | nothing => exact ⟨rfl, rfl, rfl⟩
  | all =>
      rcases hFields.all k with ⟨hAll, hFile⟩
      dsimp only [readPart]
      rw [if_pos rfl]
      generalize readAll k = answer at hAll hFile
      rcases answer with ⟨found, k'⟩
      cases hAll
      exact ⟨rfl, rfl, hFile⟩
  | names names hAccepts =>
      rcases namedFields_eq
          (fun name hName =>
            hFields.named name (hAccepts name hName)) dump [] k
        with ⟨hNamed, hFile⟩
      dsimp only [readPart]
      generalize namedFields dump read (names.map Json.string)
        [] k = answer at hNamed hFile
      rcases answer with ⟨found, k'⟩
      cases hNamed
      exact ⟨rfl, rfl, hFile⟩

variable [Regset κ]
variable {c : DebuggerCore}

theorem readsFields_gpr
    (hReads : ReadsRegisters c.currentTid file) :
    ReadsFields file gprField gprNames
      (fun name => str2gpr name ≠ .invalid)
      (readAllGpr c.currentTid) (readGpr c.currentTid) where
  all k := readAllGpr_eq hReads k
  named _ hValid k := readGpr_eq hReads hValid k

theorem readsFields_fpr
    (hReads : ReadsRegisters c.currentTid file) :
    ReadsFields file fprField fprNames
      (fun name => str2fpr name ≠ .invalid)
      (readAllFpr c.currentTid) (readFpr c.currentTid) where
  all k := readAllFpr_eq hReads k
  named _ hValid k := readFpr_eq hReads hValid k

/- A request for accepted names is answered with their map. -/
theorem readRegisters_reply
    (hReads : ReadsRegisters c.currentTid file)
    (dump : Json → StdString)
    {request : Json}
    {gprs fprs : Option (List StdString)}
    (hGprs :
      Asks gprNames (fun name => str2gpr name ≠ .invalid)
        (request.field (ascii "GPR")) gprs)
    (hFprs :
      Asks fprNames (fun name => str2fpr name ≠ .invalid)
        (request.field (ascii "FPR")) fprs)
    (k : κ) :
    let done := readRegisters dump request .null c k
    done.1.1.isSuccess = true ∧
      done.1.2.field (ascii "GPR") =
        replyPart (gprField (file k)) gprs ∧
      done.1.2.field (ascii "FPR") =
        replyPart (fprField (file k)) fprs ∧
      file done.2 = file k := by
  have hGpr :=
    readInto_eq (readsFields_gpr hReads) dump hGprs .null k
  unfold readRegisters
  generalize readInto dump (readAllGpr c.currentTid)
    (readGpr c.currentTid) "GPR" request .null k = first
    at hGpr
  rcases first with ⟨ending, result₁, k₁⟩
  rcases hGpr with ⟨rfl, hResult₁, hFile₁⟩
  have hFpr :=
    readInto_eq (readsFields_fpr hReads) dump hFprs result₁ k₁
  dsimp only
  generalize readInto dump (readAllFpr c.currentTid)
    (readFpr c.currentTid) "FPR" request result₁ k₁ = second
    at hFpr
  rcases second with ⟨ending, result₂, k₂⟩
  rcases hFpr with ⟨rfl, hResult₂, hFile₂⟩
  dsimp only at hResult₁ hFile₁ hResult₂ hFile₂ ⊢
  rw [hFile₁] at hResult₂ hFile₂
  have hNull : IsResult .null := .inl rfl
  have hIs : IsResult result₁ := by
    rw [hResult₁]
    exact isResult_addPart hNull _ _
  have hFprAbsent : result₁.field (ascii "FPR") = none := by
    rw [hResult₁]
    exact field_addPart_of_ne hNull (by decide) _ _
  refine ⟨rfl, ?_, ?_, hFile₂⟩
  · calc
      result₂.field (ascii "GPR")
          = result₁.field (ascii "GPR") := by
            rw [hResult₂]
            exact field_addPart_of_ne hIs (by decide) _ _
      _ = replyPart (gprField (file k)) gprs := by
            rw [hResult₁]
            exact field_addPart_self hNull rfl _ _
  · rw [hResult₂]
    exact field_addPart_self hIs hFprAbsent _ _

end DebuggerCore

end AnDbg

------------------------------------------------------------
-- Named Reads And The Bulk Read
------------------------------------------------------------

namespace AnDbg

namespace DebuggerCore

open RegisterControl SortedMap

/-
  The object for a list of names against the one for all.
  A name is a C string; what follows a zero byte in a string
  of the request is not looked at.
-/
structure NamedOfAll
    (accepts : StdString → Prop)
    (names : List StdString)
    (named all : List (StdString × Json)) : Prop where
  once : (all.map Prod.fst).Nodup
  entries :
    ∀ name,
      name ∈ all.map Prod.fst ↔ accepts name ∧ 0#8 ∉ name
  restricts :
    (∀ name ∈ names, 0#8 ∉ name) →
      named =
        all.filter fun entry => decide (entry.1 ∈ names)
  values :
    ∀ name,
      named.lookup name =
        if name ∈ names then all.lookup (cStr name) else none

/- The two objects in the replies to a part. -/
inductive PartsAgree
    (accepts : StdString → Prop) :
    Option (List StdString) → Option Json → Option Json → Prop
  | nothing : PartsAgree accepts none none none
  | listed
      {names : List StdString}
      {named all : List (StdString × Json)}
      (hAgree : NamedOfAll accepts names named all) :
      PartsAgree accepts (some names) (some (.object named))
        (some (.object all))

/- What is known of a table that names are looked up in. -/
structure LooksUp
    (table : List StdString)
    (accepts : StdString → Prop)
    (field : StdString → Json) : Prop where
  noNul : ∀ name ∈ table, 0#8 ∉ name
  accepts_iff : ∀ name, accepts name ↔ cStr name ∈ table
  field_cStr : ∀ name, field name = field (cStr name)

theorem looksUp_gpr
    (file : ThreadRegisters) :
    LooksUp gprNames (fun name => str2gpr name ≠ .invalid)
      (gprField file) where
  noNul := by decide
  accepts_iff name := by
    rw [ne_eq, str2gpr_eq_invalid_iff, not_not]
  field_cStr name := by
    unfold gprField str2gpr
    rw [cStr_cStr]

theorem looksUp_fpr
    (file : ThreadRegisters) :
    LooksUp fprNames (fun name => str2fpr name ≠ .invalid)
      (fprField file) where
  noNul := by decide
  accepts_iff name := by
    rw [ne_eq, str2fpr_eq_invalid_iff, not_not]
  field_cStr name := by
    unfold fprField str2fpr
    rw [cStr_cStr]

variable {table : List StdString}
variable {accepts : StdString → Prop}
variable {field : StdString → Json}

theorem LooksUp.mem_iff
    (hLooks : LooksUp table accepts field)
    (name : StdString) :
    name ∈ table ↔ accepts name ∧ 0#8 ∉ name := by
  rw [hLooks.accepts_iff]
  constructor
  · intro hMem
    have hNoNul := hLooks.noNul name hMem
    exact ⟨(cStr_eq_self hNoNul).symm ▸ hMem, hNoNul⟩
  · intro hName
    rcases hName with ⟨hMem, hNoNul⟩
    rwa [cStr_eq_self hNoNul] at hMem

theorem LooksUp.namedOfAll
    (hLooks : LooksUp table accepts field)
    {names : List StdString}
    (hAccepts : ∀ name ∈ names, accepts name) :
    NamedOfAll accepts names (ofKeys field names [])
      (ofKeys field table []) where
  once := (ascending_ofKeys field table).nodup
  entries name := by
    rw [mem_keys_ofKeys]
    exact hLooks.mem_iff name
  restricts hNoNul := by
    refine (filter_ofKeys field ?_).symm
    intro name hName
    exact (hLooks.mem_iff name).mpr
      ⟨hAccepts name hName, hNoNul name hName⟩
  values name := by
    rw [lookup_ofKeys, lookup_ofKeys]
    by_cases hName : name ∈ names
    · have hMem :=
        (hLooks.accepts_iff name).mp (hAccepts name hName)
      rw [if_pos hName, if_pos hName, if_pos hMem,
        ← hLooks.field_cStr]
    · rw [if_neg hName, if_neg hName]
      rfl

theorem LooksUp.partsAgree
    (hLooks : LooksUp table accepts field)
    {names : Option (List StdString)}
    (hAccepts : ∀ list ∈ names, ∀ name ∈ list, accepts name) :
    PartsAgree accepts names (replyPart field names)
      (replyPart field (names.map fun _ => table)) := by
  cases names with
  | none => exact .nothing
  | some names =>
      exact .listed (hLooks.namedOfAll (hAccepts names rfl))

/- A part that lists names, and one that asks for all. -/
def listedPart (names : Option (List StdString)) : Option Json :=
  names.map fun names => .array (names.map Json.string)

def bulkPart (names : Option (List StdString)) : Option Json :=
  names.map fun _ => .string (ascii "all")

theorem asks_listedPart
    (table : List StdString)
    {names : Option (List StdString)}
    (hAccepts : ∀ list ∈ names, ∀ name ∈ list, accepts name) :
    Asks table accepts (listedPart names) names := by
  cases names with
  | none => exact .nothing
  | some names => exact .names names (hAccepts names rfl)

theorem asks_bulkPart
    (names : Option (List StdString)) :
    Asks table accepts (bulkPart names)
      (names.map fun _ => table) := by
  cases names with
  | none => exact .nothing
  | some names => exact .all

variable {κ : Type}
variable [Regset κ]
variable {c : DebuggerCore}
variable {file : κ → ThreadRegisters}

/-
  For every register file and all lists of accepted names:
  the object for the names is the restriction of the object
  for all registers, which has one entry for each name.
-/
theorem readRegisters_named_of_all
    (hReads : ReadsRegisters c.currentTid file)
    (dump : Json → StdString)
    {listed bulk : Json}
    {gprs fprs : Option (List StdString)}
    (hGprs :
      ∀ names ∈ gprs, ∀ name ∈ names, str2gpr name ≠ .invalid)
    (hFprs :
      ∀ names ∈ fprs, ∀ name ∈ names, str2fpr name ≠ .invalid)
    (hListedGpr :
      listed.field (ascii "GPR") = listedPart gprs)
    (hListedFpr :
      listed.field (ascii "FPR") = listedPart fprs)
    (hBulkGpr : bulk.field (ascii "GPR") = bulkPart gprs)
    (hBulkFpr : bulk.field (ascii "FPR") = bulkPart fprs)
    {k k' : κ}
    (hSame : file k' = file k) :
    let named := readRegisters dump listed .null c k
    let all := readRegisters dump bulk .null c k'
    named.1.1.isSuccess = true ∧
      all.1.1.isSuccess = true ∧
      PartsAgree (fun name => str2gpr name ≠ .invalid) gprs
        (named.1.2.field (ascii "GPR"))
        (all.1.2.field (ascii "GPR")) ∧
      PartsAgree (fun name => str2fpr name ≠ .invalid) fprs
        (named.1.2.field (ascii "FPR"))
        (all.1.2.field (ascii "FPR")) := by
  intro named all
  rcases readRegisters_reply hReads dump
      (hListedGpr ▸ asks_listedPart gprNames hGprs)
      (hListedFpr ▸ asks_listedPart fprNames hFprs) k with
    ⟨hNamed, hNamedGpr, hNamedFpr, -⟩
  rcases readRegisters_reply hReads dump
      (hBulkGpr ▸ asks_bulkPart gprs)
      (hBulkFpr ▸ asks_bulkPart fprs) k' with
    ⟨hAll, hAllGpr, hAllFpr, -⟩
  refine ⟨hNamed, hAll, ?_, ?_⟩
  · rw [hNamedGpr, hAllGpr, hSame]
    exact (looksUp_gpr (file k)).partsAgree hGprs
  · rw [hNamedFpr, hAllFpr, hSame]
    exact (looksUp_fpr (file k)).partsAgree hFprs

/- Some of the names, with one of them twice. -/
theorem readRegisters_named_of_all_some :
    let listed : Json :=
      .object
        [(ascii "FPR",
            .array [.string (ascii "fpsr"),
              .string (ascii "v0")]),
          (ascii "GPR",
            .array [.string (ascii "pc"),
              .string (ascii "x1"), .string (ascii "pc")])]
    let bulk : Json :=
      .object
        [(ascii "FPR", .string (ascii "all")),
          (ascii "GPR", .string (ascii "all"))]
    let named :=
      readRegisters (fun _ => []) listed .null init
        ThreadRegisters.cleared
    let all :=
      readRegisters (fun _ => []) bulk .null init
        ThreadRegisters.cleared
    named.1.1.isSuccess = true ∧
      all.1.1.isSuccess = true ∧
      PartsAgree (fun name => str2gpr name ≠ .invalid)
        (some [ascii "pc", ascii "x1", ascii "pc"])
        (named.1.2.field (ascii "GPR"))
        (all.1.2.field (ascii "GPR")) ∧
      PartsAgree (fun name => str2fpr name ≠ .invalid)
        (some [ascii "fpsr", ascii "v0"])
        (named.1.2.field (ascii "FPR"))
        (all.1.2.field (ascii "FPR")) := by
  apply readRegisters_named_of_all
    (ThreadRegisters.storesRegisters init.currentTid).toReadsRegisters
    (fun _ => [])
  · decide
  · decide
  · rfl
  · rfl
  · rfl
  · rfl
  · rfl

/-
  What follows a zero byte is not looked at, so that a name
  with such a byte is accepted; but the bulk object has no
  entry for it.
-/
theorem not_restriction_nul :
    let name : StdString := ascii "x0" ++ [0#8] ++ ascii "y"
    let listed : Json :=
      .object [(ascii "GPR", .array [.string name])]
    let bulk : Json :=
      .object [(ascii "GPR", .string (ascii "all"))]
    let named :=
      readRegisters (fun _ => []) listed .null init
        ThreadRegisters.cleared
    let all :=
      readRegisters (fun _ => []) bulk .null init
        ThreadRegisters.cleared
    str2gpr name ≠ .invalid ∧
      named.1.1.isSuccess = true ∧
      all.1.1.isSuccess = true ∧
      ∃ namedFields allFields,
        named.1.2.field (ascii "GPR") =
            some (.object namedFields) ∧
          all.1.2.field (ascii "GPR") =
            some (.object allFields) ∧
          name ∉ allFields.map Prod.fst ∧
          namedFields ≠
            allFields.filter
              (fun entry => decide (entry.1 ∈ [name])) := by
  intro name listed bulk named all
  have hReads :
      ReadsRegisters init.currentTid
        (id : ThreadRegisters → ThreadRegisters) :=
    (ThreadRegisters.storesRegisters _).toReadsRegisters
  have hAccepted : str2gpr name ≠ .invalid := by decide
  have hNames : ∀ other ∈ [name], str2gpr other ≠ .invalid :=
    List.forall_mem_singleton.mpr hAccepted
  have hListed :
      Asks gprNames (fun name => str2gpr name ≠ .invalid)
        (listed.field (ascii "GPR")) (some [name]) :=
    .names [name] hNames
  have hBulk :
      Asks gprNames (fun name => str2gpr name ≠ .invalid)
        (bulk.field (ascii "GPR")) (some gprNames) :=
    .all
  have hListedFpr :
      Asks fprNames (fun name => str2fpr name ≠ .invalid)
        (listed.field (ascii "FPR")) none :=
    .nothing
  have hBulkFpr :
      Asks fprNames (fun name => str2fpr name ≠ .invalid)
        (bulk.field (ascii "FPR")) none :=
    .nothing
  rcases readRegisters_reply hReads (fun _ => []) hListed
      hListedFpr ThreadRegisters.cleared with
    ⟨hNamed, hNamedGpr, -, -⟩
  rcases readRegisters_reply hReads (fun _ => []) hBulk
      hBulkFpr ThreadRegisters.cleared with
    ⟨hAll, hAllGpr, -, -⟩
  have hAbsent :
      name ∉
        (ofKeys (gprField ThreadRegisters.cleared) gprNames
          []).map Prod.fst := by
    rw [mem_keys_ofKeys]
    decide
  refine ⟨hAccepted, hNamed, hAll, _, _, hNamedGpr, hAllGpr,
    hAbsent, ?_⟩
  intro hEq
  have hMem :
      name ∈
        (ofKeys (gprField ThreadRegisters.cleared) [name]
          []).map Prod.fst := by
    rw [mem_keys_ofKeys]
    exact List.mem_singleton_self name
  rcases List.mem_map.mp hMem with ⟨entry, hEntry, hKey⟩
  have hFiltered := hEq ▸ hEntry
  exact hAbsent (hKey ▸ List.mem_map_of_mem
    (List.mem_of_mem_filter hFiltered))

end DebuggerCore

end AnDbg
