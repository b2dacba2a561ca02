import AnDbg.Base.File
import AnDbg.Lib.Assignments
import AnDbg.Lib.UnorderedMap
import AnDbg.Process.PSHelper
import Mathlib.Data.List.DropRight

/-
  The state of a thread, from `/proc/<tid>/status`.

  Every line of the file is a key, a colon and a value.  The
  name of the process is one of the values, and may have
  colons and blanks in it.

  Main declarations:
    * `AnDbg.Utils.trim`
    * `AnDbg.PROCHelper.parseStatus`
    * `AnDbg.PROCHelper.getProcessState`
    * `AnDbg.PROCHelper.lookup_parseStatus`
    * `AnDbg.PROCHelper.statusText`
    * `AnDbg.PROCHelper.status_read`
-/

------------------------------------------------------------
-- Parsing The File
------------------------------------------------------------

namespace AnDbg

open Conversion InputStream

/- `trim`: without the white space around the text. -/
def Utils.trim (s : StdString) : StdString :=
  (s.dropWhile isSpace).rdropWhile isSpace

namespace PROCHelper

/- `process_state_to_char`. -/
def processStateToChar : ProcessState → Byte
| .unknown => 0x3f
| .running => 0x52
| .sleeping => 0x53
| .diskSleep => 0x44
| .stopped => 0x54
| .tracingStop => 0x74
| .dead => 0x58
| .zombie => 0x5a
| .parked => 0x50
| .idle => 0x49

def colon : Byte := 0x3a

/- What the loop of `parse_status` makes of a line. -/
def statusEntry
    (line : StdString) : Option (StdString × StdString) :=
  if line.contains colon then
    let key := line.takeWhile (· != colon)
    let value := line.drop (key.length + 1)
    some (Utils.trim key, Utils.trim value)
  else
    none

/- A round of the loop of `parse_status`. -/
def addLine
    (statusMap : UnorderedMap StdString StdString)
    (line : StdString) : UnorderedMap StdString StdString :=
  match statusEntry line with
  | none => statusMap
  | some (key, value) => statusMap.insert key value

/-
  `parse_status`, given the content of the file of each
  process, if it can be opened.
-/
def parseStatus
    (pid : Pid)
    (status : Pid → Option (List Byte)) :
    UnorderedMap StdString StdString :=
  match status pid with
  | none => ∅
  | some content =>
      let lines := (File.opened content).readLines.1
      lines.foldl addLine ∅

/- `get_process_state_char`. -/
def getProcessStateChar
    (pid : Pid)
    (status : Pid → Option (List Byte)) : Byte :=
  if pid ≤ 0 then
    0x3f
  else
    match (parseStatus pid status).lookup (ascii "State") with
    | none => 0x3f
    | some [] => 0x3f
    | some (c :: _) => c

/- `get_process_state`. -/
def getProcessState
    (pid : Pid)
    (status : Pid → Option (List Byte)) : ProcessState :=
  charToProcessState (getProcessStateChar pid status)

/- The letter of a state says which one it is. -/
theorem charToProcessState_processStateToChar
    (state : ProcessState) :
    charToProcessState (processStateToChar state) = state := by
  cases state <;> decide

end PROCHelper

end AnDbg

------------------------------------------------------------
-- What Is Found In A File
------------------------------------------------------------

namespace AnDbg

namespace PROCHelper

open Assignments Conversion InputStream Lines

variable {status : Pid → Option (List Byte)}
variable {pid : Pid}
variable {key value : StdString}

theorem lookup_foldl_addLine
    (lines : List StdString)
    (statusMap : UnorderedMap StdString StdString)
    (key : StdString) :
    (lines.foldl addLine statusMap).lookup key =
      (last key (lines.filterMap statusEntry)).or
        (statusMap.lookup key) := by
  induction lines generalizing statusMap with
  | nil => rfl
  | cons line lines ih =>
      rw [List.foldl_cons, ih, addLine]
      cases hEntry : statusEntry line with
      | none => rw [List.filterMap_cons_none hEntry]
      | some entry =>
          rw [List.filterMap_cons_some hEntry, last]
          dsimp only
          rw [UnorderedMap.lookup_insert]
          cases last key (lines.filterMap statusEntry) with
          | none =>
              dsimp only
              split <;> simp
          | some value => rfl

/- The value of a key is that of the last line with it. -/
theorem lookup_parseStatus
    {content : List Byte}
    (hContent : status pid = some content)
    (key : StdString) :
    (parseStatus pid status).lookup key =
      last key
        ((lines newline content).filterMap statusEntry) := by
  have hRead :
      (File.opened content).readLines.1 =
        lines newline content :=
    (File.readLines_spec (File.hasContent_opened content)).1
  unfold parseStatus
  rw [hContent]
  dsimp only
  rw [hRead, lookup_foldl_addLine, Finmap.lookup_empty,
    Option.or_none]

end PROCHelper

end AnDbg

------------------------------------------------------------
-- Files As They Are Written
------------------------------------------------------------

namespace AnDbg

namespace PROCHelper

open Assignments Conversion InputStream Lines

def tab : Byte := 0x09

/-
  A key and a value as they may stand in a line: a key is
  without a colon and without white space around it.
-/
structure IsField (field : StdString × StdString) : Prop where
  colon_notMem : colon ∉ field.1
  trim_eq : Utils.trim field.1 = field.1
  key_line : newline ∉ field.1
  value_line : newline ∉ field.2

/- A line of the file. -/
def fieldLine (field : StdString × StdString) : StdString :=
  field.1 ++ colon :: tab :: field.2

/- The file with these fields. -/
def statusText
    (fields : List (StdString × StdString)) : List Byte :=
  unlines newline (fields.map fieldLine)

variable {status : Pid → Option (List Byte)}
variable {pid : Pid}
variable {field : StdString × StdString}

/- White space in front does not matter. -/
theorem trim_cons_space
    {c : Byte}
    (hSpace : isSpace c = true)
    (s : StdString) :
    Utils.trim (c :: s) = Utils.trim s := by
  unfold Utils.trim
  rw [List.dropWhile_cons_of_pos hSpace]

/- A letter in front stays in front. -/
theorem head_trim_cons
    {c : Byte}
    (hLetter : isSpace c = false)
    (s : StdString) :
    (Utils.trim (c :: s)).head? = some c := by
  unfold Utils.trim
  rw [List.dropWhile_cons_of_neg (by simp [hLetter])]
  have hPrefix :
      (c :: s).rdropWhile isSpace <+: c :: s :=
    List.rdropWhile_prefix _ _
  have hSome : (c :: s).rdropWhile isSpace ≠ [] := by
    rw [Ne, List.rdropWhile_eq_nil_iff]
    intro hAll
    have hHere := hAll c List.mem_cons_self
    rw [hLetter] at hHere
    exact Bool.false_ne_true hHere
  rcases List.exists_cons_of_ne_nil hSome with
    ⟨c', s', hCons⟩
  rw [hCons] at hPrefix ⊢
  rw [(List.cons_prefix_cons.mp hPrefix).1]
  rfl

theorem statusEntry_fieldLine
    (hField : IsField field) :
    statusEntry (fieldLine field) =
      some (field.1, Utils.trim field.2) := by
  have hColon : colon ∈ fieldLine field := by
    simp [fieldLine]
  have hKey :
      (fieldLine field).takeWhile (· != colon) = field.1 :=
    takeWhile_append_cons hField.colon_notMem _
  have hValue :
      (fieldLine field).drop (field.1.length + 1) =
        tab :: field.2 := by
    simp [fieldLine, List.drop_append]
  unfold statusEntry
  rw [if_pos (List.contains_iff_mem.mpr hColon)]
  dsimp only
  rw [hKey, hValue, hField.trim_eq,
    trim_cons_space (by decide)]

theorem newline_notMem_fieldLine
    (hField : IsField field) :
    newline ∉ fieldLine field := by
  unfold fieldLine
  simp only [List.mem_append, List.mem_cons, not_or]
  exact ⟨hField.key_line, by decide, by decide,
    hField.value_line⟩

/- The lines of the file are the fields. -/
theorem entries_statusText
    {fields : List (StdString × StdString)}
    (hFields : ∀ field ∈ fields, IsField field) :
    (lines newline (statusText fields)).filterMap statusEntry =
      fields.map fun field =>
        (field.1, Utils.trim field.2) := by
  induction fields with
  | nil => rfl
  | cons field fields ih =>
      rcases List.forall_mem_cons.mp hFields with
        ⟨hHere, hLater⟩
      have hText :
          statusText (field :: fields) =
            fieldLine field ++
              newline :: statusText fields := by
        simp [statusText, unlines]
      rw [hText,
        lines_append_cons (newline_notMem_fieldLine hHere),
        List.filterMap_cons_some (statusEntry_fieldLine hHere),
        ih hLater]
      rfl

variable {fields : List (StdString × StdString)}

/- Every field is found, and nothing else. -/
theorem lookup_statusText
    (hFields : ∀ field ∈ fields, IsField field)
    (hDistinct : (fields.map Prod.fst).Nodup)
    (hContent : status pid = some (statusText fields)) :
    (∀ key value, (key, value) ∈ fields →
        (parseStatus pid status).lookup key =
          some (Utils.trim value)) ∧
      ∀ key, key ∉ fields.map Prod.fst →
        (parseStatus pid status).lookup key = none := by
  have hKeys :
      (fields.map fun field =>
          (field.1, Utils.trim field.2)).map Prod.fst =
        fields.map Prod.fst := by
    simp
  constructor
  · intro key value hMem
    rw [lookup_parseStatus hContent, entries_statusText hFields]
    apply last_of_mem
    · rw [hKeys]
      exact hDistinct
    · exact List.mem_map.mpr ⟨_, hMem, rfl⟩
  · intro key hAbsent
    rw [lookup_parseStatus hContent, entries_statusText hFields,
      last_eq_none_iff, hKeys]
    exact hAbsent

theorem getProcessStateChar_of_some
    {c : Byte}
    {s : StdString}
    (hPid : 0 < pid)
    (hLetter : isSpace c = false)
    (hLookup :
      (parseStatus pid status).lookup (ascii "State") =
        some (Utils.trim (c :: s))) :
    getProcessStateChar pid status = c := by
  have hHead := head_trim_cons hLetter s
  unfold getProcessStateChar
  rw [if_neg (Int.not_le.mpr hPid), hLookup]
  cases hTrim : Utils.trim (c :: s) with
  | nil =>
      rw [hTrim] at hHead
      cases hHead
  | cons c' s' =>
      rw [hTrim] at hHead
      exact Option.some.inj hHead

theorem getProcessStateChar_of_none
    (hLookup :
      (parseStatus pid status).lookup (ascii "State") = none) :
    getProcessStateChar pid status = 0x3f := by
  unfold getProcessStateChar
  rw [hLookup]
  split <;> rfl

/-
  A file is read as it was written, whatever the process is
  called: every field has its value, there is no other one,
  and the state is the one whose letter was written, or
  unknown if there is none.
-/
theorem status_read
    (hFields : ∀ field ∈ fields, IsField field)
    (hDistinct : (fields.map Prod.fst).Nodup)
    (hContent : status pid = some (statusText fields))
    (hPid : 0 < pid) :
    (∀ key value, (key, value) ∈ fields →
        (parseStatus pid status).lookup key =
          some (Utils.trim value)) ∧
      (∀ key, key ∉ fields.map Prod.fst →
        (parseStatus pid status).lookup key = none) ∧
      (∀ state rest,
        (ascii "State", processStateToChar state :: rest) ∈
            fields →
          getProcessState pid status = state) ∧
      (ascii "State" ∉ fields.map Prod.fst →
        getProcessState pid status = .unknown) := by
  rcases lookup_statusText hFields hDistinct hContent with
    ⟨hFound, hNone⟩
  refine ⟨hFound, hNone, ?_, ?_⟩
  · intro state rest hMem
    have hLetter :
        isSpace (processStateToChar state) = false := by
      cases state <;> decide
    unfold getProcessState
    rw [getProcessStateChar_of_some hPid hLetter
      (hFound _ _ hMem)]
    exact charToProcessState_processStateToChar state
  · intro hAbsent
    unfold getProcessState
    rw [getProcessStateChar_of_none (hNone _ hAbsent)]
    rfl

/- A stopped thread that is called `a State:\tR`. -/
theorem status_read_stopped :
    let fields :=
      [(ascii "Name", ascii "a State:\tR"),
        (ascii "State", ascii "t (tracing stop)"),
        (ascii "Tgid", ascii "7")]
    getProcessState 7 (fun _ => some (statusText fields)) =
      .tracingStop := by
  intro fields
  have hFields : ∀ field ∈ fields, IsField field := by
    intro field hMem
    simp only [fields, List.mem_cons, List.not_mem_nil,
      or_false] at hMem
    rcases hMem with rfl | rfl | rfl
    · exact ⟨by decide, by decide, by decide, by decide⟩
    · exact ⟨by decide, by decide, by decide, by decide⟩
    · exact ⟨by decide, by decide, by decide, by decide⟩
  have hRead :=
    @status_read (fun _ => some (statusText fields)) 7 fields
      hFields (by decide) rfl (by decide)
  exact hRead.2.2.1 .tracingStop
    (ascii " (tracing stop)") (by decide)

end PROCHelper

end AnDbg
