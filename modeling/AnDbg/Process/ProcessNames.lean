import AnDbg.Process.PROCHelper
import AnDbg.Process.PSLines

/-
  Processes by the names that `ps` shows.

  A search compares the name of every item, or looks for a
  part of it, and answers with the pids in ascending order.
  The answer is read off the lines of `ps` as they were
  written, each of which is one item.

  Main declarations:
    * `AnDbg.PSHelper.findPidByProcessName`
    * `AnDbg.PSHelper.findProcessNameByPid`
    * `AnDbg.PROCHelper.ascending_unique`
    * `AnDbg.PSHelper.Named`
    * `AnDbg.PSHelper.found_by_name`
-/

------------------------------------------------------------
-- Searching The Items
------------------------------------------------------------

namespace AnDbg

/- `to_lower`. -/
def Utils.lowered (str : StdString) : StdString :=
  str.map toLower

namespace PSHelper

open Conversion

/- `PSHelper::MatchMode`. -/
inductive MatchMode
  | exact
  | contain
deriving DecidableEq, Repr

/- A name as it is compared. -/
def folded
    (isSensitivity : Bool)
    (name : StdString) : StdString :=
  if !isSensitivity then Utils.lowered name else name

/- `is_match`, for a name that is folded already. -/
def isMatch
    (name : StdString)
    (mode : MatchMode)
    (isSensitivity : Bool)
    (item : PSItem) : Bool :=
  let psName := folded isSensitivity item.name
  match mode with
  | .exact => psName == name
  | .contain => Utils.search (fun a b => a == b) name psName

/-
  `find_pid_by_process_name`, given the output of `ps`, if
  it was started.
-/
def findPidByProcessName
    (name : StdString)
    (mode : MatchMode)
    (isSensitivity : Bool)
    (output : Option (List Byte)) :
    Except ConversionError (List Pid) := do
  let allItems ← getItems output
  if allItems.isEmpty then
    return []
  else
    let name := folded isSensitivity name
    let matching := allItems.filter fun item =>
      isMatch name mode isSensitivity item && item.pid != -1
    let result := matching.map PSItem.pid
    return PROCHelper.unique (result.insertionSort (· ≤ ·))

/- `find_process_name_by_pid`. -/
def findProcessNameByPid
    (pid : Pid)
    (output : Option (List Byte)) :
    Except ConversionError (Option StdString) := do
  let allItems ← getItems output
  if allItems.isEmpty then
    return none
  else
    let found := allItems.find? fun item => item.pid == pid
    return found.map PSItem.name

end PSHelper

end AnDbg

------------------------------------------------------------
-- Sorted Without Repetition
------------------------------------------------------------

namespace AnDbg

namespace PROCHelper

variable {pid : Pid} {list : List Pid}

theorem mem_unique :
    pid ∈ unique list ↔ pid ∈ list := by
  induction list with
  | nil => rfl
  | cons first list ih =>
      rw [unique, List.mem_cons, ← ih]
      split
      next hNil => simp [hNil]
      next next rest hCons =>
        rw [hCons]
        split
        next hSame => simp [hSame]
        next => rw [List.mem_cons]

/- Neighbours that differ in a sorted list ascend. -/
theorem ascending_unique
    (hSorted : list.Pairwise (· ≤ ·)) :
    (unique list).Pairwise (· < ·) := by
  induction list with
  | nil => exact .nil
  | cons first list ih =>
      rcases List.pairwise_cons.mp hSorted with
        ⟨hLeast, hRest⟩
      have hTail := ih hRest
      rw [unique]
      split
      next => exact List.pairwise_singleton _ _
      next next rest hCons =>
        rw [hCons] at hTail
        split
        next => exact hTail
        next hDiffers =>
          refine List.pairwise_cons.mpr ⟨?_, hTail⟩
          have hNext : next ∈ list := by
            rw [← mem_unique, hCons]
            exact List.mem_cons_self
          have hLess : first < next :=
            lt_of_le_of_ne (hLeast next hNext) hDiffers
          intro other hOther
          rcases List.mem_cons.mp hOther with rfl | hOther
          · exact hLess
          · exact hLess.trans
              ((List.pairwise_cons.mp hTail).1 other hOther)

theorem unique_insertionSort
    (list : List Pid) :
    (unique (list.insertionSort (· ≤ ·))).Pairwise (· < ·) ∧
      ∀ pid, pid ∈ unique (list.insertionSort (· ≤ ·)) ↔
        pid ∈ list := by
  constructor
  · exact ascending_unique (List.pairwise_insertionSort _ _)
  · intro pid
    rw [mem_unique]
    exact (List.perm_insertionSort (· ≤ ·) list).mem_iff

/- The search by package name finds all, each once. -/
theorem found_by_package
    {packageName : StdString}
    (hName : packageName ≠ [])
    (table : ProcTable) :
    (findPidByPackageName packageName table).Pairwise
        (· < ·) ∧
      ∀ pid, pid ∈ findPidByPackageName packageName table ↔
        pid ∈ pids table ∧ Mentions packageName table pid := by
  unfold findPidByPackageName
  rw [if_neg hName]
  dsimp only
  rcases unique_insertionSort
      ((pids table).filter (isMatch packageName table)) with
    ⟨hAscending, hMem⟩
  refine ⟨hAscending, ?_⟩
  intro pid
  rw [hMem, List.mem_filter, isMatch_iff hName]

end PROCHelper

end AnDbg

------------------------------------------------------------
-- What Is Found
------------------------------------------------------------

namespace AnDbg

namespace PSHelper

open Conversion Fields InputStream Lines

/- A name is the one that is looked for, or has it in it. -/
def Named
    (name : StdString)
    (mode : MatchMode)
    (isSensitivity : Bool)
    (psName : StdString) : Prop :=
  match mode with
  | .exact =>
      folded isSensitivity psName = folded isSensitivity name
  | .contain =>
      folded isSensitivity name <:+: folded isSensitivity psName

variable {name : StdString} {mode : MatchMode}
variable {isSensitivity : Bool} {item : PSItem}

theorem isMatch_iff :
    isMatch (folded isSensitivity name) mode isSensitivity
        item = true ↔
      Named name mode isSensitivity item.name := by
  cases mode with
  | exact => exact beq_iff_eq
  | contain =>
      have hSearch :=
        Utils.search_iff id (folded isSensitivity name)
          (folded isSensitivity item.name)
      rw [List.map_id, List.map_id] at hSearch
      exact hSearch

variable {header : StdString} {list : List StdString}
variable {items : List PSItem}

/- The items that are found are those of the lines. -/
theorem exists_item_iff
    (hOf : List.Forall₂ ItemOf list items)
    (p : Pid → StdString → Prop) :
    (∃ item ∈ items, p item.pid item.name) ↔
      ∃ line ∈ list, ∃ pid,
        stoi ((fields isSpace line).getD 1 []) = .ok pid ∧
          p pid
            ((ascii " ").intercalate
              ((fields isSpace line).drop 8)) := by
  induction hOf with
  | nil => simp
  | cons hItem _ ih =>
      rw [List.exists_mem_cons_iff, List.exists_mem_cons_iff,
        ih]
      refine or_congr_left ?_
      rw [hItem.pid, hItem.name]
      constructor
      · exact fun hHere => ⟨_, rfl, hHere⟩
      · rintro ⟨pid, hPid, hHere⟩
        cases hPid
        exact hHere

/-
  Of a `ps` output that is read whole, the search finds all
  processes of that name and no other, each once and in
  ascending order.
-/
theorem found_by_name
    (hHeader : IsHeader header)
    (hList : ∀ line ∈ list, IsProcessLine line)
    (hWhole : ReadWhole header list)
    (name : StdString)
    (mode : MatchMode)
    (isSensitivity : Bool) :
    ∃ found,
      findPidByProcessName name mode isSensitivity
          (some (unlines newline (header :: list))) =
        .ok found ∧
      found.Pairwise (· < ·) ∧
      ∀ pid, pid ∈ found ↔
        pid ≠ -1 ∧ ∃ line ∈ list,
          stoi ((fields isSpace line).getD 1 []) = .ok pid ∧
            Named name mode isSensitivity
              ((ascii " ").intercalate
                ((fields isSpace line).drop 8)) := by
  rcases hWhole.yieldsItems hHeader hList with
    ⟨items, hItems, hOf⟩
  have hSome (pid : Pid) :
      (pid ≠ -1 ∧ ∃ line ∈ list,
          stoi ((fields isSpace line).getD 1 []) = .ok pid ∧
            Named name mode isSensitivity
              ((ascii " ").intercalate
                ((fields isSpace line).drop 8))) ↔
        ∃ item ∈ items,
          Named name mode isSensitivity item.name ∧
            item.pid ≠ -1 ∧ item.pid = pid := by
    have hItem :=
      exists_item_iff hOf fun pid' psName =>
        Named name mode isSensitivity psName ∧
          pid' ≠ -1 ∧ pid' = pid
    rw [hItem]
    constructor
    · rintro ⟨hPid, line, hLine, hStoi, hNamed⟩
      exact ⟨line, hLine, pid, hStoi, hNamed, hPid, rfl⟩
    · rintro ⟨line, hLine, _, hStoi, hNamed, hPid, rfl⟩
      exact ⟨hPid, line, hLine, hStoi, hNamed⟩
  unfold findPidByProcessName
  rw [hItems]
  cases hEmpty : items.isEmpty with
  | true =>
      rw [List.isEmpty_iff] at hEmpty
      refine ⟨[], ?_, .nil, ?_⟩
      · subst hEmpty
        rfl
      · intro pid
        rw [hSome, hEmpty]
        simp
  | false =>
      rcases PROCHelper.unique_insertionSort
          ((items.filter fun item =>
            isMatch (folded isSensitivity name) mode
              isSensitivity item && item.pid != -1).map
                PSItem.pid) with
        ⟨hAscending, hMem⟩
      refine ⟨_, ?_, hAscending, ?_⟩
      · change (if items.isEmpty = true then _ else _) = _
        rw [hEmpty]
        rfl
      · intro pid
        rw [hMem, hSome, List.mem_map]
        simp only [List.mem_filter, Bool.and_eq_true,
          isMatch_iff, bne_iff_ne, and_assoc]

/- Of two names with the text in them, one is the text. -/
theorem found_by_name_zygote :
    ∃ found,
      findPidByProcessName (ascii "zygote64") .exact true
          (some (unlines newline
            [ascii "USER PID NAME",
              ascii "root 1 0 99 9 0 0 S init zygote64",
              ascii "root 700 1 99 9 0 0 S zygote64"])) =
        .ok found ∧
      ∀ pid, pid ∈ found ↔ pid = 700 := by
  have hHeader : IsHeader (ascii "USER PID NAME") :=
    ⟨by decide, by decide⟩
  have hInit :
      fields isSpace
          (ascii "root 1 0 99 9 0 0 S init zygote64") =
        [ascii "root", ascii "1", ascii "0", ascii "99",
          ascii "9", ascii "0", ascii "0", ascii "S",
          ascii "init", ascii "zygote64"] := by
    decide
  have hZygote :
      fields isSpace (ascii "root 700 1 99 9 0 0 S zygote64") =
        [ascii "root", ascii "700", ascii "1", ascii "99",
          ascii "9", ascii "0", ascii "0", ascii "S",
          ascii "zygote64"] := by
    decide
  have hStoi : stoi (ascii "700") = .ok 700 := by decide
  have hList :
      ∀ line ∈ [ascii "root 1 0 99 9 0 0 S init zygote64",
          ascii "root 700 1 99 9 0 0 S zygote64"],
        IsProcessLine line := by
    intro line hMem
    simp only [List.mem_cons, List.not_mem_nil, or_false]
      at hMem
    rcases hMem with rfl | rfl
    · exact {
        oneLine := by decide
        nine := by rw [hInit]; decide
        pid := ⟨1, by rw [hInit]; decide⟩
        ppid := ⟨0, by rw [hInit]; decide⟩
        vsz := stoull_isOk_iff.mp ⟨99, by rw [hInit]; decide⟩
        rss := stoull_isOk_iff.mp ⟨9, by rw [hInit]; decide⟩ }
    · exact {
        oneLine := by decide
        nine := by rw [hZygote]; decide
        pid := ⟨700, by rw [hZygote]; decide⟩
        ppid := ⟨1, by rw [hZygote]; decide⟩
        vsz :=
          stoull_isOk_iff.mp ⟨99, by rw [hZygote]; decide⟩
        rss :=
          stoull_isOk_iff.mp ⟨9, by rw [hZygote]; decide⟩ }
  rcases found_by_name hHeader hList
      (readWhole_of_short (by decide) (by decide) (by decide))
      (ascii "zygote64") .exact true with
    ⟨found, hFound, -, hMem⟩
  refine ⟨found, hFound, ?_⟩
  intro pid
  rw [hMem]
  simp only [List.exists_mem_cons_iff, List.not_mem_nil,
    false_and, exists_false, or_false, hInit, hZygote]
  constructor
  · rintro ⟨_, ⟨_, hOther⟩ | ⟨hPid, _⟩⟩
    · exact absurd hOther (by unfold Named folded; decide)
    · change stoi (ascii "700") = .ok pid at hPid
      rw [hStoi] at hPid
      exact (Except.ok.inj hPid).symm
  · rintro rfl
    refine ⟨by decide, .inr ⟨hStoi, ?_⟩⟩
    unfold Named folded
    decide

/- The name that a line shows for a process. -/
def nameIn
    (pid : Pid)
    (line : StdString) : Option StdString :=
  match stoi ((fields isSpace line).getD 1 []) with
  | .ok shown =>
    if shown = pid then
      some ((ascii " ").intercalate
        ((fields isSpace line).drop 8))
    else
      none
  | .error _ => none

/- The name of a process is that of its first line. -/
theorem name_by_pid
    (hHeader : IsHeader header)
    (hList : ∀ line ∈ list, IsProcessLine line)
    (hWhole : ReadWhole header list)
    (pid : Pid) :
    findProcessNameByPid pid
        (some (unlines newline (header :: list))) =
      .ok (list.findSome? (nameIn pid)) := by
  rcases hWhole.yieldsItems hHeader hList with
    ⟨items, hItems, hOf⟩
  have hFirst :
      (items.find? fun item => item.pid == pid).map
          PSItem.name =
        list.findSome? (nameIn pid) := by
    clear hItems hList hWhole
    induction hOf with
    | nil => rfl
    | @cons line item _ _ hItem _ ih =>
        have hLine :
            nameIn pid line =
              if item.pid = pid then some item.name
              else none := by
          unfold nameIn
          rw [hItem.pid, hItem.name]
        rw [List.find?_cons, List.findSome?_cons, hLine, ← ih]
        by_cases hPid : item.pid = pid
        · simp [hPid]
        · simp [hPid, beq_false_of_ne hPid]
  unfold findProcessNameByPid
  rw [hItems, ← hFirst]
  change (if items.isEmpty = true then _ else _) = _
  split
  next hEmpty =>
    rw [List.isEmpty_iff.mp hEmpty]
    rfl
  next => rfl

end PSHelper

end AnDbg
