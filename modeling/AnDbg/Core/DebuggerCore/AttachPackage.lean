import AnDbg.Core.DebuggerCore.Model
import AnDbg.Core.SteppedTarget
import AnDbg.Process.PROCHelper

/-
  Attaching to a package by its name.

  The debugger takes the first process of a search that goes
  by parts of command lines.  It is the process of that name
  only if no lower one mentions the name, and there is no
  first process if none does.

  Main declarations:
    * `AnDbg.DebuggerCore.attachPackage`
    * `AnDbg.DebuggerCore.PicksPackage`
    * `AnDbg.DebuggerCore.picksPackage_iff`
-/

------------------------------------------------------------
-- Attaching By Name
------------------------------------------------------------

namespace AnDbg

namespace DebuggerCore

open PROCHelper

variable {κ : Type}
variable [Kernel κ]

/- `match_pids[0]`; none if that is past the end. -/
def firstMatch
    (packageName : StdString)
    (table : ProcTable) : Option Pid :=
  (findPidByPackageName packageName table).head?

/-
  `attach` of a package name; to index the empty list is
  undefined, which is none.
-/
def attachPackage
    (packageName : StdString)
    (table : ProcTable)
    (c : DebuggerCore)
    (k : κ) : Option (Outcome DebuggerCore κ Status) :=
  match firstMatch packageName table with
  | none => none
  | some pid => some (attach pid c k)

/-
  It attaches to a process with the package name, or there
  is none and it fails without attaching to anything.
-/
inductive PicksPackage
    (packageName : StdString)
    (table : ProcTable)
    (c : DebuggerCore)
    (k : κ) : Prop
  | attaches
      {pid : Pid}
      (hFirst : firstMatch packageName table = some pid)
      (hPackage :
        findPackageNameByPid pid table = some packageName)
      (hAttach :
        attachPackage packageName table c k =
          some (attach pid c k))
  | refuses
      {text : StdString}
      (hFirst : firstMatch packageName table = none)
      (hAbsent :
        ∀ pid ∈ pids table,
          findPackageNameByPid pid table ≠ some packageName)
      (hFails :
        attachPackage packageName table c k =
          some ⟨.fail text, c, k⟩)

/-
  A process has the package name, and no process with a
  lower id mentions the name in its command line.
-/
def LowestHasPackage
    (packageName : StdString)
    (table : ProcTable) : Prop :=
  ∃ pid ∈ pids table,
    findPackageNameByPid pid table = some packageName ∧
      ∀ other ∈ pids table, other < pid →
        ¬ Mentions packageName table other

variable {packageName : StdString}
variable {table : ProcTable}
variable {pid : Pid}

omit [Kernel κ] in
/- The command line of a process begins with its package. -/
theorem mentions_of_package
    (hPackage :
      findPackageNameByPid pid table = some packageName) :
    Mentions packageName table pid := by
  unfold findPackageNameByPid at hPackage
  split at hPackage
  next => cases hPackage
  next =>
    split at hPackage
    next => cases hPackage
    next cmdlineData hData =>
      split at hPackage
      next => cases hPackage
      next =>
        cases hPackage
        refine ⟨cmdlineData, hData, ?_⟩
        apply List.IsInfix.map
        apply List.IsPrefix.isInfix
        have hKept :
            spaced (cmdlineData.takeWhile fun ch => ch != 0) =
              cmdlineData.takeWhile fun ch => ch != 0 := by
          refine (List.map_congr_left ?_).trans (List.map_id _)
          intro ch hMem
          have hNe := List.mem_takeWhile_imp hMem
          exact if_neg (by simpa using hNe)
        rw [← hKept]
        exact (List.takeWhile_prefix _).map _

/-
  For every process table and package name: the right
  process is picked exactly if some process has that package
  name and no lower one mentions it.
-/
theorem picksPackage_iff
    (hName : packageName ≠ [])
    (table : ProcTable)
    (c : DebuggerCore)
    (k : κ) :
    PicksPackage packageName table c k ↔
      LowestHasPackage packageName table := by
  constructor
  · intro hPicks
    cases hPicks with
    | attaches hFirst hPackage =>
        rcases (head_findPidByPackageName hName).mp hFirst with
          ⟨hPid, -, hLowest⟩
        refine ⟨_, hPid, hPackage, ?_⟩
        intro other hOther hLower hMentions
        exact absurd (hLowest other hOther hMentions)
          (not_le.mpr hLower)
    | refuses hFirst _ hFails =>
        unfold attachPackage at hFails
        rw [hFirst] at hFails
        cases hFails
  · intro hLowest
    rcases hLowest with ⟨pid, hPid, hPackage, hOthers⟩
    have hFirst : firstMatch packageName table = some pid := by
      apply (head_findPidByPackageName hName).mpr
      refine ⟨hPid, mentions_of_package hPackage, ?_⟩
      intro other hOther hMentions
      by_contra hLower
      exact hOthers other hOther (not_le.mp hLower) hMentions
    refine .attaches hFirst hPackage ?_
    unfold attachPackage
    rw [hFirst]

/- The package alone in the table. -/
theorem picksPackage_iff_alone :
    let table : ProcTable :=
      ⟨some [ascii "self", ascii "20"],
        fun _ => some (ascii "com.app")⟩
    PicksPackage (ascii "com.app") table init
        (SteppedTarget.waiting [] (20, 0x137f)) ↔
      LowestHasPackage (ascii "com.app") table :=
  picksPackage_iff (by decide) _ _ _

/-
  With no process of the package the list is empty, and a
  lower process with a longer name is taken for it.
-/
theorem not_picksPackage_other :
    (∀ c, ¬ PicksPackage (ascii "com.app") ⟨some [], fun _ => none⟩
        c (SteppedTarget.waiting [] (20, 0x137f))) ∧
      let table : ProcTable :=
        ⟨some [ascii "10", ascii "20"],
          fun pid =>
            if pid = 10 then some (ascii "com.app.helper")
            else some (ascii "com.app")⟩
      firstMatch (ascii "com.app") table = some 10 ∧
        ¬ PicksPackage (ascii "com.app") table init
            (SteppedTarget.waiting [] (20, 0x137f)) := by
  constructor
  · intro c hPicks
    cases hPicks with
    | attaches hFirst => cases hFirst
    | refuses _ _ hFails => cases hFails
  · refine ⟨by decide, ?_⟩
    intro hPicks
    cases hPicks with
    | attaches hFirst hPackage =>
        cases hFirst
        exact absurd hPackage (by decide)
    | refuses hFirst => exact absurd hFirst (by decide)

end DebuggerCore

end AnDbg
