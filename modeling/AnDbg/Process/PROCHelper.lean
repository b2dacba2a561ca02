import AnDbg.Base.Utils
import AnDbg.Core.Target
import Mathlib.Data.List.Sort

/-
  Processes by their package names, from `/proc`.

  A search goes through the entries of the directory and
  looks for the name anywhere in a command line; what a
  process is called is the first item of its command line.

  Main declarations:
    * `AnDbg.ProcTable`
    * `AnDbg.PROCHelper.findPidByPackageName`
    * `AnDbg.PROCHelper.findPackageNameByPid`
    * `AnDbg.PROCHelper.head_findPidByPackageName`
-/

------------------------------------------------------------
-- The Process Table
------------------------------------------------------------

namespace AnDbg

/-
  What `/proc` shows: the names of its entries, in the order
  in which they are walked, if it can be opened, and the
  command lines that can be read.
-/
structure ProcTable where
  entries : Option (List StdString)
  cmdline : Pid → Option (List Byte)

namespace PROCHelper

/- `std::isdigit`. -/
def isDigit (c : Byte) : Bool :=
  decide (0x30 ≤ c.toNat ∧ c.toNat ≤ 0x39)

/- The number that decimal digits stand for. -/
def decimal (digits : StdString) : Nat :=
  digits.foldl (fun n c => 10 * n + (c.toNat - 0x30)) 0

/-
  `std::atoi` of a text of digits: a `long` that saturates,
  cut to an `int`.
-/
def atoi (digits : StdString) : Int :=
  (BitVec.ofNat 32 (min (decimal digits) (2 ^ 63 - 1))).toInt

/- The process of a directory that digits are the name of. -/
def pidOfName (name : StdString) : Option Pid :=
  if !name.all isDigit then
    none
  else
    let pid := atoi name
    if pid ≤ 0 then none else some pid

/- The processes that have a directory. -/
def pids (table : ProcTable) : List Pid :=
  match table.entries with
  | none => []
  | some names => names.filterMap pidOfName

/- A command line with blanks between its items. -/
def spaced (cmdlineData : List Byte) : StdString :=
  cmdlineData.map fun ch => if ch = 0 then 0x20 else ch

/- The command line of a process has the name in it. -/
def isMatch
    (packageName : StdString)
    (table : ProcTable)
    (pid : Pid) : Bool :=
  match table.cmdline pid with
  | none => false
  | some cmdlineData =>
    Utils.containsString (spaced cmdlineData) packageName false

/- `std::unique`: the first of equal neighbours. -/
def unique : List Pid → List Pid
| [] => []
| pid :: pids =>
    match unique pids with
    | [] => [pid]
    | next :: rest =>
      if pid = next then next :: rest else pid :: next :: rest

/- `find_pid_by_package_name`. -/
def findPidByPackageName
    (packageName : StdString)
    (table : ProcTable) : List Pid :=
  if packageName = [] then
    []
  else
    let matchPids :=
      (pids table).filter (isMatch packageName table)
    unique (matchPids.insertionSort (· ≤ ·))

/- `find_package_name_by_pid`. -/
def findPackageNameByPid
    (pid : Pid)
    (table : ProcTable) : Option StdString :=
  if pid ≤ 0 then
    none
  else
    match table.cmdline pid with
    | none => none
    | some cmdlineData =>
      if cmdlineData = [] then
        none
      else
        some (cmdlineData.takeWhile fun ch => ch != 0)

end PROCHelper

end AnDbg

------------------------------------------------------------
-- The First Match
------------------------------------------------------------

namespace AnDbg

namespace PROCHelper

/- The name is somewhere in the command line, in any case. -/
def Mentions
    (packageName : StdString)
    (table : ProcTable)
    (pid : Pid) : Prop :=
  ∃ cmdlineData, table.cmdline pid = some cmdlineData ∧
    packageName.map Utils.toLower <:+:
      (spaced cmdlineData).map Utils.toLower

variable {packageName : StdString}
variable {table : ProcTable}
variable {pid : Pid}

theorem isMatch_iff
    (hName : packageName ≠ []) :
    isMatch packageName table pid = true ↔
      Mentions packageName table pid := by
  unfold isMatch Mentions
  cases table.cmdline pid with
  | none => simp
  | some cmdlineData =>
      simp [Utils.containsString_iff hName]

theorem head_unique
    (pids : List Pid) :
    (unique pids).head? = pids.head? := by
  cases pids with
  | nil => rfl
  | cons pid pids =>
      rw [unique]
      split
      next => rfl
      next next rest _ =>
        split
        next hSame =>
          rw [hSame]
          rfl
        next => rfl

/- The head of a sorted list is its least element. -/
theorem head_insertionSort
    (pids : List Pid) :
    (pids.insertionSort (· ≤ ·)).head? = some pid ↔
      pid ∈ pids ∧ ∀ other ∈ pids, pid ≤ other := by
  have hPerm := List.perm_insertionSort (· ≤ ·) pids
  have hSorted := List.pairwise_insertionSort (· ≤ ·) pids
  generalize pids.insertionSort (· ≤ ·) = sorted
    at hPerm hSorted
  cases sorted with
  | nil =>
      rw [List.nil_perm.mp hPerm]
      simp
  | cons first rest =>
      have hLeast : ∀ other ∈ pids, first ≤ other := by
        intro other hOther
        rcases List.mem_cons.mp (hPerm.mem_iff.mpr hOther) with
          rfl | hRest
        · exact le_refl _
        · exact (List.pairwise_cons.mp hSorted).1 other hRest
      have hFirst : first ∈ pids :=
        hPerm.mem_iff.mp List.mem_cons_self
      rw [List.head?_cons, Option.some.injEq]
      constructor
      · intro hSame
        exact hSame ▸ ⟨hFirst, hLeast⟩
      · intro hPid
        exact le_antisymm (hLeast pid hPid.1)
          (hPid.2 first hFirst)

/- The search begins with the lowest process it matches. -/
theorem head_findPidByPackageName
    (hName : packageName ≠ []) :
    (findPidByPackageName packageName table).head? = some pid ↔
      pid ∈ pids table ∧ Mentions packageName table pid ∧
        ∀ other ∈ pids table,
          Mentions packageName table other → pid ≤ other := by
  unfold findPidByPackageName
  rw [if_neg hName]
  dsimp only
  rw [head_unique, head_insertionSort]
  simp only [List.mem_filter, isMatch_iff hName, and_imp,
    and_assoc]

end PROCHelper

end AnDbg
