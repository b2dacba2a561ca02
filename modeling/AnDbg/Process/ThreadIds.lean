import AnDbg.Base.Conversions
import AnDbg.Base.Directory
import AnDbg.Process.PROCHelper

/-
  The threads of a process, from its task directory.

  The references to the entries are collected first and read
  afterwards, when the buffer of the directory stream holds
  what was loaded into it last.  A thread is found exactly
  if no other entry has come to lie in its place, and found
  once if no other reference leads there.

  Main declarations:
    * `AnDbg.PROCHelper.getThreadIds`
    * `AnDbg.PROCHelper.ListsThreads`
    * `AnDbg.PROCHelper.KeepsPlaces`
    * `AnDbg.PROCHelper.listsThreads_iff`
-/

------------------------------------------------------------
-- Reading The Entries
------------------------------------------------------------

namespace AnDbg

namespace PROCHelper

open DirStream Conversion

/- The loop of `get_thread_ids` over the references. -/
def threadIdsOf
    (d : DirStream) :
    List Nat → Except ConversionError (List Pid)
| [] => .ok []
| entry :: entrys =>
    match d.buffer[entry]? with
    -- no reference leads out of the buffer
    | none => threadIdsOf d entrys
    | some entry =>
      if entry.type = .dir ∧ entry.name.all isDigit ∧
          0 < entry.name.length then
        match stoi entry.name with
        | .error e => .error e
        | .ok tid => (threadIdsOf d entrys).map (tid :: ·)
      else
        threadIdsOf d entrys

/-
  `get_thread_ids`, given the entries of the task directory,
  if it can be opened, and the capacity of the buffer.
-/
def getThreadIds
    (capacity : Nat)
    (task : Option (List Dirent)) :
    Except ConversionError (List Pid) :=
  match task with
  | none => .ok []
  | some entries =>
    let (entrys, d) := listEntries capacity (opendir entries)
    threadIdsOf d entrys

/- The thread that an entry is the directory of. -/
def threadId (entry : Dirent) : Option Pid :=
  if entry.type = .dir ∧ entry.name.all isDigit ∧
      0 < entry.name.length then
    some (decimal entry.name)
  else
    none

/- The threads are distinct and their ids fit a `pid_t`. -/
structure IsTaskDirectory (entries : List Dirent) : Prop where
  fits :
    ∀ entry ∈ entries, ∀ tid ∈ threadId entry, tid < 2 ^ 31
  distinct : (entries.filterMap threadId).Nodup

theorem digitValue_of_isDigit :
    ∀ c : Byte, isDigit c = true →
      digitValue 10 c = some (c.toNat - 0x30) := by
  decide +kernel

theorem writesNumber_decimal
    {name : StdString}
    (hDigits : name.all isDigit = true)
    (hName : 0 < name.length) :
    WritesNumber 10 name (decimal name) := by
  constructor
  case nonempty => exact List.length_pos_iff.mp hName
  case values =>
    refine ⟨name.map fun c => c.toNat - 0x30, ?_, ?_⟩
    · rw [List.map_map]
      apply List.map_congr_left
      intro c hc
      exact digitValue_of_isDigit c (List.all_eq_true.mp hDigits
        c hc)
    · rw [decimal, Nat.ofDigits_eq_foldr, List.foldr_reverse,
        List.foldl_map]
      congr 1
      funext n c
      exact Nat.add_comm _ _

/- What the loop reads through the references. -/
theorem threadIdsOf_eq
    {d : DirStream}
    {entrys : List Nat}
    (hFits :
      ∀ entry ∈ entrys, ∀ e ∈ d.buffer[entry]?,
        ∀ tid ∈ threadId e, tid < 2 ^ 31) :
    threadIdsOf d entrys =
      .ok (entrys.filterMap fun entry =>
        (d.buffer[entry]?).bind threadId) := by
  induction entrys with
  | nil => rfl
  | cons entry entrys ih =>
      have hRest := ih fun e he =>
        hFits e (List.mem_cons_of_mem _ he)
      have hHere := hFits entry List.mem_cons_self
      rw [threadIdsOf, List.filterMap_cons]
      cases hEntry : d.buffer[entry]? with
      | none => exact hRest
      | some e =>
          rw [Option.bind_some, threadId]
          dsimp only
          by_cases hThread :
            e.type = .dir ∧ e.name.all isDigit = true ∧
              0 < e.name.length
          · have hTid := hHere e hEntry (decimal e.name)
              (if_pos hThread)
            rw [if_pos hThread, if_pos hThread,
              stoi_of_writes
                (writesNumber_decimal hThread.2.1 hThread.2.2)
                (by exact_mod_cast hTid),
              hRest]
            rfl
          · rw [if_neg hThread, if_neg hThread]
            exact hRest

/- A list by its indices. -/
theorem filterMap_eq_range
    {α β : Type}
    (f : α → Option β)
    (l : List α) :
    l.filterMap f =
      (List.range l.length).filterMap fun i =>
        (l[i]?).bind f := by
  induction l with
  | nil => rfl
  | cons a l ih =>
      rw [List.length_cons, List.range_succ_eq_map,
        List.filterMap_cons, List.filterMap_cons,
        List.filterMap_map, ih]
      rfl

end PROCHelper

end AnDbg

------------------------------------------------------------
-- When All Threads Are Listed
------------------------------------------------------------

namespace AnDbg

namespace PROCHelper

open DirStream

/- Exactly the threads of the directory, each of them once. -/
def ListsThreads
    (capacity : Nat)
    (entries : List Dirent) : Prop :=
  ∃ tids,
    getThreadIds capacity (some entries) = .ok tids ∧
      tids.Nodup ∧
      ∀ tid, tid ∈ tids ↔ tid ∈ entries.filterMap threadId

/-
  Of two entries for the same place in the buffer, the first
  is no thread, and the second one is none either unless the
  first is one of the two that are left out.
-/
def KeepsPlaces
    (capacity : Nat)
    (entries : List Dirent) : Prop :=
  ∀ i j entry entry', i < j → i % capacity = j % capacity →
    entries[i]? = some entry → entries[j]? = some entry' →
    threadId entry = none ∧
      (isDots entry = true ∨ threadId entry' = none)

variable {capacity : Nat} {entries : List Dirent}

/- The thread that the entry at an index is of. -/
def threadAt (entries : List Dirent) (i : Nat) : Option Pid :=
  (entries[i]?).bind threadId

theorem mem_listed_iff
    {i : Nat} :
    i ∈ listed entries ↔
      ∃ entry, entries[i]? = some entry ∧
        isDots entry = false := by
  unfold listed isListed
  rw [List.mem_filter, List.mem_range]
  constructor
  · rintro ⟨hi, hDots⟩
    refine ⟨entries[i], List.getElem?_eq_getElem hi, ?_⟩
    rw [List.getElem?_eq_getElem hi] at hDots
    simpa using hDots
  · rintro ⟨entry, hEntry, hDots⟩
    refine ⟨(List.getElem?_eq_some_iff.mp hEntry).1, ?_⟩
    rw [hEntry]
    simpa using hDots

/- The entries that are left out are no threads. -/
theorem threadId_of_isDots
    {entry : Dirent}
    (hDots : isDots entry = true) :
    threadId entry = none := by
  unfold threadId
  apply if_neg
  rintro ⟨-, hDigits, -⟩
  unfold isDots at hDots
  rw [Bool.or_eq_true, beq_iff_eq, beq_iff_eq] at hDots
  rcases hDots with hName | hName
  · rw [hName] at hDigits
    exact absurd hDigits (by decide)
  · rw [hName] at hDigits
    exact absurd hDigits (by decide)

/- All threads, by the indices of the entries taken up. -/
theorem filterMap_threadId
    (entries : List Dirent) :
    entries.filterMap threadId =
      (listed entries).filterMap (threadAt entries) := by
  rw [filterMap_eq_range, listed, List.filterMap_filter]
  apply List.filterMap_congr
  intro i _
  unfold isListed threadAt
  cases hEntry : entries[i]? with
  | none => rfl
  | some entry =>
      cases hDots : isDots entry with
      | false => simp [hDots]
      | true => simp [hDots, threadId_of_isDots hDots]

/- What is found: the threads that lie in the places then. -/
theorem getThreadIds_eq
    (hCapacity : 0 < capacity)
    (hTask : IsTaskDirectory entries) :
    ∃ d,
      ReadUpTo capacity entries entries.length d ∧
        getThreadIds capacity (some entries) =
          .ok ((listed entries).filterMap fun i =>
            (d.buffer[i % capacity]?).bind threadId) := by
  rcases listEntries_spec hCapacity entries with
    ⟨d, hList, hRead⟩
  refine ⟨d, hRead, ?_⟩
  unfold getThreadIds
  dsimp only
  rw [hList]
  dsimp only
  rw [threadIdsOf_eq, List.filterMap_map]
  · rfl
  · intro entry hEntry e he
    rcases List.mem_map.mp hEntry with ⟨i, hi, rfl⟩
    rcases mem_listed_iff.mp hi with ⟨own, hOwn, -⟩
    have hLess := (List.getElem?_eq_some_iff.mp hOwn).1
    rcases hRead.place hCapacity hLess with
      ⟨j, -, hj, -, -, hHolds⟩
    rw [hHolds] at he
    exact hTask.fits e (List.mem_of_getElem? he)

/- Two indices in a list without repetitions. -/
theorem eq_of_nodup_filterMap
    {α : Type}
    {f : Nat → Option α}
    {l : List Nat}
    (hList : (l.filterMap f).Nodup)
    {i j : Nat}
    (hi : i ∈ l)
    (hj : j ∈ l)
    {a : α}
    (hia : f i = some a)
    (hja : f j = some a) :
    i = j := by
  by_contra hNe
  have hPairs := List.pairwise_filterMap.mp hList
  have hSymm :
      Std.Symm fun x y =>
        ∀ b, f x = some b → ∀ b', f y = some b' → b ≠ b' := by
    constructor
    intro x y hxy b hb b' hb' hSame
    exact hxy b' hb' b hb hSame.symm
  exact hPairs.forall hi hj hNe a hia a hja rfl

theorem listsThreads_of_keepsPlaces
    (hCapacity : 0 < capacity)
    (hTask : IsTaskDirectory entries)
    (hKeeps : KeepsPlaces capacity entries) :
    ListsThreads capacity entries := by
  rcases getThreadIds_eq hCapacity hTask with
    ⟨d, hRead, hFound⟩
  have hSame :
      ((listed entries).filterMap fun i =>
        (d.buffer[i % capacity]?).bind threadId) =
      entries.filterMap threadId := by
    rw [filterMap_threadId]
    apply List.filterMap_congr
    intro i hi
    rcases mem_listed_iff.mp hi with ⟨entry, hEntry, hDots⟩
    have hLess := (List.getElem?_eq_some_iff.mp hEntry).1
    rcases hRead.place hCapacity hLess with
      ⟨j, hij, hj, hPlace, -, hHolds⟩
    rw [hHolds, threadAt]
    rcases Nat.eq_or_lt_of_le hij with rfl | hLater
    · rfl
    · -- the entry was overwritten, and so was no thread
      have hOther := List.getElem?_eq_getElem hj
      rcases hKeeps i j entry entries[j] hLater hPlace.symm
        hEntry hOther with ⟨hOwn, hLeft | hNew⟩
      · rw [hDots] at hLeft
        cases hLeft
      · rw [hOther, hEntry, Option.bind_some,
          Option.bind_some, hOwn, hNew]
  rw [hSame] at hFound
  exact ⟨_, hFound, hTask.distinct, fun _ => Iff.rfl⟩

theorem keepsPlaces_of_listsThreads
    (hCapacity : 0 < capacity)
    (hTask : IsTaskDirectory entries)
    (hLists : ListsThreads capacity entries) :
    KeepsPlaces capacity entries := by
  rcases getThreadIds_eq hCapacity hTask with
    ⟨d, hRead, hFound⟩
  rcases hLists with ⟨tids, hTids, hNodup, hMem⟩
  rw [hFound] at hTids
  cases hTids
  have hDistinct := hTask.distinct
  rw [filterMap_threadId] at hDistinct hMem
  have hListed :
      ∀ {i entry tid}, entries[i]? = some entry →
        threadId entry = some tid → i ∈ listed entries := by
    intro i entry tid hEntry hThread
    refine mem_listed_iff.mpr ⟨entry, hEntry, ?_⟩
    cases hDots : isDots entry with
    | false => rfl
    | true =>
        rw [threadId_of_isDots hDots] at hThread
        cases hThread
  -- a thread whose place was taken is not found
  have hNone :
      ∀ {i j entry}, i < j → j < entries.length →
        i % capacity = j % capacity →
        entries[i]? = some entry → threadId entry = none := by
    intro i j entry hij hj hPlace hEntry
    by_contra hSome
    rcases Option.ne_none_iff_exists'.mp hSome with
      ⟨tid, hThread⟩
    have hiListed := hListed hEntry hThread
    have hAt : threadAt entries i = some tid := by
      rw [threadAt, hEntry, Option.bind_some, hThread]
    rcases List.mem_filterMap.mp ((hMem tid).mpr
      (List.mem_filterMap.mpr ⟨i, hiListed, hAt⟩)) with
      ⟨m, hm, hmThread⟩
    rcases mem_listed_iff.mp hm with ⟨own, hOwn, -⟩
    have hLess := (List.getElem?_eq_some_iff.mp hOwn).1
    rcases hRead.place hCapacity hLess with
      ⟨p, -, hp, -, hLast, hHolds⟩
    rw [hHolds] at hmThread
    rcases Option.bind_eq_some_iff.mp hmThread with
      ⟨other, hOther, hOtherThread⟩
    have hSame :=
      eq_of_nodup_filterMap hDistinct
        (hListed hOther hOtherThread) hiListed hmThread hAt
    have hGap : i + capacity ≤ j := by
      have hDvd := (Nat.modEq_iff_dvd' hij.le).mp hPlace
      have hLe := Nat.le_of_dvd (Nat.sub_pos_of_lt hij) hDvd
      omega
    omega
  intro i j entry entry' hij hPlace hEntry hEntry'
  have hj := (List.getElem?_eq_some_iff.mp hEntry').1
  refine ⟨hNone hij hj hPlace hEntry, ?_⟩
  by_contra hBoth
  rw [not_or, Bool.not_eq_true] at hBoth
  rcases hBoth with ⟨hDots, hSome⟩
  rcases Option.ne_none_iff_exists'.mp hSome with
    ⟨tid, hThread⟩
  rcases hRead.place hCapacity (by omega : i < entries.length)
    with ⟨p, -, hp, hpPlace, hLast, hHolds⟩
  have hjp : j = p := by
    rcases Nat.lt_trichotomy j p with hLess | hSame | hMore
    · have hNot :=
        hNone hLess hp (hPlace.symm.trans hpPlace.symm) hEntry'
      rw [hNot] at hThread
      cases hThread
    · exact hSame
    · have hMod : p % capacity = j % capacity :=
        hpPlace.trans hPlace
      have hDvd := (Nat.modEq_iff_dvd' hMore.le).mp hMod
      have hLe := Nat.le_of_dvd (Nat.sub_pos_of_lt hMore) hDvd
      omega
  subst hjp
  have hFoundThere :
      (d.buffer[i % capacity]?).bind threadId = some tid := by
    rw [hHolds, hEntry', Option.bind_some, hThread]
  have hTwice :=
    eq_of_nodup_filterMap hNodup
      (mem_listed_iff.mpr ⟨entry, hEntry, hDots⟩)
      (hListed hEntry' hThread) hFoundThere
      (by rw [← hPlace]; exact hFoundThere)
  omega

/-
  For every order of a task directory and every capacity of
  the buffer: the threads are listed, each once, exactly if
  no thread shares its place in the buffer with another entry,
  save those that are left out and come before it.
-/
theorem listsThreads_iff
    (hCapacity : 0 < capacity)
    (hTask : IsTaskDirectory entries) :
    ListsThreads capacity entries ↔
      KeepsPlaces capacity entries :=
  ⟨keepsPlaces_of_listsThreads hCapacity hTask,
    listsThreads_of_keepsPlaces hCapacity hTask⟩

/- A task directory with these subdirectories. -/
def taskEntries (names : List String) : List Dirent :=
  (["." , ".."] ++ names).map fun name => ⟨ascii name, .dir⟩

theorem isTaskDirectory_two :
    IsTaskDirectory (taskEntries ["7", "8"]) where
  fits := by decide
  distinct := by decide

theorem isTaskDirectory_three :
    IsTaskDirectory (taskEntries ["7", "8", "9"]) where
  fits := by decide
  distinct := by decide

theorem listsThreads_iff_two :
    ListsThreads 2 (taskEntries ["7", "8"]) ↔
      KeepsPlaces 2 (taskEntries ["7", "8"]) :=
  listsThreads_iff (by decide) isTaskDirectory_two

/- The third thread is put in the place of the first one. -/
theorem not_listsThreads_three :
    IsTaskDirectory (taskEntries ["7", "8", "9"]) ∧
      ¬ ListsThreads 2 (taskEntries ["7", "8", "9"]) := by
  refine ⟨isTaskDirectory_three, ?_⟩
  intro hLists
  have hKeeps := keepsPlaces_of_listsThreads (by decide)
    isTaskDirectory_three hLists
  have hNone := (hKeeps 2 4 ⟨ascii "7", .dir⟩
    ⟨ascii "9", .dir⟩ (by decide) rfl rfl rfl).1
  exact absurd hNone (by decide)

end PROCHelper

end AnDbg
