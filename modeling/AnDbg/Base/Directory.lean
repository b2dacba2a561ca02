import AnDbg.Base.Status
import Mathlib.Data.List.Basic

/-
  Reading a directory.

  `readdir` returns a reference into the buffer of the
  stream.  The buffer holds a number of entries; once they
  are all read, the next call overwrites it, from its
  beginning, with the entries that follow.  A reference is
  therefore a place of the buffer, and what it denotes is
  whatever lies there when it is read.

  Main declarations:
    * `AnDbg.DirStream.readdir`
    * `AnDbg.DirStream.listEntries`
    * `AnDbg.DirStream.ReadUpTo.readdir_lt`
    * `AnDbg.DirStream.listEntries_spec`
-/

------------------------------------------------------------
-- The Stream
------------------------------------------------------------

namespace AnDbg

/- `d_type`. -/
inductive DirentType
  | unknown
  | fifo
  | chr
  | dir
  | blk
  | reg
  | lnk
  | sock
deriving DecidableEq

/- `struct dirent`, with `d_name` up to its end. -/
structure Dirent where
  name : StdString
  type : DirentType

/-
  `DIR`: the entries of the directory, how many of them were
  loaded, the buffer, how many of its places the last load
  filled and how many of these were read.
-/
structure DirStream where
  entries : List Dirent
  loaded : Nat
  buffer : List Dirent
  filled : Nat
  next : Nat

namespace DirStream

/- `opendir`, for a directory with these entries. -/
def opendir (entries : List Dirent) : DirStream :=
  ⟨entries, 0, [], 0, 0⟩

def rewinddir (d : DirStream) : DirStream :=
  { d with loaded := 0, filled := 0, next := 0 }

/- `readdir`, with a buffer of the given capacity. -/
def readdir
    (capacity : Nat)
    (d : DirStream) : Option Nat × DirStream :=
  if d.next < d.filled then
    (some d.next, { d with next := d.next + 1 })
  else
    let batch := (d.entries.drop d.loaded).take capacity
    if batch = [] then
      (none, d)
    else
      (some 0,
        { d with
          loaded := d.loaded + batch.length
          buffer := batch ++ d.buffer.drop batch.length
          filled := batch.length
          next := 1 })

/- How many calls of `readdir` have an entry left. -/
def remaining (d : DirStream) : Nat :=
  (d.filled - d.next) + (d.entries.length - d.loaded)

theorem remaining_readdir_lt
    {capacity entry : Nat}
    {d d' : DirStream}
    (hRead : readdir capacity d = (some entry, d')) :
    d'.remaining < d.remaining := by
  unfold readdir at hRead
  split at hRead
  next hNext =>
    cases hRead
    unfold remaining
    dsimp only
    omega
  next =>
    dsimp only at hRead
    split at hRead
    next => cases hRead
    next hBatch =>
      have hLength := List.length_pos_iff.mpr hBatch
      cases hRead
      unfold remaining
      rw [List.length_take, List.length_drop] at hLength ⊢
      dsimp only
      omega

/- The names that `list_entries` leaves out. -/
def isDots (entry : Dirent) : Bool :=
  entry.name == ascii "." || entry.name == ascii ".."

/- The loop of `list_entries`. -/
def collect
    (capacity : Nat)
    (d : DirStream) : List Nat × DirStream :=
  match _hRead : readdir capacity d with
  | (none, d) => ([], d)
  | (some entry, d) =>
    let (entries, last) := collect capacity d
    -- the name is looked at before the next `readdir`
    if (d.buffer[entry]?).any isDots then
      (entries, last)
    else
      (entry :: entries, last)
termination_by d.remaining
decreasing_by exact remaining_readdir_lt _hRead

/- `list_entries`: the references, and the stream then. -/
def listEntries
    (capacity : Nat)
    (d : DirStream) : List Nat × DirStream :=
  collect capacity d.rewinddir

theorem collect_of_none
    {capacity : Nat}
    {d d' : DirStream}
    (hRead : readdir capacity d = (none, d')) :
    collect capacity d = ([], d') := by
  rw [collect]
  split
  next d₁ hOther =>
    rw [hRead] at hOther
    cases hOther
    rfl
  next hOther =>
    rw [hRead] at hOther
    cases hOther

theorem collect_of_some
    {capacity entry : Nat}
    {d d' : DirStream}
    (hRead : readdir capacity d = (some entry, d')) :
    collect capacity d =
      (if (d'.buffer[entry]?).any isDots then
        (collect capacity d').1
      else
        entry :: (collect capacity d').1,
      (collect capacity d').2) := by
  rw [collect]
  split
  next hOther =>
    rw [hRead] at hOther
    cases hOther
  next entry₁ d₁ hOther =>
    rw [hRead] at hOther
    cases hOther
    dsimp only
    split
    next => rfl
    next => rfl

end DirStream

end AnDbg

------------------------------------------------------------
-- What The Buffer Holds
------------------------------------------------------------

namespace AnDbg

namespace DirStream

variable {capacity i : Nat}
variable {entries : List Dirent}
variable {d : DirStream}

/-
  The first `i` entries were read.  Whole loads begin where
  the number of loaded entries is a multiple of the
  capacity, and the places hold the last entries loaded.
-/
structure ReadUpTo
    (capacity : Nat)
    (entries : List Dirent)
    (i : Nat)
    (d : DirStream) : Prop where
  same : d.entries = entries
  next_le : d.next ≤ d.filled
  filled_le : d.filled ≤ d.loaded
  read : i + d.filled = d.loaded + d.next
  loaded_le : d.loaded ≤ entries.length
  filled_le_capacity : d.filled ≤ capacity
  start : (d.loaded - d.filled) % capacity = 0
  whole :
    d.loaded = entries.length ∨ d.loaded % capacity = 0
  holds :
    ∀ j < d.loaded, d.loaded ≤ j + capacity →
      d.buffer[j % capacity]? = entries[j]?
  length : d.buffer.length = min d.loaded capacity

theorem readUpTo_opendir
    (capacity : Nat)
    (entries : List Dirent) :
    ReadUpTo capacity entries 0
      (rewinddir (opendir entries)) where
  same := rfl
  next_le := Nat.le_refl 0
  filled_le := Nat.le_refl 0
  read := rfl
  loaded_le := Nat.zero_le _
  filled_le_capacity := Nat.zero_le _
  start := Nat.zero_mod _
  whole := .inr (Nat.zero_mod _)
  holds j hj := absurd hj (Nat.not_lt_zero j)
  length := (Nat.zero_min capacity).symm

theorem zero_or_le_of_mod
    (hAligned : i % capacity = 0) :
    i = 0 ∨ capacity ≤ i := by
  rcases Nat.eq_zero_or_pos i with hZero | hPos
  · exact .inl hZero
  · exact .inr
      (Nat.le_of_dvd hPos (Nat.dvd_of_mod_eq_zero hAligned))

/- The entry that was read last is still in its place. -/
theorem ReadUpTo.current
    (hRead : ReadUpTo capacity entries (i + 1) d)
    (hNext : 0 < d.next) :
    d.buffer[i % capacity]? = entries[i]? := by
  have hIndex := hRead.read
  have hNextLe := hRead.next_le
  have hFilled := hRead.filled_le_capacity
  exact hRead.holds i (by omega) (by omega)

/- A load puts the entries that follow into the buffer. -/
theorem ReadUpTo.holds_load
    (hRead : ReadUpTo capacity entries i d)
    (hSpent : d.next = d.filled)
    (hMore : i < entries.length)
    {j : Nat}
    (hj :
      j < i + ((entries.drop i).take capacity).length)
    (hLast :
      i + ((entries.drop i).take capacity).length ≤
        j + capacity) :
    ((entries.drop i).take capacity ++
        d.buffer.drop
          ((entries.drop i).take capacity).length)[
        j % capacity]? =
      entries[j]? := by
  have hIndex := hRead.read
  have hAt : d.loaded = i := by omega
  have hAligned : i % capacity = 0 := by
    rcases hRead.whole with hEnd | hWhole
    · omega
    · rwa [hAt] at hWhole
  have hLength :
      ((entries.drop i).take capacity).length =
        min capacity (entries.length - i) := by
    rw [List.length_take, List.length_drop]
  rw [hLength] at hj hLast
  rcases Nat.lt_or_ge j i with hOld | hNew
  · -- what was loaded before lies behind the new entries
    have hFull : capacity ≤ i := by
      rcases zero_or_le_of_mod hAligned with hZero | hFull
      · omega
      · exact hFull
    have hPlace : j % capacity = j - (i - capacity) := by
      have hBlock : (i - capacity) % capacity = 0 := by
        rw [← Nat.mod_eq_sub_mod hFull]
        exact hAligned
      have hSplit : j = (i - capacity) + (j - (i - capacity)) :=
        by omega
      rw [hSplit, Nat.add_mod, hBlock, Nat.zero_add,
        Nat.mod_mod, Nat.mod_eq_of_lt (by omega)]
      omega
    rw [List.getElem?_append_right (by omega),
      List.getElem?_drop, hLength, ← hRead.holds j (by omega)
        (by omega)]
    congr 1
    omega
  · -- a new entry lies as far in as it is behind the first
    have hPlace : j % capacity = j - i := by
      have hSplit : j = i + (j - i) := by omega
      rw [hSplit, Nat.add_mod, hAligned, Nat.zero_add,
        Nat.mod_mod, Nat.mod_eq_of_lt (by omega)]
      omega
    rw [hPlace, List.getElem?_append_left (by omega),
      List.getElem?_take, if_pos (by omega),
      List.getElem?_drop]
    congr 1
    omega

/- One more entry is read. -/
theorem ReadUpTo.readdir_lt
    (hCapacity : 0 < capacity)
    (hRead : ReadUpTo capacity entries i d)
    (hMore : i < entries.length) :
    ∃ d',
      readdir capacity d = (some (i % capacity), d') ∧
        ReadUpTo capacity entries (i + 1) d' ∧
        d'.buffer[i % capacity]? = entries[i]? := by
  have hIndex := hRead.read
  have hNextLe := hRead.next_le
  have hFilledLe := hRead.filled_le
  unfold readdir
  split
  next hNext =>
    have hPlace : i % capacity = d.next := by
      have hFilled := hRead.filled_le_capacity
      have hSplit : i = (d.loaded - d.filled) + d.next := by
        omega
      rw [hSplit, Nat.add_mod, hRead.start, Nat.zero_add,
        Nat.mod_mod, Nat.mod_eq_of_lt (by omega)]
    have hAfter :
        ReadUpTo capacity entries (i + 1)
          { d with next := d.next + 1 } :=
      { hRead with
        next_le := hNext
        read := by
          dsimp only
          omega }
    refine ⟨_, by rw [hPlace], hAfter, ?_⟩
    exact hAfter.current (Nat.succ_pos _)
  next hSpent =>
    have hSame : d.next = d.filled := by omega
    have hAt : d.loaded = i := by omega
    have hLength :
        ((entries.drop i).take capacity).length =
          min capacity (entries.length - i) := by
      rw [List.length_take, List.length_drop]
    have hBatch : (entries.drop i).take capacity ≠ [] := by
      rw [← List.length_pos_iff, hLength]
      omega
    have hAligned : i % capacity = 0 := by
      rcases hRead.whole with hEnd | hWhole
      · omega
      · rwa [hAt] at hWhole
    rw [hRead.same, hAt]
    dsimp only
    rw [if_neg hBatch]
    refine ⟨_, by rw [hAligned], ?afterwards, ?_⟩
    case afterwards =>
      constructor
      case same => rfl
      case next_le =>
        dsimp only
        omega
      case filled_le =>
        dsimp only
        omega
      case read =>
        dsimp only
        omega
      case loaded_le =>
        dsimp only
        omega
      case filled_le_capacity =>
        dsimp only
        omega
      case start =>
        dsimp only
        rw [Nat.add_sub_cancel]
        exact hAligned
      case whole =>
        dsimp only
        rcases Nat.le_total capacity (entries.length - i) with
          hFull | hRest
        · right
          rw [hLength, Nat.min_eq_left hFull, Nat.add_mod_right]
          exact hAligned
        · left
          omega
      case holds =>
        intro j hj hLast
        exact hRead.holds_load hSame hMore hj hLast
      case length =>
        have hBefore := hRead.length
        have hStart := zero_or_le_of_mod hAligned
        dsimp only
        rw [List.length_append, List.length_drop, hBefore,
          hLength, hAt]
        omega
    · have hHolds := hRead.holds_load hSame hMore (j := i)
        (by omega) (by omega)
      exact hHolds

/- At the end there is nothing to read. -/
theorem ReadUpTo.readdir_end
    (hRead : ReadUpTo capacity entries i d)
    (hEnd : i = entries.length) :
    readdir capacity d = (none, d) := by
  have hIndex := hRead.read
  have hNextLe := hRead.next_le
  have hLoaded := hRead.loaded_le
  unfold readdir
  rw [if_neg (by omega), hRead.same,
    List.drop_eq_nil_of_le (by omega), List.take_nil]
  rfl

end DirStream

end AnDbg

------------------------------------------------------------
-- What Is Listed
------------------------------------------------------------

namespace AnDbg

namespace DirStream

variable {capacity i : Nat}
variable {entries : List Dirent}
variable {d : DirStream}

/- Whether `list_entries` takes up the entry at an index. -/
def isListed (entries : List Dirent) (i : Nat) : Bool :=
  !(entries[i]?).any isDots

/- The indices of the entries that it takes up. -/
def listed (entries : List Dirent) : List Nat :=
  (List.range entries.length).filter (isListed entries)

/- A whole listing, from where it stands. -/
theorem collect_spec
    (hCapacity : 0 < capacity)
    {n : Nat}
    (hRest : i + n = entries.length)
    (hRead : ReadUpTo capacity entries i d) :
    ∃ last,
      collect capacity d =
          (((List.range' i n).filter (isListed entries)).map
            (· % capacity), last) ∧
        ReadUpTo capacity entries entries.length last := by
  induction n generalizing i d with
  | zero =>
      have hEnd : i = entries.length := hRest
      refine ⟨d, ?_, hEnd ▸ hRead⟩
      rw [collect_of_none (hRead.readdir_end hEnd)]
      rfl
  | succ n ih =>
      rcases hRead.readdir_lt hCapacity (by omega) with
        ⟨d', hReaddir, hAfter, hCurrent⟩
      rcases ih (by omega) hAfter with ⟨last, hCollect, hLast⟩
      refine ⟨last, ?_, hLast⟩
      rw [collect_of_some hReaddir, hCollect, hCurrent,
        List.range'_succ, List.filter_cons, isListed]
      cases (entries[i]?).any isDots
      case false => rfl
      case true => rfl

theorem listEntries_spec
    (hCapacity : 0 < capacity)
    (entries : List Dirent) :
    ∃ last,
      listEntries capacity (opendir entries) =
          ((listed entries).map (· % capacity), last) ∧
        ReadUpTo capacity entries entries.length last := by
  have hStart := readUpTo_opendir capacity entries
  rcases collect_spec hCapacity (Nat.zero_add _) hStart with
    ⟨last, hCollect, hLast⟩
  refine ⟨last, ?_, hLast⟩
  rw [listed, List.range_eq_range']
  exact hCollect

/-
  At the end of the listing each place holds the last of the
  entries that it held.
-/
theorem ReadUpTo.place
    (hCapacity : 0 < capacity)
    (hRead : ReadUpTo capacity entries entries.length d)
    (hi : i < entries.length) :
    ∃ j, i ≤ j ∧ j < entries.length ∧
      j % capacity = i % capacity ∧
      entries.length ≤ j + capacity ∧
      d.buffer[i % capacity]? = entries[j]? := by
  have hIndex := hRead.read
  have hNextLe := hRead.next_le
  have hLoadedLe := hRead.loaded_le
  have hLoaded : d.loaded = entries.length := by omega
  have hDivision :=
    Nat.div_add_mod (entries.length - 1 - i) capacity
  have hMod :=
    Nat.mod_lt (entries.length - 1 - i) hCapacity
  generalize (entries.length - 1 - i) / capacity = q
    at hDivision
  generalize (entries.length - 1 - i) % capacity = r
    at hDivision hMod
  have hSame : (i + capacity * q) % capacity = i % capacity :=
    Nat.add_mul_mod_self_left _ _ _
  have hHolds := hRead.holds (i + capacity * q) (by omega)
    (by omega)
  rw [hSame] at hHolds
  exact ⟨i + capacity * q, by omega, by omega, hSame, by omega,
    hHolds⟩

end DirStream

end AnDbg
