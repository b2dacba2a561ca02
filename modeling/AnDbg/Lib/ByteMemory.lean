import AnDbg.Lib.LittleEndian
import Mathlib.Data.Set.Insert
import Mathlib.Tactic.Ring

/-
  Byte-addressed memory that wraps at the end of its address
  space, and memory seen as a base image with some aligned
  cells overlaid by one fixed pattern.

  `overlay` says where the pattern lies by a set of cell
  addresses, so writing the pattern inserts an address and
  writing the base bytes back erases one.  Aligned cells are
  equal or disjoint, which is all these rules rest on.

  Main declarations:
    * `ByteMemory.read` and `ByteMemory.write`
    * `ByteMemory.tile` and `ByteMemory.write_tile`
    * `ByteMemory.covers_iff_cellOf_eq`
    * `ByteMemory.overlay`
    * `ByteMemory.write_pattern_overlay`
    * `ByteMemory.write_base_overlay`
    * `ByteMemory.read_overlay`
-/

------------------------------------------------------------
-- Reading And Writing
------------------------------------------------------------

namespace ByteMemory

variable {w : Nat}

/- A memory gives every address its byte. -/
abbrev Memory (w : Nat) := BitVec w → Byte

/- The `n` bytes from an address on. -/
def read
    (m : Memory w)
    (a : BitVec w)
    (n : Nat) : List Byte :=
  (List.range n).map fun i => m (a + BitVec.ofNat w i)

/- How far `x` lies after `a`, going round at the end. -/
def offset (a x : BitVec w) : Nat :=
  (x - a).toNat

/- Store bytes from an address on. -/
def write
    (m : Memory w)
    (a : BitVec w)
    (bs : List Byte) : Memory w :=
  fun x => (bs[offset a x]?).getD (m x)

/- The `n` bytes from `a` on include the one at `x`. -/
def Covers (a : BitVec w) (n : Nat) (x : BitVec w) : Prop :=
  offset a x < n

instance (a : BitVec w) (n : Nat) (x : BitVec w) :
    Decidable (Covers a n x) := by
  unfold Covers
  infer_instance

@[simp] theorem length_read
    (m : Memory w)
    (a : BitVec w)
    (n : Nat) :
    (read m a n).length = n := by
  simp [read]

theorem add_offset
    (a x : BitVec w) :
    a + BitVec.ofNat w (offset a x) = x := by
  rw [offset, BitVec.ofNat_toNat, BitVec.setWidth_eq,
    BitVec.add_comm, BitVec.sub_add_cancel]

theorem offset_add
    (a : BitVec w)
    {i : Nat}
    (hi : i < 2 ^ w) :
    offset a (a + BitVec.ofNat w i) = i := by
  rw [offset, BitVec.add_comm, BitVec.add_sub_cancel,
    BitVec.toNat_ofNat, Nat.mod_eq_of_lt hi]

theorem offset_of_le
    {a x : BitVec w}
    (hLe : a.toNat ≤ x.toNat) :
    offset a x = x.toNat - a.toNat :=
  BitVec.toNat_sub_of_le hLe

/- The byte of a read at `a` that lies at `x`. -/
theorem getElem?_read
    (m : Memory w)
    {a x : BitVec w}
    {n : Nat}
    (hCovers : Covers a n x) :
    (read m a n)[offset a x]? = some (m x) := by
  rw [read, List.getElem?_map, List.getElem?_range hCovers,
    Option.map_some, add_offset]

/- A write changes nothing beyond the bytes it stores. -/
theorem write_of_not_covers
    (m : Memory w)
    {a x : BitVec w}
    {bs : List Byte}
    (hOutside : ¬ Covers a bs.length x) :
    write m a bs x = m x := by
  have hIndex : bs.length ≤ offset a x := by
    simpa [Covers] using hOutside
  rw [write, List.getElem?_eq_none hIndex, Option.getD_none]

/- Writing back what was read restores it, there alone. -/
theorem write_read
    (m m' : Memory w)
    (a : BitVec w)
    (n : Nat)
    (x : BitVec w) :
    write m' a (read m a n) x =
      if Covers a n x then m x else m' x := by
  split
  next hCovers =>
    rw [write, getElem?_read m hCovers, Option.getD_some]
  next hOutside =>
    apply write_of_not_covers
    rw [length_read]
    exact hOutside

/- Writes to bytes that are apart can be swapped. -/
theorem write_comm
    (m : Memory w)
    {a b : BitVec w}
    {bs cs : List Byte}
    (hApart :
      ∀ x, Covers a bs.length x → ¬ Covers b cs.length x) :
    write (write m a bs) b cs = write (write m b cs) a bs := by
  funext x
  by_cases hFirst : Covers a bs.length x
  · have hSecond := hApart x hFirst
    rw [write_of_not_covers _ hSecond]
    unfold write
    rw [List.getElem?_eq_getElem hFirst]
    rfl
  · rw [write_of_not_covers _ hFirst]
    by_cases hSecond : Covers b cs.length x
    · unfold write
      rw [List.getElem?_eq_getElem hSecond]
      rfl
    · rw [write_of_not_covers _ hSecond,
        write_of_not_covers _ hSecond,
        write_of_not_covers _ hFirst]

/-
  A write stores its bytes at their places and leaves all
  other bytes alone, and only a write does.
-/
theorem eq_write_iff
    {m m' : Memory w}
    {a : BitVec w}
    {bs : List Byte}
    (hLength : bs.length ≤ 2 ^ w) :
    m' = write m a bs ↔
      (∀ i < bs.length,
          bs[i]? = some (m' (a + BitVec.ofNat w i))) ∧
        ∀ x, ¬ Covers a bs.length x → m' x = m x := by
  constructor
  · rintro rfl
    refine ⟨?_, fun x hx => write_of_not_covers m hx⟩
    intro i hi
    unfold write
    rw [offset_add a (by omega), List.getElem?_eq_getElem hi,
      Option.getD_some]
  · rintro ⟨hInside, hOutside⟩
    funext x
    by_cases hx : Covers a bs.length x
    · have hByte := hInside (offset a x) hx
      rw [add_offset] at hByte
      unfold write
      rw [hByte, Option.getD_some]
    · rw [hOutside x hx, write_of_not_covers m hx]

end ByteMemory

------------------------------------------------------------
-- Consecutive Accesses
------------------------------------------------------------

namespace ByteMemory

variable {w : Nat}

/- A read goes on where a shorter one ends. -/
theorem read_add
    (m : Memory w)
    (a : BitVec w)
    (n c : Nat) :
    read m a (n + c) =
      read m a n ++ read m (a + BitVec.ofNat w n) c := by
  unfold read
  rw [List.range_add, List.map_append, List.map_map]
  congr 1
  apply List.map_congr_left
  intro i _
  rw [Function.comp_apply, BitVec.ofNat_add, BitVec.add_assoc]

theorem take_read
    (m : Memory w)
    (a : BitVec w)
    {n c : Nat}
    (hLe : c ≤ n) :
    (read m a n).take c = read m a c := by
  unfold read
  rw [← List.map_take, List.take_range, Nat.min_eq_left hLe]

/- A byte of a read is the byte at its place. -/
theorem getElem?_read_of_lt
    (m : Memory w)
    (a : BitVec w)
    {n i : Nat}
    (hLt : i < n) :
    (read m a n)[i]? = some (m (a + BitVec.ofNat w i)) := by
  unfold read
  rw [List.getElem?_map, List.getElem?_range hLt,
    Option.map_some]

/- An offset from further on, going round at the end. -/
theorem offset_add_left
    (a x : BitVec w)
    {j : Nat}
    (hLe : j ≤ 2 ^ w) :
    offset (a + BitVec.ofNat w j) x =
      if j ≤ offset a x then offset a x - j
      else 2 ^ w - j + offset a x := by
  have hx : offset a x < 2 ^ w := (x - a).isLt
  have hSub :
      x - (a + BitVec.ofNat w j) =
        x - a - BitVec.ofNat w j := by
    simp only [BitVec.sub_eq_add_neg, BitVec.neg_add,
      BitVec.add_assoc]
  unfold offset at hx ⊢
  rw [hSub, BitVec.toNat_sub, BitVec.toNat_ofNat]
  rcases Nat.lt_or_eq_of_le hLe with hLt | hEq
  · rw [Nat.mod_eq_of_lt hLt]
    split
    next hBelow =>
      have hSplit :
          2 ^ w - j + (x - a).toNat =
            (x - a).toNat - j + 2 ^ w := by
        omega
      rw [hSplit, Nat.add_mod_right, Nat.mod_eq_of_lt (by omega)]
    next hAbove => rw [Nat.mod_eq_of_lt (by omega)]
  · rw [hEq, Nat.mod_self, if_neg (Nat.not_le.mpr hx),
      Nat.sub_zero, Nat.add_mod_left, Nat.mod_eq_of_lt hx,
      Nat.sub_self, Nat.zero_add]

/- The same bytes stored `n` times, one after the other. -/
def tile
    (m : Memory w)
    (a : BitVec w)
    (bs : List Byte)
    (n : Nat) : Memory w :=
  fun x =>
    if offset a x < bs.length * n then
      (bs[offset a x % bs.length]?).getD (m x)
    else m x

theorem tile_zero
    (m : Memory w)
    (a : BitVec w)
    (bs : List Byte) :
    tile m a bs 0 = m := by
  funext x
  unfold tile
  rw [Nat.mul_zero, if_neg (Nat.not_lt_zero _)]

/- Storing them behind the last time. -/
theorem write_tile
    (m : Memory w)
    (a : BitVec w)
    (bs : List Byte)
    (n : Nat)
    (hEnd : bs.length * (n + 1) ≤ 2 ^ w) :
    write (tile m a bs n)
        (a + BitVec.ofNat w (bs.length * n)) bs =
      tile m a bs (n + 1) := by
  have hSucc : bs.length * (n + 1) = bs.length * n + bs.length :=
    Nat.mul_succ _ _
  funext x
  unfold write tile
  rw [offset_add_left a x (by omega)]
  by_cases hBefore : bs.length * n ≤ offset a x
  · rw [if_pos hBefore, if_neg (Nat.not_lt.mpr hBefore)]
    by_cases hLast : offset a x < bs.length * (n + 1)
    · have hMod :
          offset a x % bs.length =
            offset a x - bs.length * n := by
        have hSplit :
            offset a x =
              offset a x - bs.length * n + bs.length * n := by
          omega
        conv_lhs => rw [hSplit]
        rw [Nat.add_mul_mod_self_left,
          Nat.mod_eq_of_lt (by omega)]
      rw [if_pos hLast, hMod]
    · rw [if_neg hLast, List.getElem?_eq_none (by omega),
        Option.getD_none]
  · have hLt : offset a x < bs.length * n :=
      Nat.not_le.mp hBefore
    rw [if_neg hBefore, if_pos hLt, if_pos (by omega),
      List.getElem?_eq_none (by omega), Option.getD_none]

end ByteMemory

------------------------------------------------------------
-- Aligned Cells
------------------------------------------------------------

namespace ByteMemory

variable {w c : Nat}

/- An address at which a cell of `c` bytes may begin. -/
def Aligned (c : Nat) (a : BitVec w) : Prop :=
  a.toNat % c = 0

instance (c : Nat) (a : BitVec w) :
    Decidable (Aligned c a) := by
  unfold Aligned
  infer_instance

/- The first address of the cell of `c` bytes around `x`. -/
def cellOf (c : Nat) (x : BitVec w) : BitVec w :=
  x - BitVec.ofNat w (x.toNat % c)

theorem toNat_cellOf
    (c : Nat)
    (x : BitVec w) :
    (cellOf c x).toNat = x.toNat - x.toNat % c := by
  have hLe : x.toNat % c ≤ x.toNat := Nat.mod_le _ _
  have hLt : x.toNat < 2 ^ w := x.isLt
  have hSmall : x.toNat % c % 2 ^ w = x.toNat % c :=
    Nat.mod_eq_of_lt (by omega)
  have hOffset :
      (BitVec.ofNat w (x.toNat % c)).toNat =
        x.toNat % c := by
    rw [BitVec.toNat_ofNat, hSmall]
  have hNoBorrow : BitVec.ofNat w (x.toNat % c) ≤ x := by
    rw [BitVec.le_def, hOffset]
    exact hLe
  rw [cellOf, BitVec.toNat_sub_of_le hNoBorrow, hOffset]

/- An aligned cell ends within the address space. -/
theorem Aligned.add_le
    {a : BitVec w}
    (hAligned : Aligned c a)
    (hDvd : c ∣ 2 ^ w) :
    a.toNat + c ≤ 2 ^ w := by
  rcases Nat.dvd_of_mod_eq_zero hAligned with ⟨k, hk⟩
  rcases hDvd with ⟨n, hn⟩
  have hLt : a.toNat < 2 ^ w := a.isLt
  rw [hk, hn] at hLt
  have hSucc : k + 1 ≤ n := Nat.lt_of_mul_lt_mul_left hLt
  calc
    a.toNat + c = c * (k + 1) := by rw [hk]; ring
    _ ≤ c * n := Nat.mul_le_mul_left c hSucc
    _ = 2 ^ w := hn.symm

theorem Aligned.add
    {a b : BitVec w}
    (hAligned : Aligned c a)
    (hAligned' : Aligned c b)
    (hDvd : c ∣ 2 ^ w) :
    Aligned c (a + b) := by
  unfold Aligned at *
  rw [BitVec.toNat_add, Nat.mod_mod_of_dvd _ hDvd, Nat.add_mod,
    hAligned, hAligned', Nat.add_zero, Nat.zero_mod]

/- An aligned cell covers the addresses whose cell it is. -/
theorem covers_iff_cellOf_eq
    {a : BitVec w}
    (hAligned : Aligned c a)
    (hPos : 0 < c)
    (hDvd : c ∣ 2 ^ w)
    (x : BitVec w) :
    Covers a c x ↔ cellOf c x = a := by
  have hEnd := hAligned.add_le hDvd
  have hx : x.toNat < 2 ^ w := x.isLt
  constructor
  · intro hCovers
    have hLe : a.toNat ≤ x.toNat := by
      by_contra hBelow
      rw [Covers, offset, BitVec.toNat_sub,
        Nat.mod_eq_of_lt (by omega)] at hCovers
      omega
    rw [Covers, offset_of_le hLe] at hCovers
    have hSplit : x.toNat = x.toNat - a.toNat + a.toNat := by
      omega
    have hMod : x.toNat % c = x.toNat - a.toNat := by
      conv_lhs => rw [hSplit]
      rw [Nat.add_mod, hAligned, Nat.add_zero, Nat.mod_mod,
        Nat.mod_eq_of_lt hCovers]
    apply BitVec.eq_of_toNat_eq
    rw [toNat_cellOf, hMod]
    omega
  · intro hCell
    have hToNat := toNat_cellOf c x
    rw [hCell] at hToNat
    have hMod : x.toNat % c < c := Nat.mod_lt _ hPos
    have hModLe : x.toNat % c ≤ x.toNat := Nat.mod_le _ _
    rw [Covers, offset_of_le (by omega)]
    omega

end ByteMemory

------------------------------------------------------------
-- Overlaid Cells
------------------------------------------------------------

namespace ByteMemory

variable {w c : Nat}
variable {base : Memory w} {cells : Set (BitVec w)}
variable {pattern : List Byte} {a : BitVec w}

open Classical in
/-
  The base image with the pattern laid over every cell whose
  address is in the set.
-/
noncomputable def overlay
    (c : Nat)
    (base : Memory w)
    (cells : Set (BitVec w))
    (pattern : List Byte) : Memory w :=
  fun x =>
    if cellOf c x ∈ cells then
      (pattern[offset (cellOf c x) x]?).getD (base x)
    else
      base x

@[simp] theorem overlay_empty
    (c : Nat)
    (base : Memory w)
    (pattern : List Byte) :
    overlay c base ∅ pattern = base := by
  funext x
  simp [overlay]

/- Overlaying leaves the bytes outside its cells alone. -/
theorem overlay_of_cellOf_notMem
    {x : BitVec w}
    (hCell : cellOf c x ∉ cells) :
    overlay c base cells pattern x = base x := by
  simp [overlay, hCell]

/- A byte depends on whether its own cell is overlaid. -/
theorem overlay_congr
    {cells' : Set (BitVec w)}
    {x : BitVec w}
    (hCell : cellOf c x ∈ cells ↔ cellOf c x ∈ cells') :
    overlay c base cells pattern x =
      overlay c base cells' pattern x := by
  by_cases hMem : cellOf c x ∈ cells
  · simp [overlay, hMem, hCell.mp hMem]
  · simp [overlay, hMem, mt hCell.mpr hMem]

/- Writing the pattern at a cell overlays it. -/
theorem write_pattern_overlay
    (hAligned : Aligned c a)
    (hPos : 0 < c)
    (hDvd : c ∣ 2 ^ w)
    (hLength : pattern.length = c) :
    write (overlay c base cells pattern) a pattern =
      overlay c base (insert a cells) pattern := by
  funext x
  by_cases hCell : cellOf c x = a
  · have hCovers : Covers a c x :=
      (covers_iff_cellOf_eq hAligned hPos hDvd x).mpr hCell
    have hIndex : offset a x < pattern.length := by
      rw [hLength]
      exact hCovers
    simp [write, overlay, hCell, hIndex]
  · have hOutside : ¬ Covers a pattern.length x := by
      rw [hLength, covers_iff_cellOf_eq hAligned hPos hDvd]
      exact hCell
    rw [write_of_not_covers _ hOutside]
    exact overlay_congr (by simp [hCell])

/- Writing the base bytes back at a cell uncovers it. -/
theorem write_base_overlay
    (hAligned : Aligned c a)
    (hPos : 0 < c)
    (hDvd : c ∣ 2 ^ w) :
    write (overlay c base cells pattern) a (read base a c) =
      overlay c base (cells \ {a}) pattern := by
  funext x
  by_cases hCell : cellOf c x = a
  · have hCovers : Covers a c x :=
      (covers_iff_cellOf_eq hAligned hPos hDvd x).mpr hCell
    rw [write, getElem?_read base hCovers]
    simp [overlay, hCell]
  · have hOutside : ¬ Covers a (read base a c).length x := by
      rw [length_read, covers_iff_cellOf_eq hAligned hPos hDvd]
      exact hCell
    rw [write_of_not_covers _ hOutside]
    exact overlay_congr (by simp [hCell])

/- Different aligned cells have no byte in common. -/
theorem apart_of_aligned
    {b : BitVec w}
    (hAligned : Aligned c a)
    (hAligned' : Aligned c b)
    (hPos : 0 < c)
    (hDvd : c ∣ 2 ^ w)
    (hNe : a ≠ b)
    (x : BitVec w)
    (hCovers : Covers a c x) :
    ¬ Covers b c x := by
  intro hCovers'
  have hCell :=
    (covers_iff_cellOf_eq hAligned hPos hDvd x).mp hCovers
  have hCell' :=
    (covers_iff_cellOf_eq hAligned' hPos hDvd x).mp hCovers'
  exact hNe (hCell.symm.trans hCell')

/- Two memories that agree on a cell read the same there. -/
theorem read_congr
    {m m' : Memory w}
    (hAgree :
      ∀ i < c, m (a + BitVec.ofNat w i) =
        m' (a + BitVec.ofNat w i)) :
    read m a c = read m' a c := by
  apply List.map_congr_left
  intro i hi
  exact hAgree i (List.mem_range.mp hi)

/- The `i`-th address of an aligned cell lies in that cell. -/
theorem cellOf_add
    (hAligned : Aligned c a)
    (hDvd : c ∣ 2 ^ w)
    {i : Nat}
    (hi : i < c) :
    cellOf c (a + BitVec.ofNat w i) = a := by
  have hEnd := hAligned.add_le hDvd
  apply (covers_iff_cellOf_eq hAligned (by omega) hDvd _).mp
  rw [Covers, offset_add a (by omega)]
  exact hi

/- A cell reads as the pattern or as the base has it. -/
theorem read_overlay
    (hAligned : Aligned c a)
    (hDvd : c ∣ 2 ^ w)
    (hLength : pattern.length = c) :
    (a ∈ cells →
      read (overlay c base cells pattern) a c = pattern) ∧
    (a ∉ cells →
      read (overlay c base cells pattern) a c =
        read base a c) := by
  constructor
  · intro hCell
    have hEnd := hAligned.add_le hDvd
    apply List.ext_getElem (by simp [hLength])
    intro i hi hi'
    have hLt : i < c := by rw [← hLength]; exact hi'
    have hOffset : offset a (a + BitVec.ofNat w i) = i :=
      offset_add a (by omega)
    simp [read, overlay, cellOf_add hAligned hDvd hLt, hCell,
      hOffset, hi']
  · intro hCell
    apply read_congr
    intro i hi
    apply overlay_of_cellOf_notMem
    rwa [cellOf_add hAligned hDvd hi]

end ByteMemory
