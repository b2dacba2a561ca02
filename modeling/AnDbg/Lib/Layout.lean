import Mathlib.Algebra.BigOperators.Group.List.Basic
import Mathlib.Algebra.GroupWithZero.Nat

/-
  A whole made of parts that are laid one after the other.

  The place of a part is where those before it end.  Taking
  as much as the part is long from its place gives the part,
  and a whole in which one part is another one of the same
  length is the first whole, overwritten at that place.

  Main declarations:
    * `Layout.slice` and `Layout.patch`
    * `Layout.place`
    * `Layout.slice_flatten`
    * `Layout.flatten_eq_patch`
-/

------------------------------------------------------------
-- Places
------------------------------------------------------------

namespace Layout

variable {α : Type}

/- Some elements from a place on. -/
def slice
    (offset size : Nat)
    (whole : List α) : List α :=
  (whole.drop offset).take size

/- The whole, overwritten from a place on. -/
def patch
    (offset : Nat)
    (new whole : List α) : List α :=
  whole.take offset ++
    (new ++ whole.drop (offset + new.length))

/- The place of a part. -/
def place
    (parts : List (List α))
    (i : Nat) : Nat :=
  ((parts.map List.length).take i).sum

variable {parts parts' : List (List α)}
variable {part new : List α}
variable {i : Nat}

/- Parts of one length have their places at its multiples. -/
theorem place_eq_mul
    {n : Nat}
    (hLengths :
      ∀ j < i, ∃ part, parts[j]? = some part ∧
        part.length = n) :
    place parts i = n * i := by
  induction i with
  | zero => simp [place]
  | succ i ih =>
      rcases hLengths i (Nat.lt_succ_self i) with
        ⟨part, hPart, hLength⟩
      have hBefore :=
        ih fun j hj => hLengths j (Nat.lt_succ_of_lt hj)
      have hHere : (parts.map List.length)[i]? = some n := by
        rw [List.getElem?_map, hPart, Option.map_some, hLength]
      unfold place at hBefore ⊢
      rw [List.take_add_one, hHere, List.sum_append, hBefore]
      simp [Nat.mul_succ]

/- A place is behind the part before it. -/
theorem place_succ
    (hPart : parts[i]? = some part) :
    place parts (i + 1) = place parts i + part.length := by
  have hHere :
      (parts.map List.length)[i]? = some part.length := by
    rw [List.getElem?_map, hPart, Option.map_some]
  unfold place
  rw [List.take_add_one, hHere, List.sum_append]
  simp

/- The parts before a part, the part, and those behind it. -/
theorem split_at_part
    (hPart : parts[i]? = some part) :
    parts.take i ++ part :: parts.drop (i + 1) = parts := by
  rcases List.getElem?_eq_some_iff.mp hPart with ⟨hi, rfl⟩
  rw [List.getElem_cons_drop, List.take_append_drop]

theorem drop_place_flatten
    (hPart : parts[i]? = some part) :
    parts.flatten.drop (place parts i) =
      part ++ (parts.drop (i + 1)).flatten := by
  rcases List.getElem?_eq_some_iff.mp hPart with ⟨hi, rfl⟩
  unfold place
  rw [List.drop_sum_flatten, List.drop_eq_getElem_cons hi,
    List.flatten_cons]

/- What is found at the place of a part is the part. -/
theorem slice_flatten
    (hPart : parts[i]? = some part) :
    slice (place parts i) part.length parts.flatten =
      part := by
  unfold slice
  rw [drop_place_flatten hPart, List.take_left]

/- Replacing a part overwrites the whole at its place. -/
theorem flatten_eq_patch
    (hPart : parts[i]? = some part)
    (hLength : new.length = part.length)
    (hNew : parts'[i]? = some new)
    (hOther : ∀ j, j ≠ i → parts'[j]? = parts[j]?) :
    parts'.flatten = patch (place parts i) new parts.flatten := by
  have hBefore : parts'.take i = parts.take i := by
    apply List.ext_getElem?
    intro j
    rw [List.getElem?_take, List.getElem?_take]
    split
    next hj => exact hOther j (Nat.ne_of_lt hj)
    next => rfl
  have hBehind : parts'.drop (i + 1) = parts.drop (i + 1) := by
    apply List.ext_getElem?
    intro j
    rw [List.getElem?_drop, List.getElem?_drop]
    exact hOther _ (by omega)
  have hTake :
      parts.flatten.take (place parts i) =
        (parts.take i).flatten :=
    List.take_sum_flatten parts i
  have hDrop :
      parts.flatten.drop (place parts i + new.length) =
        (parts.drop (i + 1)).flatten := by
    rw [← List.drop_drop, drop_place_flatten hPart, hLength,
      List.drop_left]
  unfold patch
  rw [hTake, hDrop, ← split_at_part hNew, hBefore, hBehind,
    List.flatten_append, List.flatten_cons]

end Layout
