import Mathlib.Data.List.Nodup
import Mathlib.Logic.Function.Basic

/-
  Assignments carried out one after the other.

  What a place holds afterwards is what the last assignment
  to it gave, or what it held before.  So a sequence changes
  nothing exactly if each last assignment repeats a value.

  Main declarations:
    * `Assignments.applied`
    * `Assignments.last` and `Assignments.applied_apply`
    * `Assignments.applied_eq_self_iff`
    * `Assignments.last_of_mem`
    * `Assignments.applied_of_copies`
-/

------------------------------------------------------------
-- Sequences Of Assignments
------------------------------------------------------------

namespace Assignments

variable {α β : Type}
variable [DecidableEq α]

/- The values after the assignments. -/
def applied
    (writes : List (α × β))
    (f : α → β) : α → β :=
  writes.foldl (fun f write => Function.update f write.1 write.2)
    f

/- The last value that is assigned to a place. -/
def last (a : α) : List (α × β) → Option β
| [] => none
| write :: writes =>
    match last a writes with
    | some value => some value
    | none => if a = write.1 then some write.2 else none

theorem applied_apply
    (writes : List (α × β))
    (f : α → β)
    (a : α) :
    applied writes f a = (last a writes).getD (f a) := by
  unfold applied
  induction writes generalizing f with
  | nil => rfl
  | cons write writes ih =>
      rw [List.foldl_cons, ih, last]
      cases last a writes with
      | some value => rfl
      | none =>
          by_cases ha : a = write.1
          · rw [if_pos ha, ha]
            exact Function.update_self _ _ _
          · rw [if_neg ha]
            exact Function.update_of_ne ha _ _

theorem applied_append
    (writes writes' : List (α × β))
    (f : α → β) :
    applied (writes ++ writes') f =
      applied writes' (applied writes f) :=
  List.foldl_append

/- Nothing is changed if every last value is there already. -/
theorem applied_eq_self_iff
    (writes : List (α × β))
    (f : α → β) :
    applied writes f = f ↔
      ∀ a value, last a writes = some value → f a = value := by
  constructor
  · intro hSame a value hLast
    rw [← hSame, applied_apply, hLast]
    rfl
  · intro hHeld
    funext a
    rw [applied_apply]
    cases hLast : last a writes with
    | none => rfl
    | some value => exact (hHeld a value hLast).symm

theorem last_eq_none_iff
    {a : α}
    {writes : List (α × β)} :
    last a writes = none ↔ a ∉ writes.map Prod.fst := by
  induction writes with
  | nil => simp [last]
  | cons write writes ih =>
      rw [last, List.map_cons, List.mem_cons, not_or, ← ih]
      cases last a writes with
      | some value => simp
      | none => simp

/- Without a second one, an assignment is the last. -/
theorem last_of_mem
    {a : α}
    {value : β}
    {writes : List (α × β)}
    (hNodup : (writes.map Prod.fst).Nodup)
    (hMem : (a, value) ∈ writes) :
    last a writes = some value := by
  induction writes with
  | nil => cases hMem
  | cons write writes ih =>
      rw [List.map_cons, List.nodup_cons] at hNodup
      rw [last]
      cases hMem with
      | head =>
          rw [last_eq_none_iff.mpr hNodup.1]
          exact if_pos rfl
      | tail _ hMem => rw [ih hNodup.2 hMem]

/-
  Assignments that copy another function, in any order and
  however often: where they assign, it is that function.
-/
theorem applied_of_copies
    {writes : List (α × β)}
    {g : α → β}
    (hCopies : ∀ write ∈ writes, write.2 = g write.1)
    (f : α → β)
    (a : α) :
    applied writes f a =
      if a ∈ writes.map Prod.fst then g a else f a := by
  unfold applied
  induction writes generalizing f with
  | nil => rfl
  | cons write writes ih =>
      rw [List.foldl_cons,
        ih (fun other hOther =>
          hCopies other (List.mem_cons_of_mem write hOther)),
        hCopies write List.mem_cons_self, List.map_cons]
      by_cases hLater : a ∈ writes.map Prod.fst
      · rw [if_pos hLater, if_pos (List.mem_cons_of_mem _ hLater)]
      · rw [if_neg hLater]
        by_cases ha : a = write.1
        · rw [ha, Function.update_self, if_pos List.mem_cons_self]
        · rw [Function.update_of_ne ha, if_neg]
          rw [List.mem_cons, not_or]
          exact ⟨ha, hLater⟩

end Assignments
