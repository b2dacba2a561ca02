import Mathlib.Data.List.Forall2

/-
  Loops that collect what their body accepts.

  The body skips an element, or gives what is to be kept of
  it, or throws, which ends the loop.  A loop over groups of
  elements that keeps one result for each group keeps it of
  that group, provided that a group that gives its result
  gives nothing else.

  Main declarations:
    * `Collecting.collect`
    * `Collecting.collect_eq_ok_iff`
    * `Collecting.eq_singletons_of_flatten_eq`
-/

------------------------------------------------------------
-- Collecting
------------------------------------------------------------

namespace Collecting

variable {α β ε : Type}

/- The loop. -/
def collect
    (body : α → Except ε (Option β)) :
    List α → Except ε (List β)
| [] => .ok []
| a :: as => do
    match ← body a with
    | none => collect body as
    | some b => return b :: (← collect body as)

/- What is kept of an element. -/
def kept
    (body : α → Except ε (Option β))
    (a : α) : Option β :=
  match body a with
  | .ok result => result
  | .error _ => none

variable {body : α → Except ε (Option β)}
variable {list : List α} {bs : List β}

/- The loop ends by itself exactly if no element throws. -/
theorem collect_eq_ok_iff :
    collect body list = .ok bs ↔
      (∀ a ∈ list, ∃ result, body a = .ok result) ∧
        bs = list.filterMap (kept body) := by
  induction list generalizing bs with
  | nil =>
      constructor
      · rintro hOk
        cases hOk
        exact ⟨fun a ha => absurd ha List.not_mem_nil, rfl⟩
      · rintro ⟨-, rfl⟩
        rfl
  | cons a as ih =>
      rw [collect, List.forall_mem_cons]
      cases hBody : body a with
      | error e =>
          constructor
          · intro hOk
            cases hOk
          · rintro ⟨⟨⟨result, hResult⟩, -⟩, -⟩
            cases hResult
      | ok result =>
          have hKept : kept body a = result := by
            rw [kept, hBody]
          rw [List.filterMap_cons, hKept]
          cases result with
          | none =>
              change collect body as = .ok bs ↔ _
              rw [ih]
              constructor
              · rintro ⟨hRest, hbs⟩
                exact ⟨⟨⟨none, rfl⟩, hRest⟩, hbs⟩
              · rintro ⟨⟨-, hRest⟩, hbs⟩
                exact ⟨hRest, hbs⟩
          | some b =>
              change (do return b :: (← collect body as)) =
                .ok bs ↔ _
              constructor
              · intro hOk
                cases hRest : collect body as with
                | error e =>
                    rw [hRest] at hOk
                    cases hOk
                | ok rest =>
                    rw [hRest] at hOk
                    cases hOk
                    rcases ih.mp hRest with ⟨hAll, hEq⟩
                    exact ⟨⟨⟨some b, rfl⟩, hAll⟩,
                      congrArg (b :: ·) hEq⟩
              · rintro ⟨⟨-, hAll⟩, rfl⟩
                rw [ih.mpr ⟨hAll, rfl⟩]
                rfl

/- A loop none of whose elements throws. -/
theorem collect_of_noThrow
    (hNoThrow : ∀ a ∈ list, ∃ result, body a = .ok result) :
    collect body list = .ok (list.filterMap (kept body)) :=
  collect_eq_ok_iff.mpr ⟨hNoThrow, rfl⟩

/-
  One result for each group, and some that are still due.  A
  group that gives its own result gives no other, so what is
  due can never be made good.
-/
theorem eq_singletons_of_flatten_eq
    {groups : List (List β)}
    {results due : List β}
    (hOnly :
      List.Forall₂
        (fun group result => result ∈ group → group = [result])
        groups results)
    (hFlatten : groups.flatten = due ++ results) :
    due = [] ∧
      List.Forall₂ (fun group result => group = [result])
        groups results := by
  induction hOnly generalizing due with
  | nil =>
      rw [List.flatten_nil, List.append_nil] at hFlatten
      exact ⟨hFlatten.symm, .nil⟩
  | @cons group result groups results hFirst hOnly ih =>
      rw [List.flatten_cons] at hFlatten
      rcases List.append_eq_append_iff.mp hFlatten with
        ⟨late, hDue, hRest⟩ | ⟨own, hGroup, hRest⟩
      · have hStill :
            groups.flatten = (late ++ [result]) ++ results := by
          rw [hRest, List.append_assoc]
          rfl
        have hNone := (ih hStill).1
        simp at hNone
      · rcases own with - | ⟨first, own⟩
        · have hStill :
              groups.flatten = [result] ++ results := hRest.symm
          have hNone := (ih hStill).1
          simp at hNone
        · rw [List.cons_append, List.cons.injEq] at hRest
          rcases hRest with ⟨rfl, hRest⟩
          have hAlone := hFirst (by rw [hGroup]; simp)
          rw [hAlone] at hGroup
          have hLength := congrArg List.length hGroup
          rw [List.length_singleton, List.length_append,
            List.length_cons] at hLength
          have hDue : due = [] :=
            List.length_eq_zero_iff.mp (by omega)
          have hOwn : own = [] :=
            List.length_eq_zero_iff.mp (by omega)
          rw [hOwn] at hRest
          have hStill : groups.flatten = [] ++ results :=
            hRest.symm
          exact ⟨hDue, .cons hAlone (ih hStill).2⟩

end Collecting
