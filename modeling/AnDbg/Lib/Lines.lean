import Mathlib.Data.List.TakeWhile

/-
  A text as lines.

  Each line is what lies before a line end; behind the last
  line end there is one more line unless nothing is there.

  Main declarations:
    * `Lines.lines` and `Lines.unlines`
    * `Lines.lines_append_cons`
    * `Lines.lines_of_notMem`
-/

------------------------------------------------------------
-- Splitting
------------------------------------------------------------

namespace Lines

variable {α : Type} [DecidableEq α]

/- The lines of a text, without their ends. -/
def lines (lineEnd : α) : List α → List (List α)
| [] => []
| c :: cs =>
    if c = lineEnd then
      [] :: lines lineEnd cs
    else
      match lines lineEnd cs with
      | [] => [[c]]
      | line :: rest => (c :: line) :: rest

/- The text of lines that are all ended. -/
def unlines (lineEnd : α) (list : List (List α)) : List α :=
  list.flatMap fun line => line ++ [lineEnd]

variable {lineEnd : α} {line text : List α}

theorem lines_end_cons
    (text : List α) :
    lines lineEnd (lineEnd :: text) =
      [] :: lines lineEnd text := by
  rw [lines, if_pos rfl]

/- The last line may be without an end. -/
theorem lines_of_notMem
    (hLine : line ≠ [])
    (hEnd : lineEnd ∉ line) :
    lines lineEnd line = [line] := by
  induction line with
  | nil => exact absurd rfl hLine
  | cons c cs ih =>
      rw [List.mem_cons, not_or] at hEnd
      rw [lines, if_neg (Ne.symm hEnd.1)]
      rcases cs with - | ⟨c', cs⟩
      · rfl
      · rw [ih (List.cons_ne_nil _ _) hEnd.2]

/- A line, its end, and the lines of the rest. -/
theorem lines_append_cons
    (hEnd : lineEnd ∉ line)
    (text : List α) :
    lines lineEnd (line ++ lineEnd :: text) =
      line :: lines lineEnd text := by
  induction line with
  | nil => exact lines_end_cons text
  | cons c cs ih =>
      rw [List.mem_cons, not_or] at hEnd
      rw [List.cons_append, lines, if_neg (Ne.symm hEnd.1),
        ih hEnd.2]

/- What is before the first end, where there is one. -/
theorem takeWhile_append_cons
    (hEnd : lineEnd ∉ line)
    (text : List α) :
    (line ++ lineEnd :: text).takeWhile (· != lineEnd) =
      line := by
  induction line with
  | nil => simp
  | cons c cs ih =>
      rw [List.mem_cons, not_or] at hEnd
      rw [List.cons_append, List.takeWhile_cons_of_pos,
        ih hEnd.2]
      exact bne_iff_ne.mpr (Ne.symm hEnd.1)

theorem takeWhile_of_notMem
    (hEnd : lineEnd ∉ line) :
    line.takeWhile (· != lineEnd) = line := by
  apply List.takeWhile_eq_self_iff.mpr
  intro c hc
  apply bne_iff_ne.mpr
  rintro rfl
  exact hEnd hc

theorem lines_ne_nil
    (hText : text ≠ []) :
    lines lineEnd text ≠ [] := by
  rcases List.exists_cons_of_ne_nil hText with ⟨c, cs, rfl⟩
  rw [lines]
  split
  next => exact List.cons_ne_nil _ _
  next =>
    split
    next => exact List.cons_ne_nil _ _
    next => exact List.cons_ne_nil _ _

end Lines
