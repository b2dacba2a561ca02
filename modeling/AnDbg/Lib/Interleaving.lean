import Mathlib.Logic.Relation
import Mathlib.Order.WellFounded

/-
  Systems of several parties that take their steps in any
  order.

  What every step keeps holds in every state that is
  reached.  Where each step lowers a measure no run goes on
  for ever.  A system refines another one if each of its
  steps is some number of steps of the other, none included.

  Main declarations:
    * `Interleaving.Reaches` and `Interleaving.Stuck`
    * `Interleaving.Reaches.invariant`
    * `Interleaving.Lowers.no_infinite_run`
    * `Interleaving.Refines.reaches`
-/

------------------------------------------------------------
-- Runs And Invariants
------------------------------------------------------------

namespace Interleaving

variable {State : Type}
variable {step : State → State → Prop}

/- Some number of steps leads from a state to another. -/
abbrev Reaches
    (step : State → State → Prop) : State → State → Prop :=
  Relation.ReflTransGen step

/- No step can be taken in a state. -/
def Stuck
    (step : State → State → Prop)
    (s : State) : Prop :=
  ∀ s', ¬ step s s'

/- What every step keeps holds in every state reached. -/
theorem Reaches.invariant
    {inv : State → Prop}
    {s s' : State}
    (hReaches : Reaches step s s')
    (hStep : ∀ s s', inv s → step s s' → inv s')
    (hStart : inv s) :
    inv s' := by
  induction hReaches with
  | refl => exact hStart
  | tail _ hLast ih => exact hStep _ _ ih hLast

end Interleaving

------------------------------------------------------------
-- Runs That End
------------------------------------------------------------

namespace Interleaving

variable {State : Type}

/- Every step lowers a state, and none can be so for ever. -/
structure Lowers
    (step : State → State → Prop)
    (lower : State → State → Prop) : Prop where
  wellFounded : WellFounded lower
  lowers : ∀ s s', step s s' → lower s' s

variable {step lower : State → State → Prop}

theorem Lowers.no_infinite_run
    (hLowers : Lowers step lower)
    (run : Nat → State) :
    ¬ ∀ n, step (run n) (run (n + 1)) := by
  intro hRun
  rcases hLowers.wellFounded.has_min (Set.range run)
    ⟨run 0, 0, rfl⟩ with ⟨_, ⟨n, rfl⟩, hLeast⟩
  exact hLeast (run (n + 1)) ⟨n + 1, rfl⟩
    (hLowers.lowers _ _ (hRun n))

end Interleaving

------------------------------------------------------------
-- Refinement
------------------------------------------------------------

namespace Interleaving

variable {State Spec : Type}

/-
  Each step of a state that stands for one of the
  specification leads to a state that stands for one which
  the specification can reach.
-/
def Refines
    (step : State → State → Prop)
    (specStep : Spec → Spec → Prop)
    (standsFor : State → Spec → Prop) : Prop :=
  ∀ s a s', standsFor s a → step s s' →
    ∃ a', Reaches specStep a a' ∧ standsFor s' a'

/- What is reached stands for what the specification reaches. -/
theorem Refines.reaches
    {step : State → State → Prop}
    {specStep : Spec → Spec → Prop}
    {standsFor : State → Spec → Prop}
    (hRefines : Refines step specStep standsFor)
    {s s' : State}
    {a : Spec}
    (hStart : standsFor s a)
    (hReaches : Reaches step s s') :
    ∃ a', Reaches specStep a a' ∧ standsFor s' a' := by
  induction hReaches with
  | refl => exact ⟨a, .refl, hStart⟩
  | tail _ hLast ih =>
      rcases ih with ⟨a', hSpec, hHere⟩
      rcases hRefines _ _ _ hHere hLast with
        ⟨a'', hMore, hThere⟩
      exact ⟨a'', hSpec.trans hMore, hThere⟩

end Interleaving
