import Mathlib.Data.List.Infix

/-
  Runs of a deterministic system that takes one event after
  another.

  `Along` asks a condition of every step of a run, where the
  step is judged at the state it is taken in.  What every
  step preserves holds after every run, and a property that
  a step keeps exactly when it is good holds throughout a
  run exactly when all of its steps are good.

  Main declarations:
    * `Run.run` and `Run.Along`
    * `Run.map_run` and `Run.along_map`
    * `Run.run_induction`
    * `Run.along_of_invariant`
    * `Run.forall_prefix_iff_along`
-/

------------------------------------------------------------
-- Runs And Conditions Along Them
------------------------------------------------------------

namespace Run

variable {State Event : Type}

/- The state after a list of events. -/
def run
    (step : Event → State → State)
    (events : List Event)
    (s : State) : State :=
  events.foldl (fun s e => step e s) s

/- A condition holds of every step of a run. -/
def Along
    (step : Event → State → State)
    (cond : State → Event → Prop) :
    List Event → State → Prop
| [], _ => True
| e :: es, s => cond s e ∧ Along step cond es (step e s)

@[simp] theorem run_nil
    (step : Event → State → State)
    (s : State) :
    run step [] s = s := rfl

@[simp] theorem run_cons
    (step : Event → State → State)
    (e : Event)
    (es : List Event)
    (s : State) :
    run step (e :: es) s = run step es (step e s) := rfl

theorem run_append
    (step : Event → State → State)
    (es es' : List Event)
    (s : State) :
    run step (es ++ es') s = run step es' (run step es s) := by
  rw [run, List.foldl_append]
  rfl

theorem Along.mono
    {step : Event → State → State}
    {cond cond' : State → Event → Prop}
    (hImp : ∀ s e, cond s e → cond' s e)
    {es : List Event}
    {s : State}
    (hAlong : Along step cond es s) :
    Along step cond' es s := by
  induction es generalizing s with
  | nil => trivial
  | cons e es ih =>
      exact ⟨hImp s e hAlong.1, ih hAlong.2⟩

theorem Along.and
    {step : Event → State → State}
    {cond cond' : State → Event → Prop}
    {es : List Event}
    {s : State}
    (hAlong : Along step cond es s)
    (hAlong' : Along step cond' es s) :
    Along step (fun s e => cond s e ∧ cond' s e) es s := by
  induction es generalizing s with
  | nil => trivial
  | cons e es ih =>
      exact ⟨⟨hAlong.1, hAlong'.1⟩, ih hAlong.2 hAlong'.2⟩

/- A condition on the events alone holds along every run. -/
theorem Along.of_forall_mem
    {step : Event → State → State}
    {cond : Event → Prop}
    {es : List Event}
    (hAll : ∀ e ∈ es, cond e)
    (s : State) :
    Along step (fun _ e => cond e) es s := by
  induction es generalizing s with
  | nil => trivial
  | cons e es ih =>
      rcases List.forall_mem_cons.mp hAll with
        ⟨hHere, hRest⟩
      exact ⟨hHere, ih hRest (step e s)⟩

/- A condition along a run holds of each step in it. -/
theorem Along.at_step
    {step : Event → State → State}
    {cond : State → Event → Prop}
    {es es' : List Event}
    {e : Event}
    {s : State}
    (hAlong : Along step cond (es ++ e :: es') s) :
    cond (run step es s) e := by
  induction es generalizing s with
  | nil => exact hAlong.1
  | cons e' es ih => exact ih hAlong.2

theorem Along.of_append
    {step : Event → State → State}
    {cond : State → Event → Prop}
    {es es' : List Event}
    {s : State}
    (hAlong : Along step cond (es ++ es') s) :
    Along step cond es s := by
  induction es generalizing s with
  | nil => trivial
  | cons e es ih => exact ⟨hAlong.1, ih hAlong.2⟩

end Run

------------------------------------------------------------
-- Runs That Carry More
------------------------------------------------------------

namespace Run

variable {State State' Event : Type}
variable {step : Event → State → State}
variable {step' : Event → State' → State'}

/- A run of a larger state, seen in the smaller one. -/
theorem map_run
    (f : State' → State)
    (hStep : ∀ e s, f (step' e s) = step e (f s))
    (es : List Event)
    (s : State') :
    f (run step' es s) = run step es (f s) := by
  induction es generalizing s with
  | nil => rfl
  | cons e es ih => rw [run_cons, run_cons, ih, hStep]

/- A condition on the smaller state along such a run. -/
theorem along_map
    (f : State' → State)
    (hStep : ∀ e s, f (step' e s) = step e (f s))
    {cond : State → Event → Prop}
    {es : List Event}
    {s : State'} :
    Along step' (fun s e => cond (f s) e) es s ↔
      Along step cond es (f s) := by
  induction es generalizing s with
  | nil => exact Iff.rfl
  | cons e es ih =>
      refine and_congr Iff.rfl ?_
      rw [← hStep]
      exact ih

end Run

------------------------------------------------------------
-- Invariants
------------------------------------------------------------

namespace Run

variable {State Event : Type}
variable {step : Event → State → State}
variable {cond : State → Event → Prop}
variable {inv : State → Prop}

/- What good steps preserve holds after a run of them. -/
theorem run_induction
    (hStep : ∀ s e, inv s → cond s e → inv (step e s))
    {es : List Event}
    {s : State}
    (hStart : inv s)
    (hAlong : Along step cond es s) :
    inv (run step es s) := by
  induction es generalizing s with
  | nil => exact hStart
  | cons e es ih =>
      exact ih (hStep s e hStart hAlong.1) hAlong.2

/- What every step preserves holds after every run. -/
theorem run_invariant
    (hStep : ∀ s e, inv s → inv (step e s))
    (es : List Event)
    {s : State}
    (hStart : inv s) :
    inv (run step es s) := by
  induction es generalizing s with
  | nil => exact hStart
  | cons e es ih => exact ih (hStep s e hStart)

/- An invariant passes on to every step of the run. -/
theorem along_of_invariant
    {good : State → Event → Prop}
    (hStep :
      ∀ s e, inv s → cond s e →
        good s e ∧ inv (step e s))
    {es : List Event}
    {s : State}
    (hStart : inv s)
    (hAlong : Along step cond es s) :
    Along step good es s := by
  induction es generalizing s with
  | nil => trivial
  | cons e es ih =>
      have hHere := hStep s e hStart hAlong.1
      exact ⟨hHere.1, ih hHere.2 hAlong.2⟩

/-
  If good steps keep the invariant, and the goal fails right
  after a step that is not good, then the goal holds in
  every state of a run exactly when every step of it is
  good.
-/
theorem forall_prefix_iff_along
    {good : State → Event → Prop}
    (goal : State → Prop)
    (hGoal : ∀ s, inv s → goal s)
    (hKept :
      ∀ s e, inv s → cond s e → good s e → inv (step e s))
    (hNeeded :
      ∀ s e, inv s → cond s e → goal (step e s) → good s e)
    {es : List Event}
    {s : State}
    (hStart : inv s)
    (hAlong : Along step cond es s) :
    (∀ es', es' <+: es → goal (run step es' s)) ↔
      Along step good es s := by
  induction es generalizing s with
  | nil =>
      constructor
      · intro _
        trivial
      · intro _ es' hPrefix
        rw [List.prefix_nil.mp hPrefix]
        exact hGoal s hStart
  | cons e es ih =>
      constructor
      · intro hAll
        have hHere : good s e :=
          hNeeded s e hStart hAlong.1 (hAll [e] (by simp))
        refine ⟨hHere, ?_⟩
        apply (ih (hKept s e hStart hAlong.1 hHere)
          hAlong.2).mp
        intro es' hPrefix
        exact hAll (e :: es')
          (List.cons_prefix_cons.mpr ⟨rfl, hPrefix⟩)
      · rintro ⟨hHere, hRest⟩ es' hPrefix
        cases es' with
        | nil => exact hGoal s hStart
        | cons e' es' =>
            rcases List.cons_prefix_cons.mp hPrefix with
              ⟨rfl, hTail⟩
            exact (ih (hKept s e' hStart hAlong.1 hHere)
              hAlong.2).mpr hRest es' hTail

end Run
