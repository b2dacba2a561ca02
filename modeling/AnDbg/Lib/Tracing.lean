import Mathlib.Logic.Relation
import Mathlib.Logic.Function.Basic
import Mathlib.Data.Set.Insert

/-
  Processes under a tracer that follows their forks.

  A traced process runs or is stopped.  A running one may
  stop, fork or exit at any time, and its child is traced and
  stopped from birth; a stopped one can do nothing but exit.
  The tracer makes a stopped process run or lets it go, and
  has no hold on one that runs.

  Main declarations:
    * `Tracing.Mode`, `Tracing.Trace` and `Tracing.Move`
    * `Tracing.Trace.attach`, `cont` and `detach`
    * `Tracing.Rooted` and `Tracing.Moves.rooted`
    * `Tracing.Moves.not_running`
    * `Tracing.Moves.of_quiet`
    * `Tracing.Trace.Silent` and
      `Tracing.Trace.silent_detach_iff`
-/

------------------------------------------------------------
-- Traced Processes
------------------------------------------------------------

namespace Tracing

/- How a process stands to the tracer. -/
inductive Mode
  | untraced
  | running
  | stopped
deriving DecidableEq, Repr

/-
  The modes of all processes, and the processes that were
  forked while their parent was traced.
-/
structure Trace (π : Type) where
  mode : π → Mode
  born : Set π

variable {π : Type}

namespace Trace

/- The process is traced. -/
def Traced
    (t : Trace π)
    (p : π) : Prop :=
  t.mode p ≠ .untraced

variable [DecidableEq π]

/- Give a process a mode. -/
def put
    (p : π)
    (mode : Mode)
    (t : Trace π) : Trace π :=
  { t with mode := Function.update t.mode p mode }

/- A process stops to fork, and its child is born stopped. -/
def fork
    (p child : π)
    (t : Trace π) : Trace π :=
  { (t.put p .stopped).put child .stopped with
    born := insert child t.born }

/- Trace and stop a process. -/
def attach
    (p : π)
    (t : Trace π) : Trace π :=
  t.put p .stopped

/- Make a stopped process run. -/
def cont
    (p : π)
    (t : Trace π) : Trace π :=
  if t.mode p = .stopped then t.put p .running else t

/- Let a stopped process go. -/
def detach
    (p : π)
    (t : Trace π) : Trace π :=
  if t.mode p = .stopped then t.put p .untraced else t

end Trace

variable [DecidableEq π]

/- What a traced process does of itself. -/
inductive Move : Trace π → Trace π → Prop
  | stop
      {t : Trace π}
      {p : π}
      (hRuns : t.mode p = .running) :
      Move t (t.put p .stopped)
  | fork
      {t : Trace π}
      {p child : π}
      (hRuns : t.mode p = .running)
      (hNew : t.mode child = .untraced) :
      Move t (t.fork p child)
  | exit
      {t : Trace π}
      {p : π}
      (hTraced : t.Traced p) :
      Move t (t.put p .untraced)

/- Any number of moves, in any order. -/
abbrev Moves : Trace π → Trace π → Prop :=
  Relation.ReflTransGen Move

end Tracing

------------------------------------------------------------
-- Modes After A Change
------------------------------------------------------------

namespace Tracing

variable {π : Type}
variable {t : Trace π} {p q : π}

namespace Trace

theorem traced_of_running
    (hRuns : t.mode p = .running) :
    t.Traced p := by
  unfold Traced
  rw [hRuns]
  exact Mode.noConfusion

variable [DecidableEq π]

@[simp] theorem mode_put
    (t : Trace π)
    (p : π)
    (mode : Mode)
    (q : π) :
    (t.put p mode).mode q = if q = p then mode else t.mode q :=
  Function.update_apply t.mode p mode q

theorem not_running_put
    {mode : Mode}
    (hMode : mode ≠ .running)
    (hNot : t.mode q ≠ .running) :
    (t.put p mode).mode q ≠ .running := by
  rw [mode_put]
  split
  next => exact hMode
  next => exact hNot

/- Another mode for a traced process traces no other one. -/
theorem traced_of_put_traced
    {mode : Mode}
    (hBefore : t.Traced p)
    (hTraced : (t.put p mode).Traced q) :
    t.Traced q := by
  unfold Traced at hTraced
  rw [mode_put] at hTraced
  split at hTraced
  next hEq => exact hEq ▸ hBefore
  next => exact hTraced

theorem traced_of_put_untraced
    (hTraced : (t.put p .untraced).Traced q) :
    t.Traced q := by
  unfold Traced at hTraced
  rw [mode_put] at hTraced
  split at hTraced
  next => exact absurd rfl hTraced
  next => exact hTraced

@[simp] theorem mode_fork
    (t : Trace π)
    (p child q : π) :
    (t.fork p child).mode q =
      if q = child ∨ q = p then .stopped else t.mode q := by
  unfold fork
  simp only [mode_put]
  by_cases hChild : q = child <;> simp [hChild]

@[simp] theorem mode_detach
    (t : Trace π)
    (p q : π) :
    (t.detach p).mode q =
      if q = p ∧ t.mode q = .stopped then .untraced
      else t.mode q := by
  unfold detach
  by_cases hEq : q = p
  · subst hEq
    by_cases hStopped : t.mode q = .stopped <;>
      simp [hStopped]
  · by_cases hStopped : t.mode p = .stopped <;>
      simp [hStopped, hEq]

/- Letting a process go takes effect only on a stopped one. -/
theorem traced_detach_iff :
    (t.detach p).Traced q ↔
      t.Traced q ∧ ¬ (q = p ∧ t.mode q = .stopped) := by
  unfold Traced
  rw [mode_detach]
  split
  next hLetGo =>
    exact iff_of_false (fun h => h rfl) fun h => h.2 hLetGo
  next hNot => exact (and_iff_left hNot).symm

/- A process that was let go is not in a stop. -/
theorem not_stopped_detach :
    (t.detach p).mode p ≠ .stopped := by
  rw [mode_detach]
  split
  next => exact Mode.noConfusion
  next hNot => exact fun hStopped => hNot ⟨rfl, hStopped⟩

theorem not_stopped_detach_of_not
    (hNot : t.mode q ≠ .stopped) :
    (t.detach p).mode q ≠ .stopped := by
  rw [mode_detach, if_neg fun h => hNot h.2]
  exact hNot

theorem traced_attach_iff :
    (t.attach p).Traced q ↔ t.Traced q ∨ q = p := by
  unfold attach Traced
  rw [mode_put]
  split
  next hEq => simp [hEq]
  next hOther => simp [hOther]

@[simp] theorem traced_cont_iff :
    (t.cont p).Traced q ↔ t.Traced q := by
  unfold cont Traced
  by_cases hStopped : t.mode p = .stopped
  · by_cases hEq : q = p <;> simp [hStopped, hEq]
  · simp [hStopped]

@[simp] theorem born_cont :
    (t.cont p).born = t.born := by
  unfold cont put
  split <;> rfl

end Trace

end Tracing

------------------------------------------------------------
-- What Moves Preserve
------------------------------------------------------------

namespace Tracing

variable {π : Type}

/- Whatever is traced is the root or was forked under it. -/
def Rooted
    (root : π)
    (t : Trace π) : Prop :=
  ∀ p, t.Traced p → p = root ∨ p ∈ t.born

/- No traced process runs. -/
def Quiet (t : Trace π) : Prop :=
  ∀ p, t.mode p ≠ .running

variable [DecidableEq π]
variable {t t' : Trace π} {p root : π}

/- A process that does not run has to be made to. -/
theorem Moves.not_running
    (hMoves : Moves t t')
    (hNot : t.mode p ≠ .running) :
    t'.mode p ≠ .running := by
  induction hMoves with
  | refl => exact hNot
  | tail _ hMove ih =>
      cases hMove with
      | stop =>
          exact Trace.not_running_put Mode.noConfusion ih
      | fork =>
          exact Trace.not_running_put Mode.noConfusion
            (Trace.not_running_put Mode.noConfusion ih)
      | exit =>
          exact Trace.not_running_put Mode.noConfusion ih

theorem Moves.quiet
    (hMoves : Moves t t')
    (hQuiet : Quiet t) :
    Quiet t' :=
  fun p => hMoves.not_running (hQuiet p)

/- While nothing runs, nothing new is traced. -/
theorem Moves.of_quiet
    (hMoves : Moves t t')
    (hQuiet : Quiet t)
    (hTraced : t'.Traced p) :
    t.Traced p := by
  induction hMoves with
  | refl => exact hTraced
  | tail hBefore hMove ih =>
      have hStill := Moves.quiet hBefore hQuiet
      apply ih
      cases hMove with
      | stop hRuns => exact absurd hRuns (hStill _)
      | fork hRuns => exact absurd hRuns (hStill _)
      | exit => exact Trace.traced_of_put_untraced hTraced

/- Moves trace nothing but children. -/
theorem Moves.rooted
    (hMoves : Moves t t')
    (hRooted : Rooted root t) :
    Rooted root t' := by
  induction hMoves with
  | refl => exact hRooted
  | tail _ hMove ih =>
      intro p hTraced
      cases hMove with
      | stop hRuns =>
          exact ih p (Trace.traced_of_put_traced
            (Trace.traced_of_running hRuns) hTraced)
      | @fork q child hRuns hNew =>
          by_cases hChild : p = child
          · exact .inr (.inl hChild)
          · refine (ih p ?_).imp_right .inr
            unfold Trace.Traced Trace.fork at hTraced
            rw [Trace.mode_put, if_neg hChild] at hTraced
            exact Trace.traced_of_put_traced
              (Trace.traced_of_running hRuns) hTraced
      | exit =>
          exact ih p (Trace.traced_of_put_untraced hTraced)

/- Neither does making a process run. -/
theorem Rooted.cont
    (hRooted : Rooted root t)
    (p : π) :
    Rooted root (t.cont p) := by
  intro q hTraced
  rw [Trace.born_cont]
  exact hRooted q (Trace.traced_cont_iff.mp hTraced)

end Tracing

------------------------------------------------------------
-- What Is Left When Processes Are Let Go
------------------------------------------------------------

namespace Tracing

namespace Trace

variable {π : Type}
variable {t : Trace π} {p q : π}

/- A traced process that does not run is stopped. -/
theorem Traced.stopped
    (hTraced : t.Traced p)
    (hNot : t.mode p ≠ .running) :
    t.mode p = .stopped := by
  unfold Traced at hTraced
  cases hMode : t.mode p
  case untraced => exact absurd hMode hTraced
  case running => exact absurd hMode hNot
  case stopped => rfl

/- No process is traced. -/
def Silent (t : Trace π) : Prop :=
  ∀ p, ¬ t.Traced p

theorem Silent.quiet
    (hSilent : t.Silent) :
    Quiet t := by
  intro p hRuns
  exact hSilent p (traced_of_running hRuns)

variable [DecidableEq π]

theorem Silent.moves
    {t' : Trace π}
    (hSilent : t.Silent)
    (hMoves : Moves t t') :
    t'.Silent :=
  fun p hTraced =>
    hSilent p (hMoves.of_quiet hSilent.quiet hTraced)

/- Nothing but a process that is traced now. -/
theorem Silent.attach_iff
    (hSilent : t.Silent) :
    (t.attach p).Traced q ↔ q = p := by
  rw [traced_attach_iff, or_iff_right (hSilent q)]

theorem Silent.rooted_attach
    (hSilent : t.Silent) :
    Rooted p (t.attach p) :=
  fun _ hTraced => .inl (hSilent.attach_iff.mp hTraced)

theorem Silent.quiet_attach
    (hSilent : t.Silent) :
    Quiet (t.attach p) := by
  intro q hRuns
  unfold attach at hRuns
  rw [mode_put] at hRuns
  split at hRuns
  next => exact Mode.noConfusion hRuns
  next => exact hSilent.quiet q hRuns

/- Letting one process go. -/
theorem silent_detach_iff :
    (t.detach p).Silent ↔
      ∀ q, t.Traced q → q = p ∧ t.mode q = .stopped := by
  unfold Silent
  refine forall_congr' fun q => ?_
  rw [traced_detach_iff, not_and_not_right]

/- Nothing but the one that was traced has to be let go. -/
theorem Silent.detach_of_moves
    {t' : Trace π}
    (hSilent : t.Silent)
    (hMoves : Moves (t.attach p) t') :
    (t'.detach p).Silent := by
  refine silent_detach_iff.mpr fun q hTraced => ?_
  have hBefore := hMoves.of_quiet hSilent.quiet_attach hTraced
  exact ⟨hSilent.attach_iff.mp hBefore,
    hTraced.stopped (hMoves.quiet hSilent.quiet_attach q)⟩

/- Letting two processes go. -/
theorem silent_detach_detach_iff :
    ((t.detach p).detach q).Silent ↔
      ∀ r, t.Traced r →
        (r = p ∨ r = q) ∧ t.mode r = .stopped := by
  rw [silent_detach_iff]
  refine forall_congr' fun r => ?_
  rw [traced_detach_iff]
  by_cases hFirst : r = p
  · subst hFirst
    by_cases hStopped : t.mode r = .stopped
    · simp [hStopped]
    · simp [hStopped]
  · simp [hFirst]

end Trace

end Tracing
