import Mathlib.Data.Nat.Basic
import Mathlib.Logic.Relation

/-
  Loops whose body is a function from one state to the next
  or to a result.

  `Ends` says that a loop comes to a result after some
  number of passes.  A variant, a number that every pass
  makes smaller, is carried together with its proof and
  makes the loop a total function; an invariant carries what
  holds at the start to the result.

  Main declarations:
    * `Loop.Pass` and `Loop.runFor`
    * `Loop.Ends` and `Loop.Ends.unique`
    * `Loop.Passes` and `Loop.Ends.last`
    * `Loop.Ends.rule` and `Loop.Ends.of_meets`
    * `Loop.Variant`, `Loop.run` and `Loop.ends_run`
    * `Loop.isSome_runFor_of_deadline`
-/

------------------------------------------------------------
-- Passes
------------------------------------------------------------

namespace Loop

/- What one pass of a loop leads to. -/
inductive Pass (σ α : Type)
  | next (s : σ)
  | done (a : α)

variable {σ α : Type}

/- The result of a loop that takes at most so many passes. -/
def runFor
    (pass : σ → Pass σ α) : Nat → σ → Option α
| 0, _ => none
| n + 1, s =>
    match pass s with
    | .next s' => runFor pass n s'
    | .done a => some a

/- The loop comes to an end with a result. -/
def Ends
    (pass : σ → Pass σ α)
    (s : σ)
    (a : α) : Prop :=
  ∃ n, runFor pass n s = some a

variable {pass : σ → Pass σ α}
variable {s s' : σ} {a a' : α}

/- More passes do not change the result. -/
theorem runFor_add
    {n : Nat}
    (hRun : runFor pass n s = some a)
    (d : Nat) :
    runFor pass (n + d) s = some a := by
  induction n generalizing s with
  | zero => cases hRun
  | succ n ih =>
      rw [Nat.succ_add, runFor]
      rw [runFor] at hRun
      cases hPass : pass s with
      | next s' =>
          rw [hPass] at hRun
          exact ih hRun
      | done b =>
          rw [hPass] at hRun
          exact hRun

/- A loop has one result. -/
theorem Ends.unique
    (hEnds : Ends pass s a)
    (hEnds' : Ends pass s a') :
    a = a' := by
  rcases hEnds with ⟨n, hRun⟩
  rcases hEnds' with ⟨n', hRun'⟩
  have hMore := runFor_add hRun n'
  have hMore' := runFor_add hRun' n
  rw [Nat.add_comm, hMore'] at hMore
  exact (Option.some.inj hMore).symm

/- The states in which passes of the loop begin. -/
def Passes (pass : σ → Pass σ α) : σ → σ → Prop :=
  Relation.ReflTransGen fun s s' => pass s = .next s'

/- The loop ends in its last pass. -/
theorem Ends.last
    (hEnds : Ends pass s a) :
    ∃ s', Passes pass s s' ∧ pass s' = .done a := by
  rcases hEnds with ⟨n, hRun⟩
  induction n generalizing s with
  | zero => cases hRun
  | succ n ih =>
      rw [runFor] at hRun
      cases hPass : pass s with
      | next s₁ =>
          rw [hPass] at hRun
          rcases ih hRun with ⟨s', hPasses, hDone⟩
          exact ⟨s', .head hPass hPasses, hDone⟩
      | done b =>
          rw [hPass] at hRun
          cases hRun
          exact ⟨s, .refl, hPass⟩

/-
  What holds at the start and is kept by every pass holds
  when the loop ends.
-/
theorem Ends.rule
    (inv : σ → Prop)
    (post : α → Prop)
    (hNext : ∀ s s', inv s → pass s = .next s' → inv s')
    (hDone : ∀ s a, inv s → pass s = .done a → post a)
    (hStart : inv s)
    (hEnds : Ends pass s a) :
    post a := by
  rcases hEnds with ⟨n, hRun⟩
  induction n generalizing s with
  | zero => cases hRun
  | succ n ih =>
      rw [runFor] at hRun
      cases hPass : pass s with
      | next s' =>
          rw [hPass] at hRun
          exact ih (hNext s s' hStart hPass) hRun
      | done b =>
          rw [hPass] at hRun
          rw [← Option.some.inj hRun]
          exact hDone s b hStart hPass

/- A pass keeps an invariant or yields what is wanted. -/
def Pass.Meets
    (inv : σ → Prop)
    (post : α → Prop) : Pass σ α → Prop
| .next s => inv s
| .done a => post a

/- The rule for a body that is specified as a whole. -/
theorem Ends.of_meets
    (inv : σ → Prop)
    (post : α → Prop)
    (hPass : ∀ s, inv s → (pass s).Meets inv post)
    (hStart : inv s)
    (hEnds : Ends pass s a) :
    post a := by
  refine Ends.rule inv post ?_ ?_ hStart hEnds
  · intro s s' hInv hNext
    have hMeets := hPass s hInv
    rw [hNext] at hMeets
    exact hMeets
  · intro s b hInv hDone
    have hMeets := hPass s hInv
    rw [hDone] at hMeets
    exact hMeets

end Loop

------------------------------------------------------------
-- Variants
------------------------------------------------------------

namespace Loop

variable {σ α : Type}

/- A number that every pass of a loop makes smaller. -/
structure Variant (pass : σ → Pass σ α) where
  measure : σ → Nat
  decreases :
    ∀ s s', pass s = .next s' → measure s' < measure s

variable {pass : σ → Pass σ α}

/- A loop with a variant needs no more passes than that. -/
theorem Variant.isSome_runFor
    (v : Variant pass)
    (s : σ)
    {n : Nat}
    (hEnough : v.measure s < n) :
    (runFor pass n s).isSome = true := by
  induction n generalizing s with
  | zero => exact absurd hEnough (Nat.not_lt_zero _)
  | succ n ih =>
      rw [runFor]
      cases hPass : pass s with
      | next s' =>
          have hLess := v.decreases s s' hPass
          exact ih s' (Nat.lt_of_lt_of_le hLess
            (Nat.le_of_lt_succ hEnough))
      | done a => rfl

/- The result of a loop with a variant. -/
def run
    (v : Variant pass)
    (s : σ) : α :=
  (runFor pass (v.measure s + 1) s).get
    (v.isSome_runFor s (Nat.lt_succ_self _))

theorem ends_run
    (v : Variant pass)
    (s : σ) :
    Ends pass s (run v s) :=
  ⟨v.measure s + 1, (Option.some_get _).symm⟩

end Loop

------------------------------------------------------------
-- Deadlines
------------------------------------------------------------

namespace Loop

variable {σ α : Type}
variable {pass : σ → Pass σ α}

/-
  A loop that does not go on past a deadline, and every pass
  of which takes some time, needs no more passes than fit.
-/
theorem isSome_runFor_of_deadline
    (clock : σ → Int)
    {deadline tick : Int}
    (hNext :
      ∀ s s', pass s = .next s' →
        clock s ≤ deadline ∧ clock s + tick ≤ clock s')
    (n : Nat)
    (s : σ)
    (hEnough : deadline < clock s + n * tick) :
    (runFor pass (n + 1) s).isSome = true := by
  induction n generalizing s with
  | zero =>
      rw [runFor]
      cases hPass : pass s with
      | next s' =>
          have hEarly := (hNext s s' hPass).1
          simp at hEnough
          omega
      | done a => rfl
  | succ n ih =>
      rw [runFor]
      cases hPass : pass s with
      | next s' =>
          have hLater := (hNext s s' hPass).2
          apply ih s'
          push_cast at hEnough
          rw [Int.add_mul, Int.one_mul] at hEnough
          omega
      | done a => rfl

end Loop
