import Mathlib.Data.Nat.Find
import Mathlib.Logic.Function.Iterate
import Mathlib.Order.Basic

/-
  A deterministic machine that follows another one, now and
  then with a step of its own that the other does not see.

  Every machine keeps a log.  While the leader is in good
  states the follower reaches each of its states and no
  others, so the logs are the same; a follower that is stuck
  where the leader goes on never writes what comes next.

  Main declarations:
    * `Stuttering.Simulation`
    * `Stuttering.SameLogs`
    * `Stuttering.sameLogs_iff`
-/

------------------------------------------------------------
-- Simulations
------------------------------------------------------------

namespace Stuttering

variable {σ τ : Type}

/-
  From related states a step of the follower `f` is unseen
  or a step of the leader `g`, and some steps of `f` make up
  for one of `g`, as long as the leader is in a good state.
-/
structure Simulation
    (f : σ → σ)
    (g : τ → τ)
    (R : σ → τ → Prop)
    (good : τ → Prop) : Prop where
  follows :
    ∀ a b, R a b → good b → R (f a) b ∨ R (f a) (g b)
  catchesUp :
    ∀ a b, R a b → good b → ∃ m, R (f^[m] a) (g b)

variable {f : σ → σ} {g : τ → τ}
variable {R : σ → τ → Prop} {good : τ → Prop}
variable {a : σ} {b : τ}

/- Every state of the follower is one of the leader. -/
theorem Simulation.exists_leader
    (hSim : Simulation f g R good)
    (hStart : R a b)
    (hGood : ∀ n, good (g^[n] b))
    (j : Nat) :
    ∃ n, R (f^[j] a) (g^[n] b) := by
  induction j with
  | zero => exact ⟨0, hStart⟩
  | succ j ih =>
      rcases ih with ⟨n, hRelated⟩
      rw [Function.iterate_succ_apply']
      rcases hSim.follows _ _ hRelated (hGood n) with
        hSame | hNext
      · exact ⟨n, hSame⟩
      · refine ⟨n + 1, ?_⟩
        rwa [Function.iterate_succ_apply']

/- The follower reaches what good states lead to. -/
theorem Simulation.exists_follower
    (hSim : Simulation f g R good)
    (hStart : R a b)
    (n : Nat)
    (hGood : ∀ m < n, good (g^[m] b)) :
    ∃ j, R (f^[j] a) (g^[n] b) := by
  induction n with
  | zero => exact ⟨0, hStart⟩
  | succ n ih =>
      rcases
          ih fun m hm => hGood m (Nat.lt_succ_of_lt hm) with
        ⟨j, hRelated⟩
      rcases
          hSim.catchesUp _ _ hRelated (hGood n n.lt_succ_self)
          with ⟨m, hNext⟩
      refine ⟨m + j, ?_⟩
      rwa [Function.iterate_add_apply,
        Function.iterate_succ_apply']

end Stuttering

------------------------------------------------------------
-- Logs
------------------------------------------------------------

namespace Stuttering

variable {σ τ ω : Type}

/- Two machines whose logs go through the same lists. -/
structure SameLogs (follower leader : Nat → List ω) : Prop where
  reaches : ∀ n, ∃ j, follower j = leader n
  within : ∀ j, ∃ n, follower j = leader n

variable {f : σ → σ} {g : τ → τ}
variable {R : σ → τ → Prop} {good : τ → Prop}
variable {log : σ → List ω} {log' : τ → List ω}
variable {a : σ} {b : τ}

/- A log that no step shortens grows along a run. -/
theorem length_log_le
    (hMono : ∀ a, (log a).length ≤ (log (f a)).length)
    (a : σ)
    {i j : Nat}
    (hLe : i ≤ j) :
    (log (f^[i] a)).length ≤ (log (f^[j] a)).length := by
  induction j, hLe using Nat.le_induction with
  | base => exact Nat.le_refl _
  | succ j _ ih =>
      rw [Function.iterate_succ_apply']
      exact ih.trans (hMono (f^[j] a))

/-
  The logs are the same exactly when the leader stays in
  good states, if the follower is stuck at a state that is
  not good and the leader writes something there.
-/
theorem sameLogs_iff
    (hSim : Simulation f g R good)
    (hAgree : ∀ a b, R a b → log a = log' b)
    (hMono : ∀ a, (log a).length ≤ (log (f a)).length)
    (hStuck :
      ∀ a b, R a b → ¬ good b → ∀ i, log (f^[i] a) = log a)
    (hWrites :
      ∀ a b, R a b → ¬ good b →
        (log' b).length < (log' (g b)).length)
    (hStart : R a b) :
    SameLogs (fun j => log (f^[j] a))
        (fun n => log' (g^[n] b)) ↔
      ∀ n, good (g^[n] b) := by
  classical
  constructor
  · intro hSame
    by_contra hBad
    rw [not_forall] at hBad
    have hFirst := Nat.find_spec hBad
    -- the follower comes as far as the first bad state
    rcases
        hSim.exists_follower hStart (Nat.find hBad)
          fun m hm => not_not.mp (Nat.find_min hBad hm) with
      ⟨j, hRelated⟩
    rcases hSame.reaches (Nat.find hBad + 1) with
      ⟨i, hReached⟩
    have hLess := hWrites _ _ hRelated hFirst
    rw [← Function.iterate_succ_apply' g] at hLess
    rw [← hReached, ← hAgree _ _ hRelated] at hLess
    rcases Nat.le_total i j with hBefore | hAfter
    · exact absurd hLess
        (Nat.not_lt.mpr (length_log_le hMono a hBefore))
    · rcases Nat.exists_eq_add_of_le' hAfter with ⟨d, rfl⟩
      rw [Function.iterate_add_apply,
        hStuck _ _ hRelated hFirst d] at hLess
      exact Nat.lt_irrefl _ hLess
  · intro hGood
    constructor
    · intro n
      rcases
          hSim.exists_follower hStart n fun m _ => hGood m
          with ⟨j, hRelated⟩
      exact ⟨j, hAgree _ _ hRelated⟩
    · intro j
      rcases hSim.exists_leader hStart hGood j with
        ⟨n, hRelated⟩
      exact ⟨n, hAgree _ _ hRelated⟩

end Stuttering
