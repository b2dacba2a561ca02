import AnDbg.Lib.Interleaving

/-
  Calls that are carried out one after the other.

  This is what a caller wants of a remote server: every call
  takes effect once, at one moment, in the order in which
  the calls were made, and its result is its own.

  Main declarations:
    * `RemoteCalls` and `RemoteCalls.Step`
    * `RemoteCalls.results` and `RemoteCalls.final`
    * `RemoteCalls.Carried` and `RemoteCalls.carried_of_reaches`
-/

------------------------------------------------------------
-- Calls In A Row
------------------------------------------------------------

/- The calls to come, the server's state and the results. -/
structure RemoteCalls (Call Result State : Type) where
  pending : List Call
  state : State
  results : List Result

namespace RemoteCalls

open Interleaving

variable {Call Result State : Type}
variable (carryOut : Call → State → Result × State)

/- The next call is carried out. -/
inductive Step :
    RemoteCalls Call Result State →
      RemoteCalls Call Result State → Prop
  | call
      (c : Call)
      (pending : List Call)
      (s : State)
      (results : List Result) :
      Step ⟨c :: pending, s, results⟩
        ⟨pending, (carryOut c s).2,
          results ++ [(carryOut c s).1]⟩

/- The results of calls in a row. -/
def resultsOf : List Call → State → List Result
| [], _ => []
| c :: calls, s =>
    (carryOut c s).1 :: resultsOf calls (carryOut c s).2

/- The state that calls in a row lead to. -/
def final (calls : List Call) (s : State) : State :=
  calls.foldl (fun s c => (carryOut c s).2) s

theorem resultsOf_append
    (calls more : List Call)
    (s : State) :
    resultsOf carryOut (calls ++ more) s =
      resultsOf carryOut calls s ++
        resultsOf carryOut more (final carryOut calls s) := by
  induction calls generalizing s with
  | nil => rfl
  | cons c calls ih =>
      rw [List.cons_append, resultsOf, ih]
      rfl

theorem final_append
    (calls more : List Call)
    (s : State) :
    final carryOut (calls ++ more) s =
      final carryOut more (final carryOut calls s) :=
  List.foldl_append

/- The first of the calls were carried out, and no others. -/
structure Carried
    (calls : List Call)
    (s : State)
    (a : RemoteCalls Call Result State)
    (done : List Call) : Prop where
  calls : calls = done ++ a.pending
  state : a.state = final carryOut done s
  results : a.results = resultsOf carryOut done s

/- Whatever is reached, calls were carried out in order. -/
theorem carried_of_reaches
    {calls : List Call}
    {s : State}
    {a : RemoteCalls Call Result State}
    (hReaches :
      Reaches (Step carryOut) ⟨calls, s, []⟩ a) :
    ∃ done, Carried carryOut calls s a done := by
  induction hReaches with
  | refl => exact ⟨[], rfl, rfl, rfl⟩
  | tail _ hLast ih =>
      rcases ih with ⟨done, hCalls, hState, hResults⟩
      cases hLast with
      | call c pending here results =>
          change here = _ at hState
          change results = _ at hResults
          refine ⟨done ++ [c], ?_, ?_, ?_⟩
          · rw [hCalls, List.append_assoc]
            rfl
          · rw [final_append, ← hState]
            rfl
          · rw [resultsOf_append, ← hState, ← hResults]
            rfl

/- Calls are only ever taken from the front. -/
theorem pending_suffix_of_reaches
    {a a' : RemoteCalls Call Result State}
    (hReaches : Reaches (Step carryOut) a a') :
    a'.pending <:+ a.pending := by
  induction hReaches with
  | refl => exact List.suffix_refl _
  | tail _ hLast ih =>
      cases hLast with
      | call c pending s results =>
          exact (List.suffix_cons c pending).trans ih

end RemoteCalls
