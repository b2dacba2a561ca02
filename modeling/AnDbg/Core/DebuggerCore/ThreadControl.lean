import AnDbg.Core.DebuggerCore.Model
import Mathlib.Data.Set.Basic

/-
  Resuming and pausing all threads of the session.

  Both walk the list of threads and look at each of them
  before they act on it.  While they do, other threads may
  stop by themselves; a thread that is in a tracing stop
  stays there until it is continued.  Some requests may be
  refused: the answer counts those that went through.

  Main declarations:
    * `AnDbg.DebuggerCore.Rounds`
    * `AnDbg.ControlLaws`
    * `AnDbg.DebuggerCore.resume_continues`
    * `AnDbg.DebuggerCore.pause_stops`
-/

------------------------------------------------------------
-- Rounds Of The Loop
------------------------------------------------------------

namespace AnDbg

namespace DebuggerCore

open Kernel

variable {κ : Type}
variable [Kernel κ]

/-
  The rounds of a loop over the threads, with the threads
  that it acts on and whether it could.
-/
inductive Rounds
    (wanted : ProcessState → Bool)
    (action : Pid → κ → Status × κ) :
    List Pid → κ → List (Pid × Bool) → κ → Prop
  | done
      {k : κ} :
      Rounds wanted action [] k [] k
  | acted
      {tid : Pid}
      {tids : List Pid}
      {state : ProcessState}
      {s : Status}
      {asked : List (Pid × Bool)}
      {k k₁ k₂ k' : κ}
      (hState : getProcessState tid k = (state, k₁))
      (hWanted : wanted state = true)
      (hAction : action tid k₁ = (s, k₂))
      (hRest : Rounds wanted action tids k₂ asked k') :
      Rounds wanted action (tid :: tids) k
        ((tid, s.isSuccess) :: asked) k'
  | skipped
      {tid : Pid}
      {tids : List Pid}
      {state : ProcessState}
      {asked : List (Pid × Bool)}
      {k k₁ k' : κ}
      (hState : getProcessState tid k = (state, k₁))
      (hWanted : wanted state = false)
      (hRest : Rounds wanted action tids k₁ asked k') :
      Rounds wanted action (tid :: tids) k asked k'

variable {wanted : ProcessState → Bool}
variable {action : Pid → κ → Status × κ}

/- The loop makes its rounds and counts what went through. -/
theorem forThreads_rounds
    (tids : List Pid)
    (k : κ) :
    ∃ asked,
      Rounds wanted action tids k asked
          (forThreads wanted action tids k).2 ∧
        (forThreads wanted action tids k).1 =
          (asked.all Prod.snd, asked.countP Prod.snd) := by
  induction tids generalizing k with
  | nil => exact ⟨[], .done, rfl⟩
  | cons tid tids ih =>
      rcases hState : getProcessState tid k with ⟨state, k₁⟩
      rw [forThreads, hState]
      dsimp only
      cases hWanted : wanted state with
      | false =>
          rcases ih k₁ with ⟨asked, hRest, hCount⟩
          exact ⟨asked, .skipped hState hWanted hRest, hCount⟩
      | true =>
          rcases hAction : action tid k₁ with ⟨s, k₂⟩
          rcases ih k₂ with ⟨asked, hRest, hCount⟩
          have hRounds :=
            Rounds.acted hState hWanted hAction hRest
          refine ⟨(tid, s.isSuccess) :: asked, ?_⟩
          generalize forThreads wanted action tids k₂ = rest
            at hRounds hCount ⊢
          rcases rest with ⟨⟨allOk, successCount⟩, k'⟩
          cases hCount
          rw [if_pos rfl, Status.isFail_eq_not_isSuccess]
          cases hSuccess : s.isSuccess with
          | true =>
              rw [hSuccess] at hRounds
              exact ⟨hRounds, by simp⟩
          | false =>
              rw [hSuccess] at hRounds
              exact ⟨hRounds, by simp⟩

omit [Kernel κ] in
/- The answer is that of the requests that were made. -/
theorem answer_eq
    (asked : List (Pid × Bool))
    (done failed : Status)
    (k : κ) :
    (if (!asked.all Prod.snd) = true then (failed, k)
      else (done, k)) =
      (if ∀ entry ∈ asked, entry.2 = true then done else failed,
        k) := by
  by_cases hAll : ∀ entry ∈ asked, entry.2 = true
  · rw [if_pos hAll, List.all_eq_true.mpr hAll]
    rfl
  · have hSome : asked.all Prod.snd = false :=
      Bool.eq_false_iff.mpr fun hTrue =>
        hAll (List.all_eq_true.mp hTrue)
    rw [if_neg hAll, hSome]
    rfl

/- Every thread is acted on once at most, in their order. -/
theorem Rounds.sublist
    {tids : List Pid}
    {asked : List (Pid × Bool)}
    {k k' : κ}
    (hRounds : Rounds wanted action tids k asked k') :
    (asked.map Prod.fst).Sublist tids := by
  induction hRounds with
  | done => exact .slnil
  | acted _ _ _ _ ih => exact ih.cons_cons _
  | skipped _ _ _ ih => exact ih.cons _

end DebuggerCore

end AnDbg

------------------------------------------------------------
-- What Is Relied On
------------------------------------------------------------

namespace AnDbg

open Kernel

/-
  The calls that stop and continue threads.  `inStop` has
  the threads in a tracing stop, which only a continuation
  takes them out of; `continued` and `signalled` record the
  requests that were made and whether they went through.
-/
structure ControlLaws
    {κ : Type}
    [Kernel κ]
    (inStop : κ → Set Pid)
    (continued signalled : κ → List (Pid × Bool)) : Prop where
  state :
    ∀ {tid state k k'},
      getProcessState tid k = (state, k') →
        (tid ∈ inStop k → state = .tracingStop) ∧
          (state = .tracingStop → tid ∈ inStop k') ∧
          inStop k ⊆ inStop k' ∧
          continued k' = continued k ∧
          signalled k' = signalled k
  cont :
    ∀ {tid done k k'},
      ptrace .cont tid k = (done, k') →
        inStop k \ {tid} ⊆ inStop k' ∧
          continued k' = continued k ++ [(tid, done)] ∧
          signalled k' = signalled k
  sigstop :
    ∀ {tid ret k k'},
      Kernel.kill tid .sigstop k = (ret, k') →
        inStop k ⊆ inStop k' ∧
          continued k' = continued k ∧
          signalled k' =
            signalled k ++ [(tid, decide (ret = 0))]

end AnDbg

------------------------------------------------------------
-- Threads In The Model
------------------------------------------------------------

namespace AnDbg

/-
  Threads that run or are stopped; requests for some of them
  are refused.
-/
structure ControlledThreads where
  stopped : List Pid
  refused : List Pid
  continued : List (Pid × Bool)
  signalled : List (Pid × Bool)

namespace ControlledThreads

open Kernel

/- The threads that are in a tracing stop. -/
def inStop (t : ControlledThreads) : Set Pid :=
  { tid | tid ∈ t.stopped }

/- A continuation of a thread that is stopped. -/
def cont
    (tid : Pid)
    (t : ControlledThreads) : Bool × ControlledThreads :=
  let done := decide (tid ∈ t.stopped ∧ tid ∉ t.refused)
  (done,
    { t with
      stopped :=
        if done then t.stopped.filter (· ≠ tid) else t.stopped
      continued := t.continued ++ [(tid, done)] })

/- A stop signal, which stops a thread at once. -/
def sigstop
    (tid : Pid)
    (t : ControlledThreads) : Int × ControlledThreads :=
  let ret := if tid ∈ t.refused then -1 else 0
  (ret,
    { t with
      stopped :=
        if tid ∈ t.refused then t.stopped else tid :: t.stopped
      signalled := t.signalled ++ [(tid, decide (ret = 0))] })

instance : Kernel ControlledThreads where
  ptrace request tid t :=
    match request with
    | .cont => t.cont tid
    | _ => (true, t)
  waitpid tid t := ((tid, 0x137f), t)
  kill tid signal t :=
    match signal with
    | .sigstop => t.sigstop tid
    | _ => (0, t)
  getThreadIds _ t := ([], t)
  getProcessState tid t :=
    (if tid ∈ t.stopped then .tracingStop else .running, t)
  sleepFor _ t := t
  errno _ := 3
  strerror _ _ := ascii "No such process"

theorem controlLaws :
    ControlLaws inStop continued signalled where
  state := by
    intro tid state t t' hState
    cases hState
    refine ⟨fun hStop => if_pos hStop, fun hState => ?_,
      subset_rfl, rfl, rfl⟩
    by_cases hStop : tid ∈ t.stopped
    · exact hStop
    · rw [if_neg hStop] at hState
      cases hState
  cont := by
    intro tid done t t' hCont
    cases hCont
    refine ⟨?_, rfl, rfl⟩
    rintro tid' ⟨hStop, hOther⟩
    change tid' ∈ (t.cont tid).2.stopped
    unfold cont
    dsimp only
    split
    · exact List.mem_filter.mpr
        ⟨hStop, decide_eq_true hOther⟩
    · exact hStop
  sigstop := by
    intro tid ret t t' hKill
    cases hKill
    refine ⟨?_, rfl, rfl⟩
    intro tid' hStop
    change tid' ∈ (t.sigstop tid).2.stopped
    unfold sigstop
    dsimp only
    split
    · exact hStop
    · exact List.mem_cons_of_mem _ hStop

end ControlledThreads

end AnDbg

------------------------------------------------------------
-- Resuming
------------------------------------------------------------

namespace AnDbg

namespace DebuggerCore

open Kernel

variable {κ : Type}
variable [Kernel κ]
variable {inStop : κ → Set Pid}
variable {continued signalled : κ → List (Pid × Bool)}
variable {c : DebuggerCore}
variable {tid : Pid} {tids : List Pid}
variable {asked : List (Pid × Bool)}
variable {k k' : κ}

/- A thread of the list is continued, as the answer says. -/
theorem resumeThread_cont
    {s : Status}
    (hMem : tid ∈ c.tids)
    (hResume : c.resumeThread tid k = (s, k')) :
    ptrace .cont tid k = (s.isSuccess, k') := by
  unfold resumeThread at hResume
  rw [if_neg (not_not.mpr hMem)] at hResume
  rcases hCont : ptrace .cont tid k with ⟨_ | _, k₁⟩
  · rw [hCont] at hResume
    cases hResume
    rfl
  · rw [hCont] at hResume
    cases hResume
    rfl

/-
  Every call of a walk over threads, from its first world to
  its last: a thread is looked at, and if it is in a tracing
  stop in that very world, a continuation is asked for.
-/
inductive ContinuesStopped
    (inStop : κ → Set Pid) :
    List Pid → κ → List (Pid × Bool) → κ → Prop
  | done
      {k : κ} :
      ContinuesStopped inStop [] k [] k
  | continued
      {tid : Pid}
      {tids : List Pid}
      {went : Bool}
      {asked : List (Pid × Bool)}
      {k k₁ k₂ k' : κ}
      (hState : getProcessState tid k = (.tracingStop, k₁))
      (hInStop : tid ∈ inStop k₁)
      (hCont : ptrace .cont tid k₁ = (went, k₂))
      (hRest : ContinuesStopped inStop tids k₂ asked k') :
      ContinuesStopped inStop (tid :: tids) k
        ((tid, went) :: asked) k'
  | passed
      {tid : Pid}
      {tids : List Pid}
      {state : ProcessState}
      {asked : List (Pid × Bool)}
      {k k₁ k' : κ}
      (hState : getProcessState tid k = (state, k₁))
      (hRunning : state ≠ .tracingStop)
      (hRest : ContinuesStopped inStop tids k₁ asked k') :
      ContinuesStopped inStop (tid :: tids) k asked k'

/-
  The rounds of `resume` continue those they ask, which are
  in a stop then, and they ask each thread that is in one
  when they begin.
-/
theorem Rounds.resumed
    (hLaws : ControlLaws inStop continued signalled)
    (hMem : ∀ tid ∈ tids, tid ∈ c.tids)
    (hRounds :
      Rounds (fun state => state = .tracingStop)
        (fun tid k => c.resumeThread tid k) tids k asked k') :
    continued k' = continued k ++ asked ∧
      signalled k' = signalled k ∧
      ContinuesStopped inStop tids k asked k' ∧
      ∀ tid ∈ tids, tid ∈ inStop k →
        tid ∈ asked.map Prod.fst := by
  induction hRounds with
  | done =>
      exact ⟨(List.append_nil _).symm, rfl, .done,
        fun tid hHere _ => absurd hHere List.not_mem_nil⟩
  | @acted tid tids state _ _ _ _ _ _ hState hWanted hAction _
      ih =>
      rcases List.forall_mem_cons.mp hMem with
        ⟨hHere, hLater⟩
      rcases hLaws.state hState with
        ⟨-, hSeen, hKept, hConts, hStops⟩
      have hCont := resumeThread_cont hHere hAction
      rcases hLaws.cont hCont with ⟨hKept', hConts', hStops'⟩
      rcases ih hLater with
        ⟨hRest, hQuiet, hAsked, hStopped⟩
      have hStop : state = .tracingStop :=
        of_decide_eq_true hWanted
      refine ⟨?_, hQuiet.trans (hStops'.trans hStops), ?_, ?_⟩
      · rw [hRest, hConts', hConts, List.append_assoc]
        rfl
      · exact .continued (hStop ▸ hState) (hSeen hStop) hCont
          hAsked
      · intro tid' hMem' hStop
        by_cases hEq : tid' = tid
        · rw [hEq]
          exact List.mem_cons_self
        · refine List.mem_cons_of_mem _ (hStopped tid' ?_ ?_)
          · exact (List.mem_cons.mp hMem').resolve_left hEq
          · exact hKept' ⟨hKept hStop, hEq⟩
  | @skipped tid tids _ _ _ _ _ hState hWanted _ ih =>
      rcases List.forall_mem_cons.mp hMem with ⟨-, hLater⟩
      rcases hLaws.state hState with
        ⟨hSeen, -, hKept, hConts, hStops⟩
      rcases ih hLater with
        ⟨hRest, hQuiet, hAsked, hStopped⟩
      have hRunning := of_decide_eq_false hWanted
      refine ⟨hRest.trans (by rw [hConts]),
        hQuiet.trans hStops, .passed hState hRunning hAsked,
        ?_⟩
      intro tid' hMem' hStop
      have hOther : tid' ≠ tid := by
        rintro rfl
        exact hRunning (hSeen hStop)
      exact hStopped tid'
        ((List.mem_cons.mp hMem').resolve_left hOther)
        (hKept hStop)

/-
  `resume` asks for a continuation of threads of the session
  only, of each at most as often as it is listed, and of
  each that is in a tracing stop when it begins; a thread
  that it asks for is in a stop in the world in which it
  asks.  It sends no signal.  It is a success exactly if all
  went through, and counts those that did if not.
-/
theorem resume_continues
    (hLaws : ControlLaws inStop continued signalled)
    (hPid : 0 < c.pid)
    (hTids : c.tids ≠ [])
    (k : κ) :
    ∃ asked : List (Pid × Bool),
      continued (c.resume k).2 = continued k ++ asked ∧
        signalled (c.resume k).2 = signalled k ∧
        (asked.map Prod.fst).Sublist c.tids ∧
        ContinuesStopped inStop c.tids k asked
          (c.resume k).2 ∧
        (∀ tid ∈ c.tids, tid ∈ inStop k →
          tid ∈ asked.map Prod.fst) ∧
        (c.resume k).1 =
          if ∀ entry ∈ asked, entry.2 = true then
            .successText (utf8 "resume 所有线程成功")
          else
            .fail (utf8 "部分线程恢复失败"
              ++ rate (asked.countP Prod.snd) c.tids) := by
  have hSome : ¬ (c.pid ≤ 0 ∨ c.tids = []) :=
    not_or.mpr ⟨Int.not_le.mpr hPid, hTids⟩
  have hLoop :=
    @forThreads_rounds κ _ (fun state => state = .tracingStop)
      (fun tid k => c.resumeThread tid k) c.tids k
  unfold resume
  rw [if_neg hSome]
  generalize forThreads (fun state => state = .tracingStop)
    (fun tid k => c.resumeThread tid k) c.tids k = loop
    at hLoop ⊢
  rcases loop with ⟨⟨allOk, successCount⟩, k'⟩
  rcases hLoop with ⟨asked, hRounds, hCount⟩
  cases hCount
  rcases hRounds.resumed hLaws (fun tid hMem => hMem) with
    ⟨hConts, hStops, hAsked, hStopped⟩
  dsimp only
  rw [answer_eq]
  exact ⟨asked, hConts, hStops, hRounds.sublist, hAsked,
    hStopped, rfl⟩

/- One of two stopped threads is continued. -/
theorem resume_continues_some :
    let c := { init with pid := 7, tids := [7, 8, 9] }
    let k : ControlledThreads := ⟨[7, 9], [9], [], []⟩
    ∃ asked : List (Pid × Bool),
      (c.resume k).2.continued = k.continued ++ asked ∧
        (c.resume k).2.signalled = k.signalled ∧
        (asked.map Prod.fst).Sublist c.tids ∧
        ContinuesStopped ControlledThreads.inStop c.tids k
          asked (c.resume k).2 ∧
        (∀ tid ∈ c.tids, tid ∈ k.inStop →
          tid ∈ asked.map Prod.fst) ∧
        (c.resume k).1 =
          if ∀ entry ∈ asked, entry.2 = true then
            .successText (utf8 "resume 所有线程成功")
          else
            .fail (utf8 "部分线程恢复失败"
              ++ rate (asked.countP Prod.snd) c.tids) :=
  resume_continues ControlledThreads.controlLaws (by decide)
    (by decide) _

end DebuggerCore

end AnDbg

------------------------------------------------------------
-- Pausing
------------------------------------------------------------

namespace AnDbg

namespace DebuggerCore

open Kernel

variable {κ : Type}
variable [Kernel κ]
variable {inStop : κ → Set Pid}
variable {continued signalled : κ → List (Pid × Bool)}
variable {c : DebuggerCore}
variable {tid : Pid} {tids : List Pid}
variable {asked : List (Pid × Bool)}
variable {k k' : κ}

/- A signal is asked for a thread of the list. -/
theorem pauseThread_sigstop
    {s : Status}
    (hMem : tid ∈ c.tids)
    (hPause : c.pauseThread tid k = (s, k')) :
    ∃ ret, Kernel.kill tid .sigstop k = (ret, k') ∧
      s.isSuccess = decide (ret = 0) := by
  unfold pauseThread at hPause
  rw [if_neg (not_not.mpr hMem)] at hPause
  rcases hKill : Kernel.kill tid .sigstop k with ⟨ret, k₁⟩
  rw [hKill] at hPause
  dsimp only at hPause
  by_cases hRet : ret = 0
  · rw [if_neg (not_not.mpr hRet)] at hPause
    cases hPause
    exact ⟨ret, rfl, (decide_eq_true hRet).symm⟩
  · rw [if_pos hRet] at hPause
    cases hPause
    exact ⟨ret, rfl, (decide_eq_false hRet).symm⟩

/-
  The rounds of `pause` ask for the signals; a thread that
  they leave out is in a stop from then on, and one that is
  in a stop before is left out.
-/
theorem Rounds.paused
    (hLaws : ControlLaws inStop continued signalled)
    (hMem : ∀ tid ∈ tids, tid ∈ c.tids)
    (hRounds :
      Rounds (fun state => state ≠ .tracingStop)
        (fun tid k => c.pauseThread tid k) tids k asked k') :
    signalled k' = signalled k ++ asked ∧
      continued k' = continued k ∧
      inStop k ⊆ inStop k' ∧
      (∀ entry ∈ asked, entry.1 ∉ inStop k) ∧
      ∀ tid ∈ tids,
        tid ∈ inStop k' ∨ tid ∈ asked.map Prod.fst := by
  induction hRounds with
  | done =>
      exact ⟨(List.append_nil _).symm, rfl, subset_rfl,
        fun entry hHere => absurd hHere List.not_mem_nil,
        fun tid hHere => absurd hHere List.not_mem_nil⟩
  | @acted tid tids _ _ _ _ _ _ _ hState hWanted hAction _
      ih =>
      rcases List.forall_mem_cons.mp hMem with
        ⟨hHere, hLater⟩
      rcases hLaws.state hState with
        ⟨hSeen, -, hKept, hConts, hStops⟩
      rcases pauseThread_sigstop hHere hAction with
        ⟨ret, hKill, hSuccess⟩
      rcases hLaws.sigstop hKill with
        ⟨hKept', hConts', hStops'⟩
      rcases ih hLater with
        ⟨hRest, hQuiet, hKept'', hRunning, hLeft⟩
      have hBefore := hKept.trans hKept'
      refine ⟨?_, hQuiet.trans (hConts'.trans hConts),
        hBefore.trans hKept'', ?_, ?_⟩
      · rw [hRest, hStops', hStops, hSuccess,
          List.append_assoc]
        rfl
      · refine List.forall_mem_cons.mpr ⟨?_, ?_⟩
        · intro hStop
          exact of_decide_eq_true hWanted (hSeen hStop)
        · intro entry hEntry hStop
          exact hRunning entry hEntry (hBefore hStop)
      · intro tid' hMem'
        rcases List.mem_cons.mp hMem' with rfl | hThere
        · exact .inr List.mem_cons_self
        · rcases hLeft tid' hThere with hStop | hAsked
          · exact .inl hStop
          · exact .inr (List.mem_cons_of_mem _ hAsked)
  | @skipped tid tids state _ _ _ _ hState hWanted _ ih =>
      rcases List.forall_mem_cons.mp hMem with ⟨-, hLater⟩
      rcases hLaws.state hState with
        ⟨-, hSeen, hKept, hConts, hStops⟩
      rcases ih hLater with
        ⟨hRest, hQuiet, hKept', hRunning, hLeft⟩
      have hStop : state = .tracingStop :=
        not_not.mp (of_decide_eq_false hWanted)
      refine ⟨hRest.trans (by rw [hStops]),
        hQuiet.trans hConts, hKept.trans hKept', ?_, ?_⟩
      · intro entry hEntry hBefore
        exact hRunning entry hEntry (hKept hBefore)
      · intro tid' hMem'
        rcases List.mem_cons.mp hMem' with rfl | hThere
        · exact .inl (hKept' (hSeen hStop))
        · exact hLeft tid' hThere

/-
  `pause` asks for a signal to threads of the session only,
  to each at most as often as it is listed and to none that
  is in a tracing stop when it begins, and at its end every
  thread of the session is in a tracing stop or a signal to
  it was asked for.  It continues no thread.  It is a
  success exactly if all signals were sent, and counts those
  that were if not.
-/
theorem pause_stops
    (hLaws : ControlLaws inStop continued signalled)
    (hPid : 0 < c.pid)
    (hTids : c.tids ≠ [])
    (k : κ) :
    ∃ asked : List (Pid × Bool),
      signalled (c.pause k).2 = signalled k ++ asked ∧
        continued (c.pause k).2 = continued k ∧
        (asked.map Prod.fst).Sublist c.tids ∧
        (∀ entry ∈ asked, entry.1 ∉ inStop k) ∧
        (∀ tid ∈ c.tids,
          tid ∈ inStop (c.pause k).2 ∨
            tid ∈ asked.map Prod.fst) ∧
        (c.pause k).1 =
          if ∀ entry ∈ asked, entry.2 = true then
            .successText (utf8 "pause 所有线程成功")
          else
            .fail (utf8 "部分线程暂停失败"
              ++ rate (asked.countP Prod.snd) c.tids) := by
  have hSome : ¬ (c.pid ≤ 0 ∨ c.tids = []) :=
    not_or.mpr ⟨Int.not_le.mpr hPid, hTids⟩
  have hLoop :=
    @forThreads_rounds κ _ (fun state => state ≠ .tracingStop)
      (fun tid k => c.pauseThread tid k) c.tids k
  unfold pause
  rw [if_neg hSome]
  generalize forThreads (fun state => state ≠ .tracingStop)
    (fun tid k => c.pauseThread tid k) c.tids k = loop
    at hLoop ⊢
  rcases loop with ⟨⟨allOk, successCount⟩, k'⟩
  rcases hLoop with ⟨asked, hRounds, hCount⟩
  cases hCount
  rcases hRounds.paused hLaws (fun tid hMem => hMem) with
    ⟨hStops, hConts, -, hRunning, hLeft⟩
  dsimp only
  rw [answer_eq]
  exact ⟨asked, hStops, hConts, hRounds.sublist, hRunning,
    hLeft, rfl⟩

/- Two running threads are signalled, one in vain. -/
theorem pause_stops_some :
    let c := { init with pid := 7, tids := [7, 8, 9] }
    let k : ControlledThreads := ⟨[8], [9], [], []⟩
    ∃ asked : List (Pid × Bool),
      (c.pause k).2.signalled = k.signalled ++ asked ∧
        (c.pause k).2.continued = k.continued ∧
        (asked.map Prod.fst).Sublist c.tids ∧
        (∀ entry ∈ asked, entry.1 ∉ k.inStop) ∧
        (∀ tid ∈ c.tids,
          tid ∈ (c.pause k).2.inStop ∨
            tid ∈ asked.map Prod.fst) ∧
        (c.pause k).1 =
          if ∀ entry ∈ asked, entry.2 = true then
            .successText (utf8 "pause 所有线程成功")
          else
            .fail (utf8 "部分线程暂停失败"
              ++ rate (asked.countP Prod.snd) c.tids) :=
  pause_stops ControlledThreads.controlLaws (by decide)
    (by decide) _

end DebuggerCore

end AnDbg
