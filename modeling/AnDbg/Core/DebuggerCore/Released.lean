import AnDbg.Core.DebuggerCore.Launch
import AnDbg.Lib.Tracing

/-
  What `launch` leaves traced.

  A `PTRACE_DETACH` takes effect only on a stopped process.
  Up to where zygote is let run nothing else is traced and
  every exit lets it go.  From then on zygote may run when
  `launch` gives up, the app may run when it is found, and
  processes that were forked in between are never let go.

  Main declarations:
    * `AnDbg.LaunchLaws` and `AnDbg.AttachTraces`
    * `AnDbg.DebuggerCore.Released`
    * `AnDbg.DebuggerCore.LeavesClean`
    * `AnDbg.DebuggerCore.released_leave_iff`
    * `AnDbg.DebuggerCore.atExit_reach`
    * `AnDbg.SimulatedSystem`
    * `AnDbg.DebuggerCore.launch_released_iff`
-/

------------------------------------------------------------
-- Answers Of The Kernel
------------------------------------------------------------

namespace AnDbg

open Kernel LaunchKernel Tracing

/-
  What the calls of `launch` do to the traced processes.  A
  request acts at once; during any other call they may move
  of themselves.  A status word that `waitpid` yields is
  true of the process: one that is reported as stopped does
  not run, and one that has ended is not traced any more.
-/
structure LaunchLaws
    {κ : Type}
    [LaunchKernel κ]
    (trace : κ → Trace Pid) : Prop where
  attach_true :
    ∀ p (k : κ), (ptrace .attach p k).1 = true →
      trace (ptrace .attach p k).2 = (trace k).attach p
  attach_false :
    ∀ p (k : κ), (ptrace .attach p k).1 = false →
      trace (ptrace .attach p k).2 = trace k
  trace_detach :
    ∀ p (k : κ),
      trace (ptrace .detach p k).2 = (trace k).detach p
  trace_cont :
    ∀ p (k : κ),
      trace (ptrace .cont p k).2 = (trace k).cont p
  trace_syscall :
    ∀ p (k : κ),
      trace (syscall p k).2 = (trace k).cont p
  trace_setForkOptions :
    ∀ p (k : κ), trace (setForkOptions p k).2 = trace k
  trace_getEventMsg :
    ∀ p (k : κ), trace (getEventMsg p k).2 = trace k
  moves_waitpid :
    ∀ p (k : κ), Moves (trace k) (trace (waitpid p k).2)
  moves_waitAny :
    ∀ k : κ, Moves (trace k) (trace (waitAny k).2)
  moves_system :
    ∀ command (k : κ),
      Moves (trace k) (trace (system command k).2)
  moves_now :
    ∀ k : κ, Moves (trace k) (trace (now k).2)
  moves_sleepFor :
    ∀ milliseconds (k : κ),
      Moves (trace k) (trace (sleepFor milliseconds k))
  moves_findPid :
    ∀ name (k : κ),
      Moves (trace k) (trace (findPidByProcessName name k).2)
  moves_findPackageName :
    ∀ p (k : κ),
      Moves (trace k) (trace (findPackageNameByPid p k).2)
  wait_stopped :
    ∀ k : κ, 0 < (waitAny k).1.1 →
      wifstopped (waitAny k).1.2 = true →
      (trace (waitAny k).2).mode (waitAny k).1.1 ≠ .running
  wait_ended :
    ∀ k : κ, 0 < (waitAny k).1.1 →
      (wifexited (waitAny k).1.2 ||
        wifsignaled (waitAny k).1.2) = true →
      ¬ (trace (waitAny k).2).Traced (waitAny k).1.1

/-
  For a process that is not in a stop, `attach` traces just
  the threads that it records, none of which was traced, or
  it fails and traces none.
-/
structure AttachTraces
    {κ : Type}
    [Kernel κ]
    (trace : κ → Trace Pid) : Prop where
  success :
    ∀ (c : DebuggerCore) pid (k : κ),
      (trace k).mode pid ≠ .stopped →
      (c.attach pid k).result.isSuccess = true →
      (∀ p, (trace (c.attach pid k).world).Traced p ↔
          (trace k).Traced p ∨
            p ∈ (c.attach pid k).object.tids) ∧
        ∀ p ∈ (c.attach pid k).object.tids,
          ¬ (trace k).Traced p
  failure :
    ∀ (c : DebuggerCore) pid (k : κ),
      (trace k).mode pid ≠ .stopped →
      (c.attach pid k).result.isSuccess = false →
      ∀ p, (trace (c.attach pid k).world).Traced p ↔
        (trace k).Traced p

end AnDbg

------------------------------------------------------------
-- Leaving
------------------------------------------------------------

namespace AnDbg

namespace DebuggerCore

open Kernel LaunchKernel Tracing

variable {κ : Type}

/-
  Exactly the recorded threads are traced after a success,
  and nothing after a failure.
-/
def Released
    (trace : κ → Trace Pid)
    (out : Outcome DebuggerCore κ Status) : Prop :=
  ∀ p, (trace out.world).Traced p ↔
    out.result.isSuccess = true ∧ p ∈ out.object.tids

/- The processes forked under the trace have ended again. -/
def ChildrenEnded
    (spared : List Pid)
    (t : Trace Pid) : Prop :=
  ∀ p ∈ t.born, p ∉ spared → ¬ t.Traced p

/-
  What is traced at an exit can be let go there: nothing but
  zygote is traced up to where it is let run.  Later its
  children have to have ended, but for the app that was
  found, and a process that is let go must not run.
-/
def LeavesClean
    (zygotePid : Pid)
    (t : Trace Pid) : LaunchExit → Prop
| .noZygote => True
| .notAttached => True
| .notStopped => True
| .noOptions => True
| .notStarted _ =>
    t.mode zygotePid ≠ .running ∧ ChildrenEnded [zygotePid] t
| .timedOut =>
    t.mode zygotePid ≠ .running ∧ ChildrenEnded [zygotePid] t
| .waitFailed =>
    t.mode zygotePid ≠ .running ∧ ChildrenEnded [zygotePid] t
| .zygoteExited => ChildrenEnded [zygotePid] t
| .found appPid =>
    t.mode appPid ≠ .running ∧
      ChildrenEnded [appPid, zygotePid] t

/- What is known of the traced processes at an exit. -/
def AtExit
    (zygotePid : Pid)
    (t : Trace Pid) : LaunchExit → Prop
| .noZygote => t.Silent
| .notAttached => t.Silent
| .notStopped => (t.detach zygotePid).Silent
| .noOptions => (t.detach zygotePid).Silent
| .zygoteExited =>
    Rooted zygotePid t ∧ ¬ t.Traced zygotePid
| .found _ =>
    Rooted zygotePid t ∧ t.mode zygotePid ≠ .running
| _ => Rooted zygotePid t

variable {t : Trace Pid} {zygotePid appPid : Pid}

/-
  Among processes of which zygote is one, letting them all
  go is enough if none of them runs and all other children
  have ended.
-/
theorem allStopped_iff
    {detached : List Pid}
    (hRooted : Rooted zygotePid t)
    (hZygote : zygotePid ∈ detached) :
    (∀ p, t.Traced p → p ∈ detached ∧ t.mode p = .stopped) ↔
      (∀ p ∈ detached, t.mode p ≠ .running) ∧
        ChildrenEnded detached t := by
  constructor
  · intro hAll
    refine ⟨?_, ?_⟩
    · intro p _ hRuns
      have hStopped := (hAll p (Trace.traced_of_running hRuns)).2
      rw [hRuns] at hStopped
      exact Mode.noConfusion hStopped
    · intro p _ hOther hTraced
      exact hOther (hAll p hTraced).1
  · rintro ⟨hNot, hEnded⟩ p hTraced
    have hMem : p ∈ detached := by
      by_contra hOther
      rcases hRooted p hTraced with rfl | hBorn
      · exact hOther hZygote
      · exact hEnded p hBorn hOther hTraced
    exact ⟨hMem, hTraced.stopped (hNot p hMem)⟩

/- When only zygote is let go. -/
theorem silent_detach_zygote_iff
    (hRooted : Rooted zygotePid t) :
    (t.detach zygotePid).Silent ↔
      t.mode zygotePid ≠ .running ∧
        ChildrenEnded [zygotePid] t := by
  have hAll :=
    allStopped_iff hRooted (List.mem_singleton.mpr rfl)
  simp only [List.mem_singleton, forall_eq] at hAll
  rw [Trace.silent_detach_iff, hAll]

/- When the app that was found is let go as well. -/
theorem silent_detach_both_iff
    (hRooted : Rooted zygotePid t)
    (hZygote : t.mode zygotePid ≠ .running) :
    ((t.detach appPid).detach zygotePid).Silent ↔
      t.mode appPid ≠ .running ∧
        ChildrenEnded [appPid, zygotePid] t := by
  have hAll :=
    allStopped_iff hRooted
      (List.mem_pair.mpr (.inr rfl) :
        zygotePid ∈ [appPid, zygotePid])
  simp only [List.mem_pair, forall_eq_or_imp, forall_eq]
    at hAll
  rw [Trace.silent_detach_detach_iff, hAll,
    and_iff_left hZygote]

variable {trace : κ → Trace Pid}
variable {c : DebuggerCore}

/- A failure has to leave nothing traced. -/
theorem released_of_fail
    {out : Outcome DebuggerCore κ Status}
    (hFail : out.result.isSuccess = false) :
    Released trace out ↔ (trace out.world).Silent := by
  unfold Released Trace.Silent
  refine forall_congr' fun p => ?_
  rw [hFail]
  exact iff_false_right fun h => Bool.false_ne_true h.1

/- Zygote is let go and a failure is returned. -/
theorem released_leaveZygote_iff
    [LaunchKernel κ]
    (hLaws : LaunchLaws trace)
    (text : κ → StdString)
    (k : κ) :
    Released trace (leaveZygote zygotePid text c k) ↔
      ((trace k).detach zygotePid).Silent := by
  rw [released_of_fail rfl, ← hLaws.trace_detach]
  rfl

/- The attaching at the end, with the status made of it. -/
theorem released_attach_iff
    [Kernel κ]
    (hAttach : AttachTraces trace)
    (c : DebuggerCore)
    (pid : Pid)
    (k : κ)
    (hNot : (trace k).mode pid ≠ .stopped)
    {out : Outcome DebuggerCore κ Status}
    (hWorld : out.world = (c.attach pid k).world)
    (hTids :
      out.object.tids = (c.attach pid k).object.tids)
    (hResult :
      out.result.isSuccess =
        (c.attach pid k).result.isSuccess) :
    Released trace out ↔ (trace k).Silent := by
  unfold Released Trace.Silent
  rw [hWorld, hTids, hResult]
  cases hDone : (c.attach pid k).result.isSuccess with
  | true =>
      rcases hAttach.success c pid k hNot hDone with
        ⟨hTraced, hNew⟩
      refine forall_congr' fun p => ?_
      rw [hTraced]
      constructor
      · intro hOnly hOld
        exact hNew p (hOnly.mp (.inl hOld)).2 hOld
      · intro hNone
        exact ⟨fun h => ⟨rfl, h.resolve_left hNone⟩,
          fun h => .inr h.2⟩
  | false =>
      refine forall_congr' fun p => ?_
      rw [hAttach.failure c pid k hNot hDone]
      exact iff_false_right fun h => Bool.false_ne_true h.1

/-
  From an exit on nothing stays traced but what the status
  says exactly if the exit is clean.
-/
theorem released_leave_iff
    [LaunchKernel κ]
    (hLaws : LaunchLaws trace)
    (hAttach : AttachTraces trace)
    {exit : LaunchExit}
    {k : κ}
    (hExit : AtExit zygotePid (trace k) exit) :
    Released trace (leave zygotePid exit c k) ↔
      LeavesClean zygotePid (trace k) exit := by
  cases exit with
  | noZygote =>
      exact (released_of_fail rfl).trans
        (iff_true_intro hExit)
  | notAttached =>
      exact (released_of_fail rfl).trans
        (iff_true_intro hExit)
  | notStopped =>
      exact (released_leaveZygote_iff hLaws _ k).trans
        (iff_true_intro hExit)
  | noOptions =>
      exact (released_leaveZygote_iff hLaws _ k).trans
        (iff_true_intro hExit)
  | notStarted ret =>
      exact (released_leaveZygote_iff hLaws _ k).trans
        (silent_detach_zygote_iff hExit)
  | timedOut =>
      exact (released_leaveZygote_iff hLaws _ k).trans
        (silent_detach_zygote_iff hExit)
  | waitFailed =>
      exact (released_leaveZygote_iff hLaws _ k).trans
        (silent_detach_zygote_iff hExit)
  | zygoteExited =>
      rcases hExit with ⟨hRooted, hGone⟩
      refine (released_leaveZygote_iff hLaws _ k).trans ?_
      rw [silent_detach_zygote_iff hRooted]
      exact and_iff_right fun hRuns =>
        hGone (Trace.traced_of_running hRuns)
  | found appPid =>
      rcases hExit with ⟨hRooted, hZygote⟩
      change _ ↔ (trace k).mode appPid ≠ .running ∧
        ChildrenEnded [appPid, zygotePid] (trace k)
      rw [← silent_detach_both_iff hRooted hZygote,
        ← hLaws.trace_detach, ← hLaws.trace_detach]
      unfold leave
      dsimp only
      split
      next => exact released_of_fail rfl
      next =>
        have hNot :
            (trace
                (ptrace .detach zygotePid
                  (ptrace .detach appPid k).2).2).mode appPid ≠
              .stopped := by
          rw [hLaws.trace_detach, hLaws.trace_detach]
          exact Trace.not_stopped_detach_of_not
            Trace.not_stopped_detach
        refine released_attach_iff hAttach c appPid _ hNot
          rfl rfl ?_
        dsimp only
        split
        next hDone => exact hDone.symm
        next hDone =>
          exact (Bool.eq_false_iff.mpr hDone).symm

end DebuggerCore

end AnDbg

------------------------------------------------------------
-- Reaching An Exit
------------------------------------------------------------

namespace AnDbg

namespace DebuggerCore

open Kernel LaunchKernel Loop Tracing

variable {κ : Type}
variable [LaunchKernel κ]
variable {trace : κ → Trace Pid}
variable {zygotePid : Pid} {packageName : StdString}

/- What a round of the loop keeps or comes to. -/
abbrev RoundMeets
    (trace : κ → Trace Pid)
    (zygotePid : Pid) :
    Pass κ (LaunchExit × κ) → Prop :=
  Pass.Meets (fun k => Rooted zygotePid (trace k))
    fun done => AtExit zygotePid (trace done.2) done.1

/- What the tracing of zygote comes to. -/
def TraceMeets
    (trace : κ → Trace Pid)
    (zygotePid : Pid) : Option LaunchExit × κ → Prop
| (some exit, k) => AtExit zygotePid (trace k) exit
| (none, k) => Rooted zygotePid (trace k)

section

variable (hLaws : LaunchLaws trace)
include hLaws

/- Making a process run ends a round. -/
theorem meets_cont
    {k : κ}
    (hRooted : Rooted zygotePid (trace k))
    (p : Pid) :
    RoundMeets trace zygotePid
      (.next (ptrace .cont p k).2) := by
  change Rooted zygotePid (trace _)
  rw [hLaws.trace_cont]
  exact hRooted.cont p

/- A fork event: zygote is in a stop. -/
theorem meets_forkPass
    {k : κ}
    (hRooted : Rooted zygotePid (trace k))
    (hZygote : (trace k).mode zygotePid ≠ .running) :
    RoundMeets trace zygotePid
      (forkPass zygotePid packageName k) := by
  unfold forkPass
  have hMessage := hLaws.trace_getEventMsg zygotePid k
  rcases hMsg : getEventMsg zygotePid k with
    ⟨_ | forkPid, k₁⟩
  · rw [hMsg] at hMessage
    rw [← hMessage] at hRooted
    exact meets_cont hLaws hRooted zygotePid
  · rw [hMsg] at hMessage
    rw [← hMessage] at hRooted hZygote
    have hMoves : Moves (trace k₁) _ :=
      (hLaws.moves_sleepFor 100 k₁).trans
        (hLaws.moves_findPackageName forkPid _)
    dsimp only
    rcases hName :
      findPackageNameByPid forkPid (sleepFor 100 k₁) with
      ⟨_ | childName, k₂⟩
    · rw [hName] at hMoves
      exact meets_cont hLaws (hMoves.rooted hRooted) zygotePid
    · rw [hName] at hMoves
      dsimp only
      split
      next =>
        exact meets_cont hLaws (hMoves.rooted hRooted)
          zygotePid
      next =>
        exact ⟨hMoves.rooted hRooted,
          hMoves.not_running hZygote⟩

/- An event of zygote, as it was reported. -/
theorem meets_zygotePass
    {status : BitVec 32}
    {k : κ}
    (hRooted : Rooted zygotePid (trace k))
    (hStopped :
      wifstopped status = true →
        (trace k).mode zygotePid ≠ .running)
    (hEnded :
      (wifexited status || wifsignaled status) = true →
        ¬ (trace k).Traced zygotePid) :
    RoundMeets trace zygotePid
      (zygotePass zygotePid packageName status k) := by
  unfold zygotePass
  split
  next hStops =>
    split
    next => exact meets_forkPass hLaws hRooted (hStopped hStops)
    next =>
      split
      next =>
        change Rooted zygotePid (trace _)
        rw [hLaws.trace_syscall]
        exact hRooted.cont zygotePid
      next => exact meets_cont hLaws hRooted zygotePid
  next =>
    split
    next hEnds => exact ⟨hRooted, hEnded hEnds⟩
    next => exact hRooted

/- A round of the loop. -/
theorem meets_watchPass
    (startTime : Int)
    {k : κ}
    (hRooted : Rooted zygotePid (trace k)) :
    RoundMeets trace zygotePid
      (watchPass startTime zygotePid packageName k) := by
  unfold watchPass
  have hClock := (hLaws.moves_now k).rooted hRooted
  rcases hNow : now k with ⟨time, k₁⟩
  rw [hNow] at hClock
  dsimp only at hClock ⊢
  split
  next => exact hClock
  next =>
    have hWaited := (hLaws.moves_waitAny k₁).rooted hClock
    have hStopped := hLaws.wait_stopped k₁
    have hEnded := hLaws.wait_ended k₁
    rcases hWait : waitAny k₁ with ⟨⟨wpid, status⟩, k₂⟩
    rw [hWait] at hWaited hStopped hEnded
    dsimp only at hWaited hStopped hEnded ⊢
    split
    next => exact hWaited
    next hNonneg =>
      split
      next =>
        exact (hLaws.moves_sleepFor 50 k₂).rooted hWaited
      next hNonzero =>
        have hPos : 0 < wpid :=
          lt_of_le_of_ne (Int.not_lt.mp hNonneg)
            (Ne.symm hNonzero)
        split
        next hZygote =>
          subst hZygote
          exact meets_zygotePass hLaws hWaited
            (hStopped hPos) (hEnded hPos)
        next => exact meets_cont hLaws hWaited wpid

/- The loop, over any number of rounds. -/
theorem atExit_watch
    {startTime : Int}
    {k : κ}
    {done : LaunchExit × κ}
    (hRooted : Rooted zygotePid (trace k))
    (hEnds :
      Ends (watchPass startTime zygotePid packageName) k
        done) :
    AtExit zygotePid (trace done.2) done.1 := by
  refine Ends.of_meets
    (fun k => Rooted zygotePid (trace k))
    (fun done => AtExit zygotePid (trace done.2) done.1)
    ?_ hRooted hEnds
  intro k hRooted
  exact meets_watchPass hLaws startTime hRooted

/- Tracing zygote, from where nothing is traced. -/
theorem meets_traceZygote
    {k : κ}
    (hSilent : (trace k).Silent) :
    TraceMeets trace zygotePid (traceZygote zygotePid k) := by
  unfold traceZygote
  have hTrue := hLaws.attach_true zygotePid k
  have hFalse := hLaws.attach_false zygotePid k
  rcases hPtrace : ptrace .attach zygotePid k with
    ⟨_ | _, k₁⟩
  · rw [hPtrace] at hFalse
    change (trace k₁).Silent
    rw [hFalse rfl]
    exact hSilent
  · rw [hPtrace] at hTrue
    have hMoves := hLaws.moves_waitpid zygotePid k₁
    rw [hTrue rfl] at hMoves
    dsimp only
    split
    next => exact hSilent.detach_of_moves hMoves
    next =>
      have hSet :=
        hLaws.trace_setForkOptions zygotePid
          (waitpid zygotePid k₁).2
      rcases hOptions :
        setForkOptions zygotePid (waitpid zygotePid k₁).2 with
        ⟨_ | _, k₂⟩
      · rw [hOptions] at hSet
        rw [← hSet] at hMoves
        exact hSilent.detach_of_moves hMoves
      · rw [hOptions] at hSet
        rw [← hSet] at hMoves
        change Rooted zygotePid (trace _)
        rw [hLaws.trace_cont]
        exact (hMoves.rooted (hSilent.rooted_attach)).cont _

/- Looking for zygote under either name. -/
theorem moves_findZygote
    (k : κ) :
    Moves (trace k) (trace (findZygote k).2) := by
  unfold findZygote
  have hFirst := hLaws.moves_findPid (ascii "zygote64") k
  split
  next k₁ hFind =>
    rw [hFind] at hFirst
    exact hFirst.trans
      (hLaws.moves_findPid (ascii "zygote") k₁)
  next => exact hFirst

/- The way to an exit, from where nothing is traced. -/
theorem atExit_reach
    {rounds : Nat}
    {packageActivity : StdString}
    {exit : LaunchExit}
    {k k' : κ}
    (hSilent : (trace k).Silent)
    (hReach :
      reach rounds packageActivity k =
        some (.ok (zygotePid, exit), k')) :
    AtExit zygotePid (trace k') exit := by
  have hBefore := fun command =>
    ((hSilent.moves (hLaws.moves_system command k)).moves
      (hLaws.moves_sleepFor 300 _)).moves
        (moves_findZygote hLaws _)
  have hFound := hBefore (cStr
    (ascii "am force-stop " ++ packageOf packageActivity))
  unfold reach at hReach
  dsimp only at hReach
  split at hReach
  next => cases hReach
  next k₁ hFind =>
    cases hReach
    rw [hFind] at hFound
    exact hFound
  next pid _ k₁ hFind =>
    rw [hFind] at hFound
    have hTrace :
        TraceMeets trace pid (traceZygote pid k₁) :=
      meets_traceZygote hLaws hFound
    split at hReach
    next early k₂ hEarly =>
      cases hReach
      rw [hEarly] at hTrace
      exact hTrace
    next k₂ hGoesOn =>
      rw [hGoesOn] at hTrace
      have hStarted := fun command =>
        (hLaws.moves_system command k₂).rooted hTrace
      split at hReach
      next =>
        cases hReach
        exact hStarted _
      next =>
        have hClock := fun command =>
          (hLaws.moves_now _).rooted (hStarted command)
        rcases Option.map_eq_some_iff.mp hReach with
          ⟨⟨last, k₃⟩, hRun, hEq⟩
        cases hEq
        exact atExit_watch hLaws (hClock _) ⟨rounds, hRun⟩

end

end DebuggerCore

end AnDbg

------------------------------------------------------------
-- A Simulated System
------------------------------------------------------------

namespace AnDbg

open Tracing

/- What a wait for any process comes upon. -/
inductive WaitEvent
  | forks (parent child : Pid)
  | stops (pid : Pid)
  | nothing
  | error

/-
  A system with zygote at 100, the events that are to come,
  and the names and the status of its processes and
  commands.
-/
structure SimulatedSystem where
  trace : Trace Pid
  events : List WaitEvent
  message : Pid
  packageName : Pid → Option StdString
  startResult : Int

namespace SimulatedSystem

/- A request for one process. -/
def request
    (s : SimulatedSystem)
    (p : Pid) : PtraceRequest → Bool × SimulatedSystem
| .attach =>
    if 0 < p ∧ s.trace.mode p = .untraced then
      (true, { s with trace := s.trace.attach p })
    else
      (false, s)
| .detach =>
    (s.trace.mode p == .stopped,
      { s with trace := s.trace.detach p })
| .cont =>
    (s.trace.mode p == .stopped,
      { s with trace := s.trace.cont p })
| .singlestep =>
    (s.trace.mode p == .stopped,
      { s with trace := s.trace.cont p })
| .setOptions => (true, s)

/- An event happens, if it can, and is reported. -/
def happen
    (s : SimulatedSystem) :
    WaitEvent → (Pid × BitVec 32) × SimulatedSystem
| .forks parent child =>
    if s.trace.mode parent = .running ∧
        s.trace.mode child = .untraced then
      ((parent, 0x1057F),
        { s with
          trace := s.trace.fork parent child
          message := child })
    else
      ((0, 0), s)
| .stops pid =>
    if s.trace.mode pid = .stopped then
      ((pid, 0x137F), s)
    else
      ((0, 0), s)
| .nothing => ((0, 0), s)
| .error => ((-1, 0), s)

instance : LaunchKernel SimulatedSystem where
  ptrace request p s := s.request p request
  waitpid p s := ((p, 0x137F), s)
  kill _ _ s := (0, s)
  getThreadIds p s := ([p], s)
  getProcessState p s :=
    (match s.trace.mode p with
      | .untraced => .sleeping
      | .running => .running
      | .stopped => .tracingStop, s)
  sleepFor _ s := s
  errno _ := 10
  strerror _ _ := ascii "No child processes"
  setForkOptions _ s := (true, s)
  syscall p s := s.request p .cont
  getEventMsg _ s := (some s.message, s)
  waitAny s :=
    match s.events with
    | [] => s.happen .nothing
    | event :: events => { s with events := events }.happen event
  system _ s := (s.startResult, s)
  now s := (0, s)
  findPidByProcessName _ s := (.ok [100], s)
  findPackageNameByPid p s := (s.packageName p, s)

/- An event is a move of the processes, or none. -/
theorem moves_happen
    (s : SimulatedSystem)
    (event : WaitEvent) :
    Moves s.trace (s.happen event).2.trace := by
  fun_cases happen s event with
  | case1 parent child hCan =>
      exact .single (.fork hCan.1 hCan.2)
  | case2 => exact .refl
  | case3 => exact .refl
  | case4 => exact .refl
  | case5 => exact .refl
  | case6 => exact .refl

/- What is reported has stopped and has not ended. -/
theorem stopped_of_happen
    (s : SimulatedSystem)
    (event : WaitEvent) :
    0 < (s.happen event).1.1 →
      (s.happen event).2.trace.mode (s.happen event).1.1 =
          .stopped ∧
        (wifexited (s.happen event).1.2 ||
          wifsignaled (s.happen event).1.2) = false := by
  fun_cases happen s event with
  | case1 parent child =>
      intro _
      refine ⟨?_, by simp only; decide⟩
      simp
  | case2 => simp
  | case3 pid hStopped =>
      intro _
      exact ⟨hStopped, by simp only; decide⟩
  | case4 => simp
  | case5 => simp
  | case6 => simp

/- A wait for any process is one for the event at hand. -/
theorem waitAny_eq_happen
    (s : SimulatedSystem) :
    ∃ (s' : SimulatedSystem) (event : WaitEvent),
      s'.trace = s.trace ∧
        LaunchKernel.waitAny s = s'.happen event := by
  cases hEvents : s.events with
  | nil =>
      refine ⟨s, .nothing, rfl, ?_⟩
      simp only [LaunchKernel.waitAny, hEvents]
  | cons event events =>
      refine ⟨{ s with events := events }, event, rfl, ?_⟩
      simp only [LaunchKernel.waitAny, hEvents]

theorem launchLaws :
    LaunchLaws SimulatedSystem.trace where
  attach_true p s := by
    change (s.request p .attach).1 = true →
      (s.request p .attach).2.trace = _
    rw [request]
    split <;> simp
  attach_false p s := by
    change (s.request p .attach).1 = false →
      (s.request p .attach).2.trace = _
    rw [request]
    split <;> simp
  trace_detach _ _ := rfl
  trace_cont _ _ := rfl
  trace_syscall _ _ := rfl
  trace_setForkOptions _ _ := rfl
  trace_getEventMsg _ _ := rfl
  moves_waitpid _ _ := .refl
  moves_waitAny s := by
    rcases s.waitAny_eq_happen with ⟨s', event, hTrace, hWait⟩
    rw [hWait, ← hTrace]
    exact s'.moves_happen event
  moves_system _ _ := .refl
  moves_now _ := .refl
  moves_sleepFor _ _ := .refl
  moves_findPid _ _ := .refl
  moves_findPackageName _ _ := .refl
  wait_stopped s hPos _ := by
    rcases s.waitAny_eq_happen with ⟨s', event, -, hWait⟩
    rw [hWait] at hPos ⊢
    rw [(s'.stopped_of_happen event hPos).1]
    exact Mode.noConfusion
  wait_ended s hPos hEnds := by
    rcases s.waitAny_eq_happen with ⟨s', event, -, hWait⟩
    rw [hWait] at hPos hEnds
    rw [(s'.stopped_of_happen event hPos).2] at hEnds
    exact absurd hEnds Bool.false_ne_true

/- The state of a process that is not in a stop. -/
theorem getProcessState_of_not_stopped
    {p : Pid}
    {s : SimulatedSystem}
    (hNot : s.trace.mode p ≠ .stopped) :
    ∃ state, Kernel.getProcessState p s = (state, s) ∧
      state ≠ .tracingStop := by
  refine ⟨_, rfl, ?_⟩
  split
  next => exact ProcessState.noConfusion
  next => exact ProcessState.noConfusion
  next hStopped => exact absurd hStopped hNot

/- A round for such a process is the request alone. -/
theorem attachThread_eq
    {p : Pid}
    {s : SimulatedSystem}
    (hNot : s.trace.mode p ≠ .stopped) :
    DebuggerCore.attachThread p s = s.request p .attach := by
  rcases getProcessState_of_not_stopped hNot with
    ⟨state, hGet, hState⟩
  have hPtrace :
      Kernel.ptrace .attach p s = s.request p .attach := rfl
  unfold DebuggerCore.attachThread DebuggerCore.seizeThread
  rw [hGet]
  dsimp only
  rw [if_pos hState, hPtrace, request]
  by_cases hCan : 0 < p ∧ s.trace.mode p = .untraced
  · have hNonneg : ¬ p < 0 := Int.not_lt.mpr hCan.1.le
    rw [if_pos hCan]
    dsimp only [Kernel.waitpid]
    rw [if_neg hNonneg]
    rfl
  · rw [if_neg hCan]

/- `attach` to a process with one thread. -/
theorem attach_of_can
    {c : DebuggerCore}
    {pid : Pid}
    {s : SimulatedSystem}
    (hNot : s.trace.mode pid ≠ .stopped)
    (hCan : 0 < pid ∧ s.trace.mode pid = .untraced) :
    (c.attach pid s).result.isSuccess = true ∧
      (c.attach pid s).object.tids = [pid] ∧
      (c.attach pid s).world.trace = s.trace.attach pid := by
  have hThread := attachThread_eq hNot
  rw [request, if_pos hCan] at hThread
  have hIds : Kernel.getThreadIds pid s = ([pid], s) := rfl
  unfold DebuggerCore.attach
  rw [hIds]
  simp [DebuggerCore.attachThreads, hThread]

theorem attach_of_cannot
    {c : DebuggerCore}
    {pid : Pid}
    {s : SimulatedSystem}
    (hNot : s.trace.mode pid ≠ .stopped)
    (hCannot : ¬ (0 < pid ∧ s.trace.mode pid = .untraced)) :
    (c.attach pid s).result.isSuccess = false ∧
      (c.attach pid s).world.trace = s.trace := by
  have hThread := attachThread_eq hNot
  rw [request, if_neg hCannot] at hThread
  have hIds : Kernel.getThreadIds pid s = ([pid], s) := rfl
  unfold DebuggerCore.attach
  rw [hIds]
  simp [DebuggerCore.attachThreads, hThread]

theorem attachTraces :
    AttachTraces SimulatedSystem.trace where
  success c pid s hNot hDone := by
    by_cases hCan : 0 < pid ∧ s.trace.mode pid = .untraced
    · rcases attach_of_can (c := c) hNot hCan with
        ⟨-, hTids, hTrace⟩
      rw [hTids, hTrace]
      simp only [List.mem_singleton, forall_eq]
      exact ⟨fun p => Trace.traced_attach_iff,
        fun hTraced => hTraced hCan.2⟩
    · have hFail := (attach_of_cannot (c := c) hNot hCan).1
      rw [hFail] at hDone
      exact absurd hDone Bool.false_ne_true
  failure c pid s hNot hDone := by
    by_cases hCan : 0 < pid ∧ s.trace.mode pid = .untraced
    · have hSuccess := (attach_of_can (c := c) hNot hCan).1
      rw [hSuccess] at hDone
      exact absurd hDone.symm Bool.false_ne_true
    · rw [(attach_of_cannot (c := c) hNot hCan).2]
      exact fun p => Iff.rfl

end SimulatedSystem

end AnDbg

------------------------------------------------------------
-- Everything Is Let Go
------------------------------------------------------------

namespace AnDbg

namespace DebuggerCore

open Kernel LaunchKernel Tracing

variable {κ : Type}
variable [LaunchKernel κ]
variable {trace : κ → Trace Pid}

/- Where `launch` returns it has come to an exit. -/
theorem reach_of_launch
    {rounds : Nat}
    {packageActivity : StdString}
    {c : DebuggerCore}
    {k : κ}
    {out : Outcome DebuggerCore κ Status}
    (hLaunch :
      launch rounds packageActivity c k =
        some (returning out)) :
    ∃ zygotePid exit k',
      reach rounds packageActivity k =
          some (.ok (zygotePid, exit), k') ∧
        out = leave zygotePid exit c k' := by
  rcases Option.map_eq_some_iff.mp hLaunch with
    ⟨⟨_ | ⟨zygotePid, exit⟩, k'⟩, hReach, hLeft⟩
  · cases hLeft
  · refine ⟨zygotePid, exit, k', hReach, ?_⟩
    rcases out with ⟨status, c', k''⟩
    cases hLeft
    rfl

/- `launch` comes to an exit that is clean. -/
def CleanLaunch
    (trace : κ → Trace Pid)
    (rounds : Nat)
    (packageActivity : StdString)
    (k : κ) : Prop :=
  ∃ zygotePid exit k',
    reach rounds packageActivity k =
        some (.ok (zygotePid, exit), k') ∧
      LeavesClean zygotePid (trace k') exit

/-
  Where `launch` returns, just the threads of the session
  are traced exactly if it comes to a clean exit.
-/
theorem launch_released_iff
    (hLaws : LaunchLaws trace)
    (hAttach : AttachTraces trace)
    {rounds : Nat}
    {packageActivity : StdString}
    {c : DebuggerCore}
    {k : κ}
    {out : Outcome DebuggerCore κ Status}
    (hSilent : (trace k).Silent)
    (hLaunch :
      launch rounds packageActivity c k =
        some (returning out)) :
    Released trace out ↔
      CleanLaunch trace rounds packageActivity k := by
  rcases reach_of_launch hLaunch with
    ⟨zygotePid, exit, k', hReach, rfl⟩
  have hExit := atExit_reach hLaws hSilent hReach
  rw [released_leave_iff hLaws hAttach hExit]
  unfold CleanLaunch
  constructor
  · intro hClean
    exact ⟨zygotePid, exit, k', hReach, hClean⟩
  · rintro ⟨_, _, _, hReach', hClean⟩
    rw [hReach] at hReach'
    cases hReach'
    exact hClean

/- A system where nothing is traced yet. -/
def untracedSystem
    (events : List WaitEvent)
    (startResult : Int) : SimulatedSystem where
  trace := ⟨fun _ => .untraced, ∅⟩
  events := events
  message := 0
  packageName
  | 200 => some (ascii "a")
  | 300 => some (ascii "b")
  | _ => none
  startResult := startResult

theorem silent_untracedSystem
    (events : List WaitEvent)
    (startResult : Int) :
    (untracedSystem events startResult).trace.Silent :=
  fun _ hTraced => hTraced rfl

/- The wanted app is the first one that zygote forks. -/
theorem launch_released_iff_first :
    ∃ out,
      launch 1 (ascii "a/b") init
          (untracedSystem [.forks 100 200] 0) =
        some (returning out) ∧
      out.result.isSuccess = true ∧
      out.object.tids = [200] ∧
      Released SimulatedSystem.trace out := by
  have hRun :
      (launch 1 (ascii "a/b") init
          (untracedSystem [.forks 100 200] 0)).map
        (fun done =>
          (done.result.map Status.isSuccess,
            done.object.tids)) =
          some (.ok true, [200]) := rfl
  rcases Option.map_eq_some_iff.mp hRun with
    ⟨done, hLaunch, hSeen⟩
  rcases Prod.mk.inj hSeen with ⟨hReturned, hTids⟩
  rcases exists_returning hReturned with ⟨out, rfl, hSuccess⟩
  refine ⟨out, hLaunch, hSuccess, hTids, ?_⟩
  apply (launch_released_iff SimulatedSystem.launchLaws
    SimulatedSystem.attachTraces
    (silent_untracedSystem _ _) hLaunch).mpr
  refine ⟨100, .found 200, _, rfl, ?_, ?_⟩
  · exact Mode.noConfusion
  · intro p hBorn hOther
    rcases hBorn with rfl | hNone
    · exact absurd (by decide) hOther
    · cases hNone

/-
  The app cannot be started: zygote runs and stays traced.
  And another app is forked before the wanted one: it is
  made to run and stays traced.
-/
theorem launch_leaves_traced :
    LaunchLaws SimulatedSystem.trace ∧
    AttachTraces SimulatedSystem.trace ∧
    (∃ out,
      launch 0 (ascii "a/b") init (untracedSystem [] 1) =
        some (returning out) ∧
      out.result.isSuccess = false ∧
      out.world.trace.mode 100 = .running ∧
      ¬ Released SimulatedSystem.trace out) ∧
    ∃ out,
      launch 3 (ascii "a/b") init
          (untracedSystem
            [.forks 100 300, .stops 300, .forks 100 200] 0) =
        some (returning out) ∧
      out.result.isSuccess = true ∧
      out.object.tids = [200] ∧
      out.world.trace.mode 300 = .running ∧
      ¬ Released SimulatedSystem.trace out := by
  refine ⟨SimulatedSystem.launchLaws,
    SimulatedSystem.attachTraces, ?_, ?_⟩
  · have hRun :
        (launch 0 (ascii "a/b") init
            (untracedSystem [] 1)).map
          (fun done =>
            (done.result.map Status.isSuccess,
              done.world.trace.mode 100)) =
            some (.ok false, .running) := rfl
    rcases Option.map_eq_some_iff.mp hRun with
      ⟨done, hLaunch, hSeen⟩
    rcases Prod.mk.inj hSeen with ⟨hReturned, hMode⟩
    rcases exists_returning hReturned with ⟨out, rfl, hFail⟩
    refine ⟨out, hLaunch, hFail, hMode, ?_⟩
    intro hReleased
    have hBoth :=
      (hReleased 100).mp (Trace.traced_of_running hMode)
    rw [hFail] at hBoth
    exact Bool.false_ne_true hBoth.1
  · have hRun :
        (launch 3 (ascii "a/b") init
            (untracedSystem
              [.forks 100 300, .stops 300, .forks 100 200]
              0)).map
          (fun done =>
            (done.result.map Status.isSuccess,
              done.object.tids,
              done.world.trace.mode 300)) =
            some (.ok true, [200], .running) := rfl
    rcases Option.map_eq_some_iff.mp hRun with
      ⟨done, hLaunch, hSeen⟩
    simp only [Prod.mk.injEq] at hSeen
    rcases hSeen with ⟨hReturned, hTids, hMode⟩
    rcases exists_returning hReturned with
      ⟨out, rfl, hSuccess⟩
    refine ⟨out, hLaunch, hSuccess, hTids, hMode, ?_⟩
    intro hReleased
    have hBoth :=
      (hReleased 300).mp (Trace.traced_of_running hMode)
    have hMem : (300 : Pid) ∈ [(200 : Pid)] := hTids ▸ hBoth.2
    exact absurd hMem (by decide)

end DebuggerCore

end AnDbg
