import AnDbg.Core.DebuggerCore.Released

/-
  `launch` always comes to an end, and what it attaches to
  is the app.

  The loop that waits for the fork gives up at a deadline,
  so if every round lets the clock tick, no flood of events
  keeps it going.  It ends with a process only if zygote has
  reported in its last round that it has forked it, and it
  has the name of the package; in every other case the
  session is as it was.

  Main declarations:
    * `AnDbg.Ticks`
    * `AnDbg.Timed`
    * `AnDbg.DebuggerCore.Forked`
    * `AnDbg.DebuggerCore.isSome_launch`
    * `AnDbg.DebuggerCore.launch_attaches_app`
-/

------------------------------------------------------------
-- The Clock
------------------------------------------------------------

namespace AnDbg

open Kernel LaunchKernel

/-
  A clock that `now` reads and that a call of it moves on by
  at least a tick; no call of the loop of `launch` sets it
  back.
-/
structure Ticks
    {κ : Type}
    [LaunchKernel κ]
    (clock : κ → Int)
    (tick : Int) : Prop where
  now_reads :
    ∀ k : κ, (now k).1 = clock (now k).2
  now_ticks :
    ∀ k : κ, clock k + tick ≤ clock (now k).2
  waitAny :
    ∀ k : κ, clock k ≤ clock (waitAny k).2
  sleepFor :
    ∀ milliseconds (k : κ),
      clock k ≤ clock (sleepFor milliseconds k)
  ptrace :
    ∀ request pid (k : κ),
      clock k ≤ clock (ptrace request pid k).2
  syscall :
    ∀ pid (k : κ), clock k ≤ clock (syscall pid k).2
  getEventMsg :
    ∀ pid (k : κ), clock k ≤ clock (getEventMsg pid k).2
  findPackageNameByPid :
    ∀ pid (k : κ),
      clock k ≤ clock (findPackageNameByPid pid k).2

end AnDbg

------------------------------------------------------------
-- A World With A Clock
------------------------------------------------------------

namespace AnDbg

/-
  A world that answers every call as `κ` does, but for the
  clock, which every reading moves on by a second.
-/
structure Timed (κ : Type) where
  world : κ
  time : Int

namespace Timed

variable {κ : Type}

/- A call of the world, while the time stands still. -/
def call
    {α : Type}
    (f : κ → α × κ)
    (k : Timed κ) : α × Timed κ :=
  ((f k.world).1, ⟨(f k.world).2, k.time⟩)

variable [LaunchKernel κ]

instance : LaunchKernel (Timed κ) where
  ptrace request pid := call (Kernel.ptrace request pid)
  waitpid pid := call (Kernel.waitpid pid)
  kill pid signal := call (Kernel.kill pid signal)
  getThreadIds pid := call (Kernel.getThreadIds pid)
  getProcessState tid := call (Kernel.getProcessState tid)
  sleepFor milliseconds k :=
    ⟨Kernel.sleepFor milliseconds k.world, k.time⟩
  errno k := Kernel.errno k.world
  strerror code k := Kernel.strerror code k.world
  setForkOptions pid := call (LaunchKernel.setForkOptions pid)
  syscall pid := call (LaunchKernel.syscall pid)
  getEventMsg pid := call (LaunchKernel.getEventMsg pid)
  waitAny := call LaunchKernel.waitAny
  system command := call (LaunchKernel.system command)
  now k :=
    (k.time + 1000000000, ⟨k.world, k.time + 1000000000⟩)
  findPidByProcessName name :=
    call (LaunchKernel.findPidByProcessName name)
  findPackageNameByPid pid :=
    call (LaunchKernel.findPackageNameByPid pid)

theorem ticks :
    Ticks (time : Timed κ → Int) 1000000000 where
  now_reads _ := rfl
  now_ticks _ := le_refl _
  waitAny _ := le_refl _
  sleepFor _ _ := le_refl _
  ptrace _ _ _ := le_refl _
  syscall _ _ := le_refl _
  getEventMsg _ _ := le_refl _
  findPackageNameByPid _ _ := le_refl _

end Timed

end AnDbg

------------------------------------------------------------
-- The Loop Ends
------------------------------------------------------------

namespace AnDbg

namespace DebuggerCore

open Kernel LaunchKernel Loop

variable {κ : Type}
variable [LaunchKernel κ]
variable {clock : κ → Int} {tick : Int}
variable {startTime : Int} {zygotePid : Pid}
variable {packageName : StdString} {k k' : κ}

/- The loop gives up in the sixth second. -/
def patience : Int := 6 * 1000000000

theorem forkPass_next
    (hTicks : Ticks clock tick)
    (hPass : forkPass zygotePid packageName k = .next k') :
    clock k ≤ clock k' := by
  have hMsg := hTicks.getEventMsg zygotePid k
  unfold forkPass at hPass
  rcases hForked : getEventMsg zygotePid k with
    ⟨_ | forkPid, k₁⟩
  · rw [hForked] at hPass hMsg
    cases hPass
    exact hMsg.trans (hTicks.ptrace _ _ _)
  rw [hForked] at hPass hMsg
  dsimp only at hPass hMsg
  have hSlept := hMsg.trans (hTicks.sleepFor 100 k₁)
  have hAsked := hTicks.findPackageNameByPid forkPid
    (sleepFor 100 k₁)
  rcases hName :
    findPackageNameByPid forkPid (sleepFor 100 k₁) with
    ⟨_ | childName, k₂⟩
  · rw [hName] at hPass hAsked
    cases hPass
    exact (hSlept.trans hAsked).trans (hTicks.ptrace _ _ _)
  rw [hName] at hPass hAsked
  dsimp only at hPass hAsked
  split at hPass
  next =>
    cases hPass
    exact (hSlept.trans hAsked).trans (hTicks.ptrace _ _ _)
  next => cases hPass

theorem zygotePass_next
    {status : BitVec 32}
    (hTicks : Ticks clock tick)
    (hPass :
      zygotePass zygotePid packageName status k = .next k') :
    clock k ≤ clock k' := by
  unfold zygotePass at hPass
  split at hPass
  next =>
    split at hPass
    next => exact forkPass_next hTicks hPass
    next =>
      split at hPass
      next =>
        cases hPass
        exact hTicks.syscall _ _
      next =>
        cases hPass
        exact hTicks.ptrace _ _ _
  next =>
    split at hPass
    next => cases hPass
    next =>
      cases hPass
      exact le_refl _

/- A round that goes on is in time and takes a tick. -/
theorem watchPass_next
    (hTicks : Ticks clock tick)
    (hPass :
      watchPass startTime zygotePid packageName k = .next k') :
    clock k + tick < startTime + patience ∧
      clock k + tick ≤ clock k' := by
  have hReads := hTicks.now_reads k
  have hLater := hTicks.now_ticks k
  unfold watchPass at hPass
  rcases hNow : now k with ⟨time, k₁⟩
  rw [hNow] at hPass hReads hLater
  dsimp only at hPass hReads hLater
  split at hPass
  next => cases hPass
  next hEarly =>
    have hInTime : time < startTime + patience := by
      unfold patience
      by_contra hLate
      apply hEarly
      have hSix :
          (6 : Int) ≤ (time - startTime).tdiv 1000000000 := by
        rw [Int.tdiv_eq_ediv_of_nonneg (by omega)]
        omega
      omega
    refine ⟨by omega, ?_⟩
    have hWaited := hTicks.waitAny k₁
    rcases hWait : waitAny k₁ with ⟨⟨wpid, status⟩, k₂⟩
    rw [hWait] at hPass hWaited
    dsimp only at hPass hWaited
    have hBefore : clock k + tick ≤ clock k₂ :=
      hLater.trans hWaited
    split at hPass
    next => cases hPass
    next =>
      split at hPass
      next =>
        cases hPass
        exact hBefore.trans (hTicks.sleepFor _ _)
      next =>
        split at hPass
        next =>
          exact hBefore.trans (zygotePass_next hTicks hPass)
        next =>
          cases hPass
          exact hBefore.trans (hTicks.ptrace _ _ _)

/- Whatever happens, the loop ends before it is late. -/
theorem isSome_watch
    (hTicks : Ticks clock tick)
    (hTick : 0 < tick)
    {rounds : Nat}
    (hEnough : patience ≤ rounds * tick)
    (hStart : startTime ≤ clock k) :
    (runFor (watchPass startTime zygotePid packageName)
      (rounds + 1) k).isSome = true := by
  have hPass :
      ∀ s s' : κ,
        watchPass startTime zygotePid packageName s =
            .next s' →
          clock s ≤ startTime + patience - tick ∧
            clock s + tick ≤ clock s' := by
    intro s s' hNext
    rcases watchPass_next hTicks hNext with ⟨hInTime, hLater⟩
    exact ⟨by omega, hLater⟩
  apply isSome_runFor_of_deadline clock hPass
  omega

/- So `launch` comes to an end, if by an exception. -/
theorem isSome_launch
    (hTicks : Ticks clock tick)
    (hTick : 0 < tick)
    {rounds : Nat}
    (hEnough : patience ≤ rounds * tick)
    (packageActivity : StdString)
    (c : DebuggerCore)
    (k : κ) :
    (launch (rounds + 1) packageActivity c k).isSome =
      true := by
  unfold launch
  rw [Option.isSome_map]
  unfold reach
  dsimp only
  split
  next => rfl
  next => rfl
  next =>
    split
    next => rfl
    next =>
      split
      next => rfl
      next =>
        rw [Option.isSome_map]
        apply isSome_watch hTicks hTick hEnough
        rw [hTicks.now_reads]

end DebuggerCore

end AnDbg

------------------------------------------------------------
-- What Was Found
------------------------------------------------------------

namespace AnDbg

namespace DebuggerCore

open Kernel LaunchKernel Loop

variable {κ : Type}
variable [LaunchKernel κ]
variable {startTime : Int} {zygotePid appPid : Pid}
variable {packageName : StdString} {k k' : κ}

/- The world in which `launch` looks for zygote. -/
def appStopped
    (packageActivity : StdString)
    (k : κ) : κ :=
  sleepFor 300
    (system
      (cStr (ascii "am force-stop "
        ++ packageOf packageActivity)) k).2

/-
  The way of `launch` from `k` to `k'`, where it has found
  the app: the first process that is called zygote is traced
  and the app started; after some rounds of the loop a wait
  reports a fork of zygote, and the process that was forked
  is named like the package.
-/
inductive Forked
    (packageActivity : StdString)
    (zygotePid appPid : Pid)
    (k k' : κ) : Prop
  | of
      {others : List Pid}
      {startTime time : Int}
      {status : BitVec 32}
      {k₁ k₂ k₃ k₄ k₅ k₆ k₇ k₈ : κ}
      (hZygote :
        findZygote (appStopped packageActivity k) =
          (.ok (zygotePid :: others), k₁))
      (hTraced : traceZygote zygotePid k₁ = (none, k₂))
      (hStarted :
        system (cStr (ascii "am start -n " ++ packageActivity))
            k₂ =
          (0, k₃))
      (hStart : now k₃ = (startTime, k₄))
      (hRounds :
        Passes
          (watchPass startTime zygotePid
            (packageOf packageActivity)) k₄ k₅)
      (hNow : now k₅ = (time, k₆))
      (hWait : waitAny k₆ = ((zygotePid, status), k₇))
      (hStopped : wifstopped status = true)
      (hEvent : status.sshiftRight 16 = ptraceEventFork)
      (hMessage : getEventMsg zygotePid k₇ = (some appPid, k₈))
      (hName :
        findPackageNameByPid appPid (sleepFor 100 k₈) =
          (some (packageOf packageActivity), k')) :
      Forked packageActivity zygotePid appPid k k'

/- What the round that finds the app has seen. -/
theorem forkPass_found
    (hPass :
      forkPass zygotePid packageName k =
        .done (.found appPid, k')) :
    ∃ k₁, getEventMsg zygotePid k = (some appPid, k₁) ∧
      findPackageNameByPid appPid (sleepFor 100 k₁) =
        (some packageName, k') := by
  unfold forkPass at hPass
  rcases hForked : getEventMsg zygotePid k with
    ⟨_ | forkPid, k₁⟩
  · rw [hForked] at hPass
    cases hPass
  rw [hForked] at hPass
  dsimp only at hPass
  rcases hName :
    findPackageNameByPid forkPid (sleepFor 100 k₁) with
    ⟨_ | childName, k₂⟩
  · rw [hName] at hPass
    cases hPass
  rw [hName] at hPass
  dsimp only at hPass
  split at hPass
  next => cases hPass
  next hSame =>
    cases hPass
    rw [not_not] at hSame
    rw [hSame] at hName
    exact ⟨k₁, rfl, hName⟩

theorem zygotePass_found
    {status : BitVec 32}
    (hPass :
      zygotePass zygotePid packageName status k =
        .done (.found appPid, k')) :
    wifstopped status = true ∧
      status.sshiftRight 16 = ptraceEventFork ∧
      forkPass zygotePid packageName k =
        .done (.found appPid, k') := by
  unfold zygotePass at hPass
  split at hPass
  next hStopped =>
    split at hPass
    next hEvent => exact ⟨hStopped, hEvent, hPass⟩
    next =>
      split at hPass
      next => cases hPass
      next => cases hPass
  next =>
    split at hPass
    next => cases hPass
    next => cases hPass

theorem watchPass_found
    (hPass :
      watchPass startTime zygotePid packageName k =
        .done (.found appPid, k')) :
    ∃ time status k₁ k₂,
      now k = (time, k₁) ∧
        waitAny k₁ = ((zygotePid, status), k₂) ∧
        zygotePass zygotePid packageName status k₂ =
          .done (.found appPid, k') := by
  unfold watchPass at hPass
  rcases hNow : now k with ⟨time, k₁⟩
  rw [hNow] at hPass
  dsimp only at hPass
  split at hPass
  next => cases hPass
  rcases hWait : waitAny k₁ with ⟨⟨wpid, status⟩, k₂⟩
  rw [hWait] at hPass
  dsimp only at hPass
  split at hPass
  next => cases hPass
  split at hPass
  next => cases hPass
  split at hPass
  next hZygote =>
    subst hZygote
    exact ⟨time, status, k₁, k₂, rfl, hWait, hPass⟩
  next => cases hPass

/- The exit with an app is reached only through a fork. -/
theorem forked_of_reach
    {rounds : Nat}
    {packageActivity : StdString}
    (hReach :
      reach rounds packageActivity k =
        some (.ok (zygotePid, .found appPid), k')) :
    Forked packageActivity zygotePid appPid k k' := by
  unfold reach at hReach
  dsimp only at hReach
  split at hReach
  next => cases hReach
  next => cases hReach
  next zygote others k₁ hFind =>
    split at hReach
    next early k₂ hEarly =>
      cases hReach
      unfold traceZygote at hEarly
      split at hEarly
      next => cases hEarly
      next =>
        dsimp only at hEarly
        split at hEarly
        next => cases hEarly
        next =>
          split at hEarly
          next => cases hEarly
          next => cases hEarly
    next k₂ hTraced =>
      split at hReach
      next => cases hReach
      next hStarted =>
        rcases Option.map_eq_some_iff.mp hReach with
          ⟨⟨last, k₃⟩, hRun, hEq⟩
        cases hEq
        rcases Ends.last ⟨rounds, hRun⟩ with
          ⟨k₅, hRounds, hLast⟩
        rcases watchPass_found hLast with
          ⟨time, status, k₆, k₇, hNow, hWait, hZygote⟩
        rcases zygotePass_found hZygote with
          ⟨hStopped, hEvent, hFork⟩
        rcases forkPass_found hFork with ⟨k₈, hMessage, hName⟩
        exact .of hFind hTraced
          (Prod.ext (not_not.mp hStarted) rfl) rfl hRounds hNow
          hWait hStopped hEvent hMessage hName

end DebuggerCore

end AnDbg

------------------------------------------------------------
-- What It Attaches To
------------------------------------------------------------

namespace AnDbg

namespace DebuggerCore

open Kernel LaunchKernel

section

variable {κ : Type}
variable [Kernel κ]

/-
  `c` is turned to the process `pid`, whose main thread is
  one of the threads of the session.
-/
def TurnedTo
    (c : DebuggerCore)
    (pid : Pid)
    (c' : DebuggerCore) : Prop :=
  pid ∈ c'.tids ∧
    c' =
      { c with
        pid := pid
        currentTid := pid
        tids := c'.tids }

/- `attach` is all or nothing on the session. -/
theorem attach_cases
    (c : DebuggerCore)
    (pid : Pid)
    (k : κ) :
    (c.attach pid k).result.isSuccess = false ∧
        (c.attach pid k).object = c ∨
      (c.attach pid k).result.isSuccess = true ∧
        TurnedTo c pid (c.attach pid k).object := by
  unfold attach
  dsimp only
  split
  next => exact .inl ⟨rfl, rfl⟩
  next =>
    split
    next => exact .inl ⟨rfl, rfl⟩
    next =>
      split
      next => exact .inl ⟨rfl, rfl⟩
      next hMain =>
        exact .inr ⟨rfl, not_not.mp hMain, rfl⟩

end

variable {κ : Type}
variable [LaunchKernel κ]
variable {clock : κ → Int} {tick : Int}

/- The end of `launch`, without and with an app. -/
theorem leave_cases
    (zygotePid : Pid)
    (exit : LaunchExit)
    (c : DebuggerCore)
    (k : κ) :
    (leave zygotePid exit c k).result.isSuccess = false ∧
        (leave zygotePid exit c k).object = c ∨
      (leave zygotePid exit c k).result.isSuccess = true ∧
        ∃ appPid, exit = .found appPid ∧ 0 < appPid ∧
          TurnedTo c appPid
            (leave zygotePid exit c k).object := by
  cases exit with
  | noZygote => exact .inl ⟨rfl, rfl⟩
  | notAttached => exact .inl ⟨rfl, rfl⟩
  | notStopped => exact .inl ⟨rfl, rfl⟩
  | noOptions => exact .inl ⟨rfl, rfl⟩
  | notStarted ret => exact .inl ⟨rfl, rfl⟩
  | timedOut => exact .inl ⟨rfl, rfl⟩
  | waitFailed => exact .inl ⟨rfl, rfl⟩
  | zygoteExited => exact .inl ⟨rfl, rfl⟩
  | found appPid =>
      unfold leave
      dsimp only
      split
      next => exact .inl ⟨rfl, rfl⟩
      next hPositive =>
        rcases c.attach_cases appPid
            (ptrace .detach zygotePid
              (ptrace .detach appPid k).2).2 with
          ⟨hFail, hSame⟩ | ⟨hDone, hTurned⟩
        · refine .inl ⟨?_, hSame⟩
          rw [hFail]
          rfl
        · refine .inr ⟨?_, appPid, rfl,
            Int.not_le.mp hPositive, hTurned⟩
          rw [hDone]
          rfl

/- An exception is one of the search for zygote. -/
theorem threw_of_reach
    {rounds : Nat}
    {packageActivity : StdString}
    {e : ConversionError}
    {k k' : κ}
    (hReach :
      reach rounds packageActivity k = some (.error e, k')) :
    findZygote (appStopped packageActivity k) =
      (.error e, k') := by
  unfold reach at hReach
  dsimp only at hReach
  split at hReach
  next hFind =>
    cases hReach
    exact hFind
  next => cases hReach
  next =>
    split at hReach
    next => cases hReach
    next =>
      split at hReach
      next => cases hReach
      next =>
        rcases Option.map_eq_some_iff.mp hReach with
          ⟨_, _, hEq⟩
        cases hEq

/-
  `launch` comes to an end, however many events there are.
  If it throws or fails the session is as before; it throws
  only what the search for zygote throws.  If it succeeds it
  has come to where zygote has forked the app, and from
  there to its end, with the session turned to the app.
-/
theorem launch_attaches_app
    (hTicks : Ticks clock tick)
    (hTick : 0 < tick)
    {rounds : Nat}
    (hEnough : patience ≤ rounds * tick)
    (packageActivity : StdString)
    (c : DebuggerCore)
    (k : κ) :
    (∃ e k',
      findZygote (appStopped packageActivity k) =
          (.error e, k') ∧
        launch (rounds + 1) packageActivity c k =
          some ⟨.error e, c, k'⟩) ∨
      ∃ out,
        launch (rounds + 1) packageActivity c k =
            some (returning out) ∧
          (out.result.isSuccess = false ∧ out.object = c ∨
            out.result.isSuccess = true ∧
              ∃ (zygotePid appPid : Pid) (k' : κ),
                0 < appPid ∧
                Forked packageActivity zygotePid appPid k k' ∧
                out = leave zygotePid (.found appPid) c k' ∧
                TurnedTo c appPid out.object) := by
  rcases Option.isSome_iff_exists.mp
      (isSome_launch hTicks hTick hEnough packageActivity c
        k) with ⟨done, hLaunch⟩
  rcases Option.map_eq_some_iff.mp hLaunch with
    ⟨⟨e | ⟨zygotePid, exit⟩, k'⟩, hReach, rfl⟩
  · exact .inl ⟨e, k', threw_of_reach hReach, hLaunch⟩
  refine .inr ⟨leave zygotePid exit c k', hLaunch, ?_⟩
  rcases leave_cases zygotePid exit c k' with
    hFailed | ⟨hDone, appPid, rfl, hPositive, hTurned⟩
  · exact .inl hFailed
  · exact .inr ⟨hDone, zygotePid, appPid, k', hPositive,
      forked_of_reach hReach, rfl, hTurned⟩

/- Zygote does something else before it forks the app. -/
def forksLater : Timed SimulatedSystem where
  world :=
    untracedSystem [.nothing, .stops 100, .forks 100 200] 0
  time := 0

/- The app is the process that zygote forks. -/
theorem launch_attaches_app_forked :
    ∃ out,
      launch 7 (ascii "a/b") init forksLater =
          some (returning out) ∧
        out.result.isSuccess = true ∧
        ∃ (zygotePid : Pid) (k' : Timed SimulatedSystem),
          Forked (ascii "a/b") zygotePid 200 forksLater k' ∧
          out = leave zygotePid (.found 200) init k' ∧
          TurnedTo init 200 out.object := by
  have hRun :
      (launch 7 (ascii "a/b") init forksLater).map
        (fun done =>
          (done.result.map Status.isSuccess,
            done.object.pid)) =
          some (.ok true, 200) := rfl
  have hEnough : patience ≤ (6 : Nat) * 1000000000 := by
    decide
  rcases launch_attaches_app Timed.ticks (by decide) hEnough
      (ascii "a/b") init forksLater with
    ⟨e, k', -, hLaunch⟩ | ⟨out, hLaunch, hEnd⟩
  · rw [hLaunch] at hRun
    cases (Prod.mk.inj (Option.some.inj hRun)).1
  rw [hLaunch] at hRun
  rcases Prod.mk.inj (Option.some.inj hRun) with
    ⟨hReturned, hPid⟩
  have hSuccess := Except.ok.inj hReturned
  rcases hEnd with
    ⟨hFail, _⟩ |
      ⟨_, zygotePid, appPid, k', _, hForked, hLeft, hTurned⟩
  · exact absurd (hFail.symm.trans hSuccess)
      Bool.false_ne_true
  · have hApp : appPid = 200 := by
      rw [← hPid]
      exact (congrArg DebuggerCore.pid hTurned.2).symm
    subst hApp
    exact ⟨out, hLaunch, hSuccess, zygotePid, k', hForked,
      hLeft, hTurned⟩

end DebuggerCore

end AnDbg
