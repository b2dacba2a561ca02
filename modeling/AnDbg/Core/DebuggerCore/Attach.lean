import AnDbg.Core.DebuggerCore.Model

/-
  Which threads `attach` leaves traced.

  The kernel is observed through the set of threads that the
  debugger traces, and answers each call of `attach` as a
  pattern says for the thread.  `attach` records the threads
  that pass all of their calls; a thread that was stopped
  and fails a later call, or whose session is given up, is
  traced and recorded nowhere.

  Main declarations:
    * `AnDbg.AttachPattern` and `AnDbg.TracingLaws`
    * `AnDbg.DebuggerCore.NoOrphan`
    * `AnDbg.DebuggerCore.attachThreads_spec`
    * `AnDbg.DebuggerCore.no_orphan_iff`
-/

------------------------------------------------------------
-- The Kernel's Answers
------------------------------------------------------------

namespace AnDbg

open Kernel

/-
  For each thread: its state before the debugger traces it,
  and which of the calls for it go through.
-/
structure AttachPattern where
  state : Pid → ProcessState
  attaches : Pid → Bool
  waits : Pid → Bool
  accepts : Pid → Bool

/-
  A kernel that answers by a pattern.  A thread is traced
  from a successful PTRACE_ATTACH on.
-/
structure TracingLaws
    {κ : Type}
    [Kernel κ]
    (p : AttachPattern)
    (traced : κ → Finset Pid) : Prop where
  ids :
    ∀ {pid tids k k'},
      getThreadIds pid k = (tids, k') →
      traced k' = traced k
  state :
    ∀ {tid state k k'},
      tid ∉ traced k →
      getProcessState tid k = (state, k') →
      state = p.state tid ∧ traced k' = traced k
  attach :
    ∀ {tid done k k'},
      tid ∉ traced k →
      ptrace .attach tid k = (done, k') →
      done = p.attaches tid ∧
        traced k' =
          if done then insert tid (traced k) else traced k
  wait :
    ∀ {tid wpid status k k'},
      waitpid tid k = ((wpid, status), k') →
      (p.waits tid = true ↔ 0 ≤ wpid) ∧
        traced k' = traced k
  options :
    ∀ {tid done k k'},
      ptrace .setOptions tid k = (done, k') →
      done = p.accepts tid ∧ traced k' = traced k

namespace AttachPattern

variable (p : AttachPattern)

/- The thread is stopped by PTRACE_ATTACH. -/
def seizes (tid : Pid) : Bool :=
  decide (p.state tid ≠ .tracingStop) && p.attaches tid

/- The thread passes every call that is made for it. -/
def records (tid : Pid) : Bool :=
  (decide (p.state tid = .tracingStop) ||
      (p.attaches tid && p.waits tid)) &&
    p.accepts tid

end AttachPattern

end AnDbg

------------------------------------------------------------
-- The Loop
------------------------------------------------------------

namespace AnDbg

namespace DebuggerCore

open Kernel

variable {κ : Type}
variable [Kernel κ]
variable {p : AttachPattern}
variable {traced : κ → Finset Pid}

/- A round stops a thread and may go on with it. -/
theorem seizeThread_spec
    (hLaws : TracingLaws p traced)
    {tid : Pid}
    {k k' : κ}
    {ok : Bool}
    (hFresh : tid ∉ traced k)
    (hSeize : seizeThread tid k = (ok, k')) :
    ok =
        (decide (p.state tid = .tracingStop) ||
          (p.attaches tid && p.waits tid)) ∧
      traced k' =
        if p.seizes tid then insert tid (traced k)
        else traced k := by
  rw [seizeThread] at hSeize
  generalize hState : getProcessState tid k = found at hSeize
  rcases found with ⟨state, k₁⟩
  rcases hLaws.state hFresh hState with ⟨rfl, hTraced⟩
  dsimp only at hSeize
  split at hSeize
  next hStop =>
    have hSeizes : p.seizes tid = p.attaches tid := by
      simp [AttachPattern.seizes, hStop]
    have hState :
        decide (p.state tid = .tracingStop) = false :=
      decide_eq_false hStop
    rw [← hTraced] at hFresh
    generalize hAttach : ptrace .attach tid k₁ = called
      at hSeize
    rcases called with ⟨done, k₂⟩
    rcases hLaws.attach hFresh hAttach with
      ⟨hDone, hAttached⟩
    rw [hTraced] at hAttached
    rw [hSeizes, hState, ← hDone]
    cases done with
    | false =>
        rcases Prod.mk.inj hSeize with ⟨rfl, rfl⟩
        exact ⟨rfl, hAttached⟩
    | true =>
        dsimp only at hSeize
        generalize hWait : waitpid tid k₂ = waited at hSeize
        rcases waited with ⟨⟨wpid, status⟩, k₃⟩
        rcases hLaws.wait hWait with ⟨hWaits, hWaited⟩
        dsimp only at hSeize
        split at hSeize
        next hNegative =>
          rcases Prod.mk.inj hSeize with ⟨rfl, rfl⟩
          have hNot : p.waits tid = false := by
            rw [← Bool.not_eq_true, hWaits]
            exact Int.not_le.mpr hNegative
          rw [hNot]
          exact ⟨rfl, hWaited.trans hAttached⟩
        next hNegative =>
          rcases Prod.mk.inj hSeize with ⟨rfl, rfl⟩
          rw [hWaits.mpr (Int.not_lt.mp hNegative)]
          exact ⟨rfl, hWaited.trans hAttached⟩
  next hStop =>
    rcases Prod.mk.inj hSeize with ⟨rfl, rfl⟩
    have hStopped : p.state tid = .tracingStop :=
      not_not.mp hStop
    have hSeizes : p.seizes tid = false := by
      simp [AttachPattern.seizes, hStopped]
    rw [hSeizes, decide_eq_true hStopped]
    exact ⟨rfl, hTraced⟩

/- A round records a thread that passes all its calls. -/
theorem attachThread_spec
    (hLaws : TracingLaws p traced)
    {tid : Pid}
    {k k' : κ}
    {ok : Bool}
    (hFresh : tid ∉ traced k)
    (hAttach : attachThread tid k = (ok, k')) :
    ok = p.records tid ∧
      traced k' =
        if p.seizes tid then insert tid (traced k)
        else traced k := by
  rw [attachThread] at hAttach
  generalize hSeize : seizeThread tid k = seized at hAttach
  rcases seized with ⟨seizedOk, k₁⟩
  rcases seizeThread_spec hLaws hFresh hSeize with
    ⟨hSeized, hTraced⟩
  rw [AttachPattern.records, ← hSeized]
  cases seizedOk with
  | false =>
      rcases Prod.mk.inj hAttach with ⟨rfl, rfl⟩
      exact ⟨rfl, hTraced⟩
  | true =>
      rcases hLaws.options hAttach with
        ⟨hAccepted, hOptions⟩
      exact ⟨hAccepted, hOptions.trans hTraced⟩

/-
  The loop records the threads that pass all their calls and
  leaves those traced that were stopped.
-/
theorem attachThreads_spec
    (hLaws : TracingLaws p traced)
    {tids attachedTids : List Pid}
    {k k' : κ}
    (hDistinct : tids.Nodup)
    (hFresh : ∀ tid ∈ tids, tid ∉ traced k)
    (hAttach : attachThreads tids k = (attachedTids, k')) :
    attachedTids = tids.filter p.records ∧
      traced k' =
        traced k ∪ (tids.filter p.seizes).toFinset := by
  induction tids generalizing k k' attachedTids with
  | nil =>
      rcases Prod.mk.inj hAttach with ⟨rfl, rfl⟩
      simp
  | cons tid tids ih =>
      rcases List.nodup_cons.mp hDistinct with ⟨hNew, hRest⟩
      rcases List.forall_mem_cons.mp hFresh with
        ⟨hHere, hLater⟩
      rw [attachThreads] at hAttach
      generalize hRound : attachThread tid k = round at hAttach
      rcases round with ⟨ok, k₁⟩
      rcases attachThread_spec hLaws hHere hRound with
        ⟨hOk, hTraced⟩
      have hStillFresh : ∀ t ∈ tids, t ∉ traced k₁ := by
        intro t ht
        have hNe : t ≠ tid := fun hEq => hNew (hEq ▸ ht)
        rw [hTraced]
        split
        · simp [hNe, hLater t ht]
        · exact hLater t ht
      rcases hLoop : attachThreads tids k₁ with
        ⟨attached, k₂⟩
      rcases ih hRest hStillFresh hLoop with
        ⟨hAttached, hUnion⟩
      have hWorld :
          traced k₂ =
            traced k ∪
              ((tid :: tids).filter p.seizes).toFinset := by
        rw [hUnion, hTraced, List.filter_cons]
        split
        · simp [Finset.insert_union]
        · rfl
      rw [List.filter_cons, ← hOk, ← hAttached]
      cases ok with
      | false =>
          dsimp only at hAttach
          rw [hLoop] at hAttach
          rcases Prod.mk.inj hAttach with ⟨rfl, rfl⟩
          exact ⟨rfl, hWorld⟩
      | true =>
          dsimp only at hAttach
          rw [hLoop] at hAttach
          rcases Prod.mk.inj hAttach with ⟨rfl, rfl⟩
          exact ⟨rfl, hWorld⟩

end DebuggerCore

end AnDbg

------------------------------------------------------------
-- The Whole Operation
------------------------------------------------------------

namespace AnDbg

namespace DebuggerCore

open Kernel

variable {κ : Type}
variable [Kernel κ]
variable {p : AttachPattern}
variable {traced : κ → Finset Pid}

/-
  What `attach` leaves behind: the threads that it stopped
  are traced, and the session has those that it recorded if
  the main thread is one of them.
-/
theorem attach_spec
    (hLaws : TracingLaws p traced)
    {pid : Pid}
    {c : DebuggerCore}
    {k k' : κ}
    {tids : List Pid}
    (hIds : getThreadIds pid k = (tids, k'))
    (hDistinct : tids.Nodup)
    (hNothing : traced k = ∅) :
    traced (attach pid c k).world =
        (tids.filter p.seizes).toFinset ∧
      (attach pid c k).result.isSuccess =
        decide (pid ∈ tids.filter p.records) ∧
      (attach pid c k).object =
        if pid ∈ tids.filter p.records then
          { c with
            pid := pid
            currentTid := pid
            tids := tids.filter p.records }
        else c := by
  have hTraced : traced k' = ∅ :=
    (hLaws.ids hIds).trans hNothing
  rw [attach, hIds]
  dsimp only
  split
  next hNone =>
    rw [hNone]
    exact ⟨hTraced, rfl, rfl⟩
  next =>
    rcases hLoop : attachThreads tids k' with ⟨attached, k₁⟩
    have hFresh : ∀ tid ∈ tids, tid ∉ traced k' := by
      simp [hTraced]
    rcases
        attachThreads_spec hLaws hDistinct hFresh hLoop with
      ⟨hAttached, hUnion⟩
    rw [hTraced, Finset.empty_union] at hUnion
    dsimp only
    rw [← hAttached]
    split
    next hEmpty =>
      rw [hEmpty]
      exact ⟨hUnion, rfl, rfl⟩
    next =>
      split
      next hMain =>
        rw [decide_eq_false hMain]
        exact ⟨hUnion, rfl, rfl⟩
      next hMain =>
        have hMember : pid ∈ attached := not_not.mp hMain
        rw [decide_eq_true hMember, if_pos hMember]
        exact ⟨hUnion, rfl, rfl⟩

/-
  A success leaves exactly the session's threads traced, and
  a failure leaves nothing traced and the session as it was.
-/
def NoOrphan
    (traced : κ → Finset Pid)
    (c : DebuggerCore)
    (done : Outcome DebuggerCore κ Status) : Prop :=
  if done.result.isSuccess then
    traced done.world = done.object.tids.toFinset ∧
      done.object.pid ∈ traced done.world ∧
      done.object.currentTid ∈ traced done.world
  else
    traced done.world = ∅ ∧
      done.object.pid = c.pid ∧
      done.object.tids = c.tids ∧
      done.object.currentTid = c.currentTid

/-
  Every thread that is stopped passes its later calls, no
  thread is taken over as it is, and the main thread is
  stopped; or nothing is stopped, and the main thread is not
  taken over as it is.
-/
def CleanAttach
    (p : AttachPattern)
    (pid : Pid)
    (tids : List Pid) : Prop :=
  (pid ∈ tids ∧
    p.state pid ≠ .tracingStop ∧
    p.attaches pid = true ∧
    ∀ tid ∈ tids,
      if p.state tid = .tracingStop then
        p.accepts tid = false
      else
        p.attaches tid = true →
          p.waits tid = true ∧ p.accepts tid = true) ∨
  ((∀ tid ∈ tids,
    p.state tid ≠ .tracingStop → p.attaches tid = false) ∧
    ¬ (pid ∈ tids ∧
      p.state pid = .tracingStop ∧
      p.accepts pid = true))

/- A thread that is stopped is recorded, and vice versa. -/
theorem seizes_eq_records_iff
    (p : AttachPattern)
    (tid : Pid) :
    p.seizes tid = p.records tid ↔
      if p.state tid = .tracingStop then
        p.accepts tid = false
      else
        p.attaches tid = true →
          p.waits tid = true ∧ p.accepts tid = true := by
  rw [AttachPattern.seizes, AttachPattern.records]
  by_cases hStop : p.state tid = .tracingStop
  · rw [if_pos hStop]
    cases p.accepts tid <;> simp [hStop]
  · rw [if_neg hStop]
    cases p.attaches tid <;> cases p.waits tid <;>
      cases p.accepts tid <;> simp [hStop]

theorem seizes_iff
    (p : AttachPattern)
    (tid : Pid) :
    p.seizes tid = true ↔
      p.state tid ≠ .tracingStop ∧ p.attaches tid = true := by
  rw [AttachPattern.seizes, Bool.and_eq_true,
    decide_eq_true_iff]

/- Two filters keep the same threads of a list. -/
theorem filter_eq_filter_iff
    (f g : Pid → Bool)
    (tids : List Pid) :
    (tids.filter f).toFinset = (tids.filter g).toFinset ↔
      ∀ tid ∈ tids, f tid = g tid := by
  constructor
  · intro hEq tid hMem
    have hBoth := Finset.ext_iff.mp hEq tid
    simp only [List.mem_toFinset, List.mem_filter, hMem,
      true_and] at hBoth
    exact Bool.eq_iff_iff.mpr hBoth
  · intro hAll
    rw [List.filter_congr hAll]

theorem filter_eq_empty_iff
    (f : Pid → Bool)
    (tids : List Pid) :
    (tids.filter f).toFinset = ∅ ↔
      ∀ tid ∈ tids, f tid = false := by
  rw [List.toFinset_eq_empty_iff, List.filter_eq_nil_iff]
  simp only [Bool.not_eq_true]

end DebuggerCore

end AnDbg

------------------------------------------------------------
-- A Kernel That Follows A Pattern
------------------------------------------------------------

namespace AnDbg

/- The threads of a process and those that are traced. -/
structure PatternKernel (p : AttachPattern) where
  threads : List Pid
  traced : Finset Pid

namespace PatternKernel

variable {p : AttachPattern}

instance : Kernel (PatternKernel p) where
  ptrace request tid k :=
    match request with
    | .attach =>
      (p.attaches tid,
        if p.attaches tid then
          { k with traced := insert tid k.traced }
        else k)
    | .detach =>
      (true, { k with traced := k.traced.erase tid })
    | .setOptions => (p.accepts tid, k)
    | .cont => (true, k)
    | .singlestep => (true, k)
  waitpid tid k :=
    ((if p.waits tid then (tid.toNat : Int) else -1, 0x137f), k)
  kill _ _ k := (0, k)
  getThreadIds _ k := (k.threads, k)
  getProcessState tid k :=
    (if tid ∈ k.traced then .tracingStop else p.state tid, k)
  sleepFor _ k := k
  errno _ := 3
  strerror _ _ := ascii "No such process"

theorem tracingLaws :
    TracingLaws p (PatternKernel.traced (p := p)) where
  ids hIds := by
    cases hIds
    rfl
  state hFresh hState := by
    cases hState
    exact ⟨if_neg hFresh, rfl⟩
  attach _ hAttach := by
    cases hAttach
    refine ⟨rfl, ?_⟩
    split <;> rfl
  wait {tid wpid _ _ _} hWait := by
    rcases Prod.mk.inj hWait with ⟨hAnswer, rfl⟩
    rcases Prod.mk.inj hAnswer with ⟨rfl, -⟩
    refine ⟨?_, rfl⟩
    cases p.waits tid <;> simp
  options hOptions := by
    cases hOptions
    exact ⟨rfl, rfl⟩

end PatternKernel

end AnDbg

------------------------------------------------------------
-- Orphans
------------------------------------------------------------

namespace AnDbg

namespace DebuggerCore

open Kernel

variable {κ : Type}
variable [Kernel κ]
variable {p : AttachPattern}
variable {traced : κ → Finset Pid}

/-
  No thread is left stopped out of the session's reach
  exactly if the pattern is clean.
-/
theorem no_orphan_iff
    (hLaws : TracingLaws p traced)
    (pid : Pid)
    (c : DebuggerCore)
    {k : κ}
    (hDistinct : (getThreadIds pid k).1.Nodup)
    (hNothing : traced k = ∅) :
    NoOrphan traced c (attach pid c k) ↔
      CleanAttach p pid (getThreadIds pid k).1 := by
  rcases hIds : getThreadIds pid k with ⟨tids, k'⟩
  rw [hIds] at hDistinct
  rcases
      attach_spec (c := c) hLaws hIds hDistinct hNothing
      with ⟨hTraced, hSuccess, hObject⟩
  rw [NoOrphan, hTraced, hSuccess, hObject]
  by_cases hMain : pid ∈ tids.filter p.records
  · rcases List.mem_filter.mp hMain with
      ⟨hListed, hRecorded⟩
    rw [if_pos hMain, decide_eq_true hMain, if_pos rfl,
      filter_eq_filter_iff, List.mem_toFinset,
      List.mem_filter]
    constructor
    · rintro ⟨hAll, ⟨-, hSeized⟩, -⟩
      rcases (seizes_iff p pid).mp hSeized with
        ⟨hState, hAttaches⟩
      refine .inl ⟨hListed, hState, hAttaches, ?_⟩
      intro tid hMem
      exact (seizes_eq_records_iff p tid).mp (hAll tid hMem)
    · rintro (⟨-, hState, hAttaches, hAll⟩ | ⟨hNone, hTaken⟩)
      · have hSeized : pid ∈ tids ∧ p.seizes pid = true :=
          ⟨hListed, (seizes_iff p pid).mpr ⟨hState, hAttaches⟩⟩
        refine ⟨fun tid hMem => ?_, hSeized, hSeized⟩
        exact (seizes_eq_records_iff p tid).mpr (hAll tid hMem)
      · -- nothing is stopped, so it was recorded as it is
        exfalso
        rw [AttachPattern.records, Bool.and_eq_true,
          Bool.or_eq_true, decide_eq_true_iff,
          Bool.and_eq_true] at hRecorded
        rcases hRecorded with ⟨hKind, hAccepts⟩
        by_cases hStop : p.state pid = .tracingStop
        · exact hTaken ⟨hListed, hStop, hAccepts⟩
        · rcases hKind.resolve_left hStop with
            ⟨hAttaches, -⟩
          rw [hNone pid hListed hStop] at hAttaches
          cases hAttaches
  · rw [if_neg hMain, decide_eq_false hMain,
      if_neg Bool.false_ne_true, filter_eq_empty_iff]
    constructor
    · rintro ⟨hNone, -⟩
      refine .inr ⟨fun tid hMem hState => ?_, ?_⟩
      · have hSeizes := hNone tid hMem
        rw [AttachPattern.seizes, decide_eq_true hState,
          Bool.true_and] at hSeizes
        exact hSeizes
      · rintro ⟨hListed, hState, hAccepts⟩
        apply hMain
        refine List.mem_filter.mpr ⟨hListed, ?_⟩
        rw [AttachPattern.records, decide_eq_true hState,
          hAccepts]
        rfl
    · rintro (⟨hListed, hState, hAttaches, hAll⟩ | ⟨hNone, -⟩)
      · -- the main thread passes its calls, so it is recorded
        exfalso
        have hEqual :=
          (seizes_eq_records_iff p pid).mpr (hAll pid hListed)
        rw [(seizes_iff p pid).mpr ⟨hState, hAttaches⟩] at hEqual
        exact hMain (List.mem_filter.mpr ⟨hListed, hEqual.symm⟩)
      · refine ⟨fun tid hMem => ?_, rfl, rfl, rfl⟩
        rw [← Bool.not_eq_true, seizes_iff]
        rintro ⟨hState, hAttaches⟩
        rw [hNone tid hMem hState] at hAttaches
        cases hAttaches

/- Two threads that pass all of their calls. -/
theorem no_orphan_iff_both :
    let p : AttachPattern :=
      ⟨fun _ => .sleeping, fun _ => true, fun _ => true,
        fun _ => true⟩
    let k : PatternKernel p := ⟨[7, 8], ∅⟩
    NoOrphan PatternKernel.traced init (attach 7 init k) ∧
      (attach 7 init k).object.tids = [7, 8] := by
  intro p k
  refine ⟨?_, rfl⟩
  apply (no_orphan_iff (k := k) PatternKernel.tracingLaws 7
    init (by decide) rfl).mpr
  exact .inl (by decide)

/-
  The second thread does not stop in time: it is left traced
  outside the session.  And the main thread cannot be
  attached to: the other one is left traced without one.
-/
theorem orphaned :
    let late : AttachPattern :=
      ⟨fun _ => .sleeping, fun _ => true, fun tid => tid == 7,
        fun _ => true⟩
    let refused : AttachPattern :=
      ⟨fun _ => .sleeping, fun tid => tid == 8, fun _ => true,
        fun _ => true⟩
    let k₁ : PatternKernel late := ⟨[7, 8], ∅⟩
    let k₂ : PatternKernel refused := ⟨[7, 8], ∅⟩
    (¬ NoOrphan PatternKernel.traced init (attach 7 init k₁) ∧
      (attach 7 init k₁).result.isSuccess = true ∧
      (attach 7 init k₁).world.traced = {7, 8} ∧
      (attach 7 init k₁).object.tids = [7]) ∧
    ¬ NoOrphan PatternKernel.traced init (attach 7 init k₂) ∧
      (attach 7 init k₂).result.isSuccess = false ∧
      (attach 7 init k₂).world.traced = {8} := by
  intro late refused k₁ k₂
  have hLate : (attach 7 init k₁).world.traced = {7, 8} := by
    decide
  have hRefused : (attach 7 init k₂).world.traced = {8} := by
    decide
  have hSession : (attach 7 init k₁).object.tids = [7] := by
    decide
  refine ⟨⟨?_, by decide, hLate, hSession⟩, ?_, by decide,
    hRefused⟩
  · intro hNone
    rw [NoOrphan, if_pos (by decide), hLate, hSession] at hNone
    exact absurd hNone.1 (by decide)
  · intro hNone
    rw [NoOrphan, if_neg (by decide), hRefused] at hNone
    exact absurd hNone.1 (by decide)

end DebuggerCore

end AnDbg
