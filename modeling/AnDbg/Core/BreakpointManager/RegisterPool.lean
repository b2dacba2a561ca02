import AnDbg.Core.BreakpointManager.Table
import AnDbg.Core.SimulatedTarget
import AnDbg.Lib.Pool

/-
  Every debug register of a probed thread is either free or
  owned by one live hardware breakpoint.

  The free set of a thread and the registers of its live
  hardware breakpoints make up an abstract pool, and every
  operation takes, gives back or does nothing on it, but for
  the probe that fills it once.

  Main declarations:
    * `AnDbg.BreakpointManager.poolOf`
    * `AnDbg.BreakpointManager.PoolStep` and `step_pool`
    * `AnDbg.BreakpointManager.LosesRegister`
    * `AnDbg.BreakpointManager.WellPooled`
    * `AnDbg.BreakpointManager.pool_partition`
-/

------------------------------------------------------------
-- The Pool Of A Thread
------------------------------------------------------------

namespace AnDbg

namespace BreakpointManager

open UnorderedMap

/- The register that a breakpoint takes from a thread. -/
def holds
    (tid : Pid)
    (bp : Breakpoint) : Option DBRegister :=
  if bp.type ≠ .software ∧ bp.tid = tid then
    some bp.hardwareRegister
  else
    none

/-
  The free registers of a thread, and the registers of its
  live hardware breakpoints.
-/
def poolOf
    (m : BreakpointManager)
    (tid : Pid) : Pool Int DBRegister where
  free := ↑(m.free tid)
  holder id := (m.breakpoints.lookup id).bind (holds tid)

/- The debug registers below a number. -/
def firstRegisters (count : Nat) : Set DBRegister :=
  { reg | ∃ i < count, reg = DBRegister.ofNat i }

variable {m m' : BreakpointManager}
variable {id : Int} {bp : Breakpoint} {tid : Pid}

theorem holder_poolOf
    (m : BreakpointManager)
    (tid : Pid)
    (id : Int) :
    (m.poolOf tid).holder id =
      (m.breakpoints.lookup id).bind (holds tid) := rfl

theorem holder_eq_of_lookup
    (hLookup : m.breakpoints.lookup id = some bp) :
    (m.poolOf tid).holder id = holds tid bp := by
  rw [holder_poolOf, hLookup, Option.bind_some]

theorem holder_eq_none
    (hFresh : id ∉ m.breakpoints) :
    (m.poolOf tid).holder id = none := by
  rw [holder_poolOf, Finmap.lookup_eq_none.mpr hFresh]
  rfl

/- The pool depends on the free sets and the live breakpoints. -/
theorem poolOf_congr
    (hFree : m'.free tid = m.free tid)
    (hBreakpoints : m'.breakpoints = m.breakpoints) :
    m'.poolOf tid = m.poolOf tid := by
  rw [poolOf, poolOf, hFree, hBreakpoints]

theorem holder_enter
    (bp : Breakpoint)
    (tid : Pid) :
    ((m.enter bp).poolOf tid).holder =
      Function.update (m.poolOf tid).holder bp.id
        (holds tid bp) := by
  funext id
  rw [holder_poolOf, lookup_enter, Function.update_apply]
  split
  next => rfl
  next => rfl

theorem holder_eraseBreakpoint
    (id : Int)
    (bp : Breakpoint)
    (tid : Pid) :
    ((m.eraseBreakpoint id bp).poolOf tid).holder =
      Function.update (m.poolOf tid).holder id none := by
  funext id'
  rw [holder_poolOf, lookup_eraseBreakpoint,
    Function.update_apply]
  split
  next => rfl
  next => rfl

/- A breakpoint that takes no register leaves the pool alone. -/
theorem poolOf_enter
    (hFresh : bp.id ∉ m.breakpoints)
    (hHolds : holds tid bp = none) :
    (m.enter bp).poolOf tid = m.poolOf tid := by
  apply Pool.ext
  · rfl
  · rw [holder_enter, hHolds, ← holder_eq_none hFresh,
      Function.update_eq_self]

theorem poolOf_erase
    (hLookup : m.breakpoints.lookup id = some bp)
    (hHolds : holds tid bp = none) :
    (m.eraseBreakpoint id bp).poolOf tid = m.poolOf tid := by
  apply Pool.ext
  · rfl
  · rw [holder_eraseBreakpoint, ← hHolds,
      ← holder_eq_of_lookup hLookup, Function.update_eq_self]

/- The flag of a breakpoint does not matter to the pool. -/
theorem poolOf_setEnabled
    (hLookup : m.breakpoints.lookup id = some bp)
    (on : Bool) :
    (m.setEnabled id bp on).poolOf tid = m.poolOf tid := by
  apply Pool.ext
  · rfl
  · funext id'
    rw [holder_poolOf, lookup_setEnabled]
    split
    next hEq =>
      rw [hEq, holder_eq_of_lookup hLookup]
      rfl
    next => rfl

/- Entering a hardware breakpoint hands its register over. -/
theorem take_enter_step
    (bp : Breakpoint)
    {reg : DBRegister}
    (hFresh : bp.id ∉ m.breakpoints)
    (hType : bp.type ≠ .software)
    (hRegister : bp.hardwareRegister = reg)
    (hFree : reg ∈ m.free bp.tid)
    (tid : Pid) :
    (m.poolOf tid).Step
      (((m.takeRegister bp.tid reg).enter bp).poolOf tid) := by
  have hTaken : bp.id ∉ (m.takeRegister bp.tid reg).breakpoints :=
    hFresh
  by_cases hTid : bp.tid = tid
  · subst hTid
    have hHolds : holds bp.tid bp = some reg := by
      rw [holds, if_pos ⟨hType, rfl⟩, hRegister]
    have hTake :
        ((m.takeRegister bp.tid reg).enter bp).poolOf bp.tid =
          (m.poolOf bp.tid).take bp.id reg := by
      apply Pool.ext
      · change ((m.takeRegister bp.tid reg).free bp.tid :
          Set DBRegister) = _
        rw [free_takeRegister, if_pos rfl, Finset.coe_erase]
        rfl
      · rw [holder_enter, hHolds]
        rfl
    rw [hTake]
    exact .take bp.id (Finset.mem_coe.mpr hFree)
      (holder_eq_none hFresh)
  · have hHolds : holds tid bp = none := by
      rw [holds, if_neg (fun hBoth => hTid hBoth.2)]
    have hSame :
        ((m.takeRegister bp.tid reg).enter bp).poolOf tid =
          m.poolOf tid := by
      rw [poolOf_enter hTaken hHolds]
      apply poolOf_congr
      · rw [free_takeRegister, if_neg (Ne.symm hTid)]
      · rfl
    rw [hSame]
    exact .skip

/- Erasing a hardware breakpoint gives its register back. -/
theorem give_erase_step
    (hLookup : m.breakpoints.lookup id = some bp)
    (hType : bp.type ≠ .software)
    (tid : Pid) :
    (m.poolOf tid).Step
      (((m.giveRegister bp.tid
        bp.hardwareRegister).eraseBreakpoint id
          bp).poolOf tid) := by
  by_cases hTid : bp.tid = tid
  · subst hTid
    have hHolds : holds bp.tid bp = some bp.hardwareRegister := by
      rw [holds, if_pos ⟨hType, rfl⟩]
    have hGive :
        ((m.giveRegister bp.tid
            bp.hardwareRegister).eraseBreakpoint id
              bp).poolOf bp.tid =
          (m.poolOf bp.tid).give id bp.hardwareRegister := by
      apply Pool.ext
      · change ((m.giveRegister bp.tid
          bp.hardwareRegister).free bp.tid :
            Set DBRegister) = _
        rw [free_giveRegister, if_pos rfl, Finset.coe_insert]
        rfl
      · rw [holder_eraseBreakpoint]
        rfl
    rw [hGive]
    exact .give id (by rw [holder_eq_of_lookup hLookup, hHolds])
  · have hHolds : holds tid bp = none := by
      rw [holds, if_neg (fun hBoth => hTid hBoth.2)]
    have hGiven :
        (m.giveRegister bp.tid
          bp.hardwareRegister).breakpoints.lookup id =
          some bp :=
      hLookup
    have hSame :
        ((m.giveRegister bp.tid
            bp.hardwareRegister).eraseBreakpoint id
              bp).poolOf tid =
          m.poolOf tid := by
      rw [poolOf_erase hGiven hHolds]
      apply poolOf_congr
      · rw [free_giveRegister, if_neg (Ne.symm hTid)]
      · rfl
    rw [hSame]
    exact .skip

end BreakpointManager

end AnDbg

------------------------------------------------------------
-- Pool Steps
------------------------------------------------------------

namespace AnDbg

namespace BreakpointManager

open UnorderedMap

/- The operation calls the probe for a thread. -/
def CallsProbe
    (tid : Pid)
    (op : Op)
    (m : BreakpointManager) : Prop :=
  match op with
  | .getHardwareRegistersCount tid' => tid' = tid
  | .initHardwareRegister tid' => tid' = tid
  | .setHardwareBreakpoint tid' address _ =>
      tid' = tid ∧ address &&& 0x3 = 0 ∧
        m.checkDuplicateBreakpoint address = false ∧
        m.free tid ≠ ∅
  | _ => False

/- A probe of the thread runs through to its last return. -/
def CompletesProbe
    {κ : Type}
    [Regset κ]
    (tid : Pid)
    (op : Op)
    (s : Session κ) : Prop :=
  CallsProbe tid op s.manager ∧
    tid ∉ s.manager.hardwareRegistersCount ∧
    (s.manager.initHardwareRegister tid
      s.world).result.isSuccess = true

/-
  What an operation can do to the pool of a thread;
  `completed` says that a probe of it ran through.
-/
inductive PoolStep
    (completed : Prop)
    (tid : Pid)
    (m m' : BreakpointManager) : Prop
  | kept
      (hNot : ¬ completed)
      (hCount :
        m'.hardwareRegistersCount.lookup tid =
          m.hardwareRegistersCount.lookup tid)
      (hPool : (m.poolOf tid).Step (m'.poolOf tid))
  | failed
      (hNot : ¬ completed)
      (hUnprobed : tid ∉ m.hardwareRegistersCount)
      (hProbed : tid ∈ m'.hardwareRegistersCount)
      (hPool : m'.poolOf tid = m.poolOf tid)
  | filled
      {count : Nat}
      (hLe : count ≤ 16)
      (hUnprobed : tid ∉ m.hardwareRegistersCount)
      (hCount :
        m'.hardwareRegistersCount.lookup tid = some count)
      (hPool :
        m'.poolOf tid =
          (m.poolOf tid).fill (firstRegisters count))

variable {κ : Type}
variable {m m' : BreakpointManager}
variable {tid tid' : Pid} {k k' : κ}

theorem verifiedCount_le
    (verifyDbg : UserHwdebugState) :
    verifiedCount verifyDbg ≤ 16 := by
  have hLe : verifiedCount verifyDbg ≤ _ :=
    List.countP_le_length
  rwa [List.length_finRange] at hLe

theorem coe_image_range
    (count : Nat) :
    DBRegister.ofNat '' ↑(Finset.range count) =
      firstRegisters count := by
  ext reg
  simp [firstRegisters, eq_comm]

theorem poolOf_fillPool
    (count : Nat)
    (tid : Pid) :
    (m.fillPool tid count).poolOf tid =
      (m.poolOf tid).fill (firstRegisters count) := by
  apply Pool.ext
  · change ((m.fillPool tid count).free tid :
      Set DBRegister) = _
    rw [free_fillPool, if_pos rfl, Finset.coe_union,
      Finset.coe_image, coe_image_range]
    rfl
  · rfl

/- A probe fills the pool of its thread once. -/
theorem InitExit.pool
    [Regset κ]
    {success : Bool}
    (hExit : InitExit tid' m k success m' k')
    (tid : Pid) :
    PoolStep
      (tid' = tid ∧ tid ∉ m.hardwareRegistersCount ∧
        success = true)
      tid m m' := by
  by_cases hTid : tid' = tid
  · subst hTid
    cases hExit with
    | already hProbed =>
        exact .kept (fun hDone => hDone.2.1 hProbed) rfl .skip
    | failed count hUnprobed =>
        refine .failed (fun hDone => Bool.noConfusion hDone.2.2)
          hUnprobed ?_ rfl
        exact Finmap.mem_insert.mpr (.inl rfl)
    | probed hUnprobed =>
        exact .filled (verifiedCount_le _) hUnprobed
          (Finmap.lookup_insert _) (poolOf_fillPool _ _)
  · have hNot :
        ¬ (tid' = tid ∧ tid ∉ m.hardwareRegistersCount ∧
          success = true) :=
      fun hDone => hTid hDone.1
    have hOther : tid ≠ tid' := Ne.symm hTid
    cases hExit with
    | already => exact .kept hNot rfl .skip
    | failed count =>
        exact .kept hNot
          (Finmap.lookup_insert_of_ne _ hOther) .skip
    | probed =>
        refine .kept hNot
          (Finmap.lookup_insert_of_ne _ hOther) ?_
        have hSame (count : Nat) :
            (m.fillPool tid' count).poolOf tid =
              m.poolOf tid :=
          poolOf_congr
            (by rw [free_fillPool, if_neg hOther]) rfl
        rw [hSame]
        exact .skip

/- An operation that leaves the counts alone. -/
theorem PoolStep.of_step
    (hCount :
      m'.hardwareRegistersCount = m.hardwareRegistersCount)
    (hPool : (m.poolOf tid).Step (m'.poolOf tid)) :
    PoolStep False tid m m' :=
  .kept id (by rw [hCount]) hPool

theorem PoolStep.refl
    (m : BreakpointManager)
    (tid : Pid) :
    PoolStep False tid m m :=
  .of_step rfl .skip

/- Software breakpoints have nothing to do with the pools. -/
theorem SetSoftwareExit.pool
    [MemoryControl κ]
    {address : Addr}
    {result : Except StdException Int}
    (hFresh : m.nextBreakpointId ∉ m.breakpoints)
    (hExit : SetSoftwareExit tid' address m k result m' k')
    (tid : Pid) :
    PoolStep False tid m m' := by
  cases hExit with
  | misaligned => exact .refl m tid
  | duplicate => exact .refl m tid
  | readFailed => exact .refl m tid
  | writeFailed => exact .refl m tid
  | refused => exact .of_step rfl .skip
  | @created buffer =>
      have hSame :
          (m.enter
            (softwareBreakpoint m.nextBreakpointId tid' address
              (LittleEndian.decode 32 buffer))).poolOf tid =
            m.poolOf tid :=
        poolOf_enter hFresh rfl
      refine .of_step rfl ?_
      rw [hSame]
      exact .skip

/- The probe that precedes a setting finds nothing to do. -/
theorem InitExit.already_of_free
    [Regset κ]
    {success : Bool}
    (hProbed : tid ∈ m.hardwareRegistersCount)
    (hExit : InitExit tid (m.touchFree tid) k success m' k') :
    m' = m.touchFree tid ∧ k' = k ∧ success = true := by
  cases hExit with
  | already => exact ⟨rfl, rfl, rfl⟩
  | failed _ hUnprobed => exact absurd hProbed hUnprobed
  | probed hUnprobed => exact absurd hProbed hUnprobed

theorem controlOf_ne_none
    {type : BreakpointType}
    (hType : type.isHardware = true) :
    controlOf type ≠ none := by
  cases type with
  | software => cases hType
  | hardwareExecution => exact Option.some_ne_none _
  | hardwareWrite => exact Option.some_ne_none _
  | hardwareReadwrite => exact Option.some_ne_none _
  | other value => simp [BreakpointType.isHardware] at hType

/- A register that was taken in vain is back in its pool. -/
theorem free_give_take
    {reg : DBRegister}
    (hFree : reg ∈ m.free tid')
    (tid : Pid) :
    ((m.takeRegister tid' reg).giveRegister tid' reg).free
        tid =
      m.free tid := by
  rw [free_giveRegister, free_takeRegister, if_pos rfl]
  split
  next hEq => rw [Finset.insert_erase hFree, hEq]
  next hNe => rw [free_takeRegister, if_neg hNe]

/- A register that is taken and not given back is lost. -/
theorem poolOf_takeRegister
    (m : BreakpointManager)
    (tid : Pid)
    (reg : DBRegister) :
    (m.takeRegister tid reg).poolOf tid =
      (m.poolOf tid).drop reg := by
  apply Pool.ext
  · change ((m.takeRegister tid reg).free tid :
      Set DBRegister) = _
    rw [free_takeRegister, if_pos rfl, Finset.coe_erase]
    rfl
  · rfl

theorem poolOf_takeRegister_of_ne
    (m : BreakpointManager)
    {tid tid' : Pid}
    (hNe : tid ≠ tid')
    (reg : DBRegister) :
    (m.takeRegister tid' reg).poolOf tid = m.poolOf tid :=
  poolOf_congr (by rw [free_takeRegister, if_neg hNe]) rfl

/-
  Setting a hardware breakpoint of another type, or for no
  thread, loses the register that it takes.
-/
def LosesRegister
    [Regset κ]
    (tid : Pid)
    (type : BreakpointType)
    (m m' : BreakpointManager) : Prop :=
  (controlOf type = none ∨ (tid < 1 ∧ ¬ RegsetNeedsTid κ)) ∧
    m'.hardwareRegistersCount = m.hardwareRegistersCount ∧
    ∃ reg ∈ m.free tid,
      m'.poolOf tid = (m.poolOf tid).drop reg

/-
  A hardware breakpoint takes a free register, or none if
  it is not set in the end; otherwise one is lost.
-/
theorem SetHardwareExit.pool_or_loses
    [Regset κ]
    {address : Addr}
    {type : BreakpointType}
    {result : Except StdException Int}
    (hFresh : m.nextBreakpointId ∉ m.breakpoints)
    (hUnprobed :
      tid' ∉ m.hardwareRegistersCount → m.free tid' = ∅)
    (hExit :
      SetHardwareExit tid' address type m k result m' k')
    (tid : Pid) :
    PoolStep False tid m m' ∨
      (tid = tid' ∧ LosesRegister (κ := κ) tid type m m') := by
  have hTouch : (m.touchFree tid').poolOf tid = m.poolOf tid :=
    poolOf_congr (free_touchFree tid' tid) rfl
  have hProbed (hPool : m.free tid' ≠ ∅) :
      tid' ∈ m.hardwareRegistersCount := by
    by_contra hNot
    exact hPool (hUnprobed hNot)
  have hLost {reg : DBRegister}
      (hWhy :
        controlOf type = none ∨
          (tid' < 1 ∧ ¬ RegsetNeedsTid κ))
      (hFree : reg ∈ (m.touchFree tid').free tid')
      (hCount :
        m'.hardwareRegistersCount = m.hardwareRegistersCount)
      (hPool :
        m'.poolOf tid =
          ((m.touchFree tid').takeRegister tid'
            reg).poolOf tid) :
      PoolStep False tid m m' ∨
        (tid = tid' ∧
          LosesRegister (κ := κ) tid type m m') := by
    by_cases hTid : tid = tid'
    · subst hTid
      refine .inr ⟨rfl, hWhy, hCount, reg, ?_, ?_⟩
      · rwa [free_touchFree] at hFree
      · rw [hPool, poolOf_takeRegister, hTouch]
    · refine .inl (.of_step hCount ?_)
      rw [hPool, poolOf_takeRegister_of_ne _ hTid, hTouch]
      exact .skip
  cases hExit with
  | misaligned => exact .inl (.refl m tid)
  | duplicate => exact .inl (.refl m tid)
  | noFree =>
      refine .inl (.of_step rfl ?_)
      rw [hTouch]
      exact .skip
  | initFailed hPool hInit =>
      rcases hInit.already_of_free (hProbed hPool) with
        ⟨_, _, hSuccess⟩
      cases hSuccess
  | wrongType hPool hInit hFree hNone =>
      rcases hInit.already_of_free (hProbed hPool) with
        ⟨rfl, -, -⟩
      exact hLost (.inl hNone) hFree rfl rfl
  | @setFailed reg _ _ _ _ hPool hInit hFree =>
      rcases hInit.already_of_free (hProbed hPool) with
        ⟨rfl, -, -⟩
      have hSame :
          (((m.touchFree tid').takeRegister tid'
            reg).giveRegister tid' reg).poolOf tid =
            (m.touchFree tid').poolOf tid :=
        poolOf_congr (free_give_take hFree tid) rfl
      refine .inl (.of_step rfl ?_)
      rw [hSame, hTouch]
      exact .skip
  | refused e hTid hPool hInit hFree _ hSet =>
      rcases hInit.already_of_free (hProbed hPool) with
        ⟨rfl, -, -⟩
      refine hLost (.inr ⟨hTid, fun hCalls => ?_⟩) hFree rfl
        rfl
      exact Int.not_lt.mpr
        (RegisterControl.one_le_of_setDbg hCalls hSet) hTid
  | @created reg _ _ _ _ _ _ _ hPool hInit hFree hControl =>
      rcases hInit.already_of_free (hProbed hPool) with
        ⟨rfl, -, -⟩
      have hSoftware : type ≠ .software := by
        rintro rfl
        cases hControl
      have hTouched :
          m.nextBreakpointId ∉ (m.touchFree tid').breakpoints :=
        hFresh
      refine .inl (.of_step rfl ?_)
      rw [← hTouch]
      exact take_enter_step
        (hardwareBreakpoint m.nextBreakpointId tid' address
          type reg)
        hTouched hSoftware rfl hFree tid

/- Removing a hardware breakpoint gives its register back. -/
theorem RemoveExit.pool
    [MemoryControl κ]
    [Regset κ]
    {id : Int}
    {success : Bool}
    (hValid :
      ∀ tid id, (m.poolOf tid).holder id ≠ some .invalid)
    (hExit : RemoveExit id m k success m' k')
    (tid : Pid) :
    PoolStep False tid m m' := by
  cases hExit with
  | absent => exact .refl m tid
  | writeFailed => exact .refl m tid
  | @restored bp _ hLookup hType =>
      have hHolds : holds tid bp = none := by
        rw [holds, if_neg (fun hBoth => hBoth.1 hType)]
      refine .of_step rfl ?_
      rw [poolOf_erase hLookup hHolds]
      exact .skip
  | released hLookup hType =>
      exact .of_step rfl (give_erase_step hLookup hType tid)
  | @dropped bp hLookup hType hRegister =>
      refine absurd ?_ (hValid bp.tid id)
      rw [holder_eq_of_lookup hLookup, holds,
        if_pos ⟨hType, rfl⟩, hRegister]

/- Switching a breakpoint moves no register. -/
theorem ToggleExit.pool
    [MemoryControl κ]
    [Regset κ]
    {on : Bool}
    {id : Int}
    {success : Bool}
    (hExit : ToggleExit on id m k success m' k')
    (tid : Pid) :
    PoolStep False tid m m' := by
  have hFlag {bp : Breakpoint}
      (hLookup : m.breakpoints.lookup id = some bp) :
      PoolStep False tid m (m.setEnabled id bp on) := by
    refine .of_step rfl ?_
    rw [poolOf_setEnabled hLookup]
    exact .skip
  cases hExit with
  | absent => exact .refl m tid
  | already => exact .refl m tid
  | writeFailed => exact .refl m tid
  | patched hLookup => exact hFlag hLookup
  | getFailed => exact .refl m tid
  | setFailed => exact .refl m tid
  | switched hLookup => exact hFlag hLookup
  | flagged hLookup => exact hFlag hLookup

end BreakpointManager

end AnDbg

------------------------------------------------------------
-- Runs
------------------------------------------------------------

namespace AnDbg

namespace BreakpointManager

open UnorderedMap Run

/-
  The pool of a thread is a partition of its registers; a
  thread that was not probed has none.  Their number is left
  open, since a probe that fails may record one and then
  fill in no register.
-/
def WellPooled (m : BreakpointManager) : Prop :=
  ∀ tid, ∃ count ≤ 16,
    (m.poolOf tid).Partition (firstRegisters count) ∧
      (tid ∉ m.hardwareRegistersCount → count = 0)

/- The pool of a thread has all the registers it counted. -/
def Pooled
    (tid : Pid)
    (m : BreakpointManager) : Prop :=
  tid ∈ m.hardwareRegistersCount ∧
    (m.poolOf tid).Partition
      (firstRegisters (index tid m.hardwareRegistersCount))

/- An operation that sets hardware breakpoints of such types. -/
def Op.SetsHardware : Op → Prop
| .setHardwareBreakpoint _ _ type => type.isHardware = true
| _ => True

variable {m m' : BreakpointManager}
variable {tid : Pid} {completed : Prop}

theorem firstRegisters_zero :
    firstRegisters 0 = ∅ := by
  ext reg
  simp [firstRegisters]

theorem wellPooled_init : WellPooled init := by
  intro tid
  refine ⟨0, Nat.zero_le _, ?_, fun _ => rfl⟩
  have hFree : (init.poolOf tid).free = firstRegisters 0 := by
    rw [firstRegisters_zero]
    exact Finset.coe_empty
  rw [← hFree]
  exact Pool.partition_of_noHolder (fun id => rfl)

/- The registers of hardware breakpoints are real ones. -/
theorem WellPooled.ne_invalid
    (hPooled : WellPooled m)
    (tid : Pid)
    (id : Int) :
    (m.poolOf tid).holder id ≠ some .invalid := by
  intro hHolder
  rcases hPooled tid with ⟨count, hLe, hPart, -⟩
  rcases (hPart.cover .invalid).mp (.inr ⟨id, hHolder⟩) with
    ⟨i, hLt, hEq⟩
  rw [DBRegister.ofNat_of_lt (by omega)] at hEq
  cases hEq

/- The pool of a thread that was not probed is empty. -/
theorem WellPooled.free_eq_empty
    (hPooled : WellPooled m)
    (hUnprobed : tid ∉ m.hardwareRegistersCount) :
    m.free tid = ∅ := by
  rcases hPooled tid with ⟨count, -, hPart, hZero⟩
  rw [hZero hUnprobed, firstRegisters_zero] at hPart
  apply Finset.eq_empty_of_forall_notMem
  intro reg hFree
  exact (hPart.cover reg).mp (.inl hFree)

theorem PoolStep.mono
    {completed' : Prop}
    (hStep : PoolStep completed tid m m')
    (hImp : completed' → completed) :
    PoolStep completed' tid m m' := by
  cases hStep with
  | kept hNot hCount hPool =>
      exact .kept (mt hImp hNot) hCount hPool
  | failed hNot hUnprobed hProbed hPool =>
      exact .failed (mt hImp hNot) hUnprobed hProbed hPool
  | filled hLe hUnprobed hCount hPool =>
      exact .filled hLe hUnprobed hCount hPool

theorem PoolStep.mem_count
    (hCount :
      m'.hardwareRegistersCount.lookup tid =
        m.hardwareRegistersCount.lookup tid) :
    tid ∈ m'.hardwareRegistersCount ↔
      tid ∈ m.hardwareRegistersCount := by
  rw [Finmap.mem_iff, Finmap.mem_iff, hCount]

theorem WellPooled.step
    (hPooled : WellPooled m)
    (hStep :
      ∀ tid, ∃ completed, PoolStep completed tid m m') :
    WellPooled m' := by
  intro tid
  rcases hPooled tid with ⟨count, hLe, hPart, hZero⟩
  rcases hStep tid with ⟨completed, hStep⟩
  cases hStep with
  | kept _ hCount hPool =>
      refine ⟨count, hLe, hPool.partition hPart, ?_⟩
      rw [PoolStep.mem_count hCount]
      exact hZero
  | failed _ _ hProbed hPool =>
      refine ⟨count, hLe, ?_, fun hNot => absurd hProbed hNot⟩
      rw [hPool]
      exact hPart
  | @filled found hFound hUnprobed hCount hPool =>
      refine ⟨found, hFound, ?_, ?_⟩
      · rw [hZero hUnprobed, firstRegisters_zero] at hPart
        rw [hPool]
        exact hPart.fill _
      · intro hNot
        exact absurd (Finmap.mem_of_lookup_eq_some hCount) hNot

/- Once a pool has all its registers it keeps them. -/
theorem Pooled.step
    (hPooled : Pooled tid m)
    (hStep : PoolStep completed tid m m') :
    Pooled tid m' := by
  rcases hPooled with ⟨hProbed, hPart⟩
  cases hStep with
  | kept _ hCount hPool =>
      refine ⟨(PoolStep.mem_count hCount).mpr hProbed, ?_⟩
      rw [index, hCount]
      exact hPool.partition hPart
  | failed _ hUnprobed => exact absurd hProbed hUnprobed
  | filled _ hUnprobed => exact absurd hProbed hUnprobed

/- A probe that runs through gives a pool its registers. -/
theorem pooled_of_completed
    (hPooled : WellPooled m)
    (hStep : PoolStep completed tid m m')
    (hCompleted : completed) :
    Pooled tid m' := by
  cases hStep with
  | kept hNot => exact absurd hCompleted hNot
  | failed hNot => exact absurd hCompleted hNot
  | filled _ hUnprobed hCount hPool =>
      rcases hPooled tid with ⟨count, -, hPart, hZero⟩
      rw [hZero hUnprobed, firstRegisters_zero] at hPart
      refine ⟨Finmap.mem_of_lookup_eq_some hCount, ?_⟩
      rw [index_eq_of_lookup hCount, hPool]
      exact hPart.fill _

variable {κ : Type}
variable [MemoryControl κ] [Regset κ]
variable [HashOrder κ DBRegister]

/- A thread that was not probed has no free registers. -/
def ProbedIfFree (m : BreakpointManager) : Prop :=
  ∀ tid, tid ∉ m.hardwareRegistersCount → m.free tid = ∅

/- Hardware breakpoints have registers. -/
def HoldsValid (m : BreakpointManager) : Prop :=
  ∀ tid id, (m.poolOf tid).holder id ≠ some .invalid

/-
  Every operation makes a pool step for every thread, or it
  loses one of its registers.
-/
theorem step_pool_or_loses
    (op : Op)
    {s : Session κ}
    (hTables : Consistent s.manager)
    (hEmpty : ProbedIfFree s.manager)
    (hValid : HoldsValid s.manager)
    (tid : Pid) :
    PoolStep (CompletesProbe tid op s) tid s.manager
        (step op s).manager ∨
      ∃ address type,
        op = .setHardwareBreakpoint tid address type ∧
          LosesRegister (κ := κ) tid type s.manager
            (step op s).manager := by
  cases op with
  | getHardwareRegistersCount tid' =>
      have hInit := (initHardwareRegister_exit tid' s.manager
        s.world).pool tid
      rw [← getHardwareRegistersCount_object] at hInit
      refine .inl (hInit.mono ?_)
      rintro ⟨rfl, hUnprobed, hSuccess⟩
      exact ⟨rfl, hUnprobed, hSuccess⟩
  | initHardwareRegister tid' =>
      refine .inl (((initHardwareRegister_exit tid' s.manager
        s.world).pool tid).mono ?_)
      rintro ⟨rfl, hUnprobed, hSuccess⟩
      exact ⟨rfl, hUnprobed, hSuccess⟩
  | setSoftwareBreakpoint tid' address =>
      refine .inl ?_
      exact (setSoftwareBreakpoint_exit hTables.fresh tid'
        address s.world).pool hTables.fresh tid |>.mono
          And.left
  | setHardwareBreakpoint tid' address type =>
      rcases (setHardwareBreakpoint_exit hTables.fresh tid'
        address type s.world).pool_or_loses hTables.fresh
          (hEmpty tid') tid with hStep | ⟨rfl, hLoses⟩
      · refine .inl (hStep.mono ?_)
        rintro ⟨⟨-, -, -, hFree⟩, hUnprobed, -⟩
        exact hFree (hEmpty tid hUnprobed)
      · exact .inr ⟨address, type, rfl, hLoses⟩
  | removeBreakpoint id =>
      refine .inl ?_
      exact (removeBreakpoint_exit id s.manager
        s.world).pool hValid tid |>.mono And.left
  | enable id =>
      refine .inl ?_
      exact (enable_exit id s.manager s.world).pool tid |>.mono
        And.left
  | disable id =>
      refine .inl ?_
      exact (disable_exit id s.manager s.world).pool tid |>.mono
        And.left
  | getBreakpoints =>
      exact .inl (.mono (.refl _ _) And.left)
  | getBreakpointsOf tid =>
      exact .inl (.mono (.refl _ _) And.left)
  | getBreakpoint id =>
      exact .inl (.mono (.refl _ _) And.left)
  | getBreakpointAt address =>
      exact .inl (.mono (.refl _ _) And.left)

/- Every operation makes a pool step for every thread. -/
theorem step_pool
    (hCalls : RegsetNeedsTid κ)
    (op : Op)
    {s : Session κ}
    (hTypes : op.SetsHardware)
    (hTables : Consistent s.manager)
    (hPooled : WellPooled s.manager)
    (tid : Pid) :
    PoolStep (CompletesProbe tid op s) tid s.manager
      (step op s).manager := by
  have hEmpty : ProbedIfFree s.manager :=
    fun _ hUnprobed => hPooled.free_eq_empty hUnprobed
  rcases step_pool_or_loses op hTables hEmpty
    hPooled.ne_invalid tid with
    hStep | ⟨address, type, rfl, hWhy, -⟩
  · exact hStep
  · rcases hWhy with hNone | ⟨-, hNeeds⟩
    · exact absurd hNone (controlOf_ne_none hTypes)
    · exact absurd hCalls hNeeds

/- The tables are consistent and all pools are partitions. -/
def PoolInvariant (s : Session κ) : Prop :=
  Consistent s.manager ∧ WellPooled s.manager

theorem step_poolInvariant
    (hCalls : RegsetNeedsTid κ)
    (s : Session κ)
    (op : Op)
    (hInv : PoolInvariant s)
    (hTypes : op.SetsHardware) :
    PoolInvariant (step op s) := by
  rcases hInv with ⟨hTables, hPooled⟩
  refine ⟨step_consistent s op hTables, hPooled.step ?_⟩
  intro tid
  exact ⟨_, step_pool hCalls op hTypes hTables hPooled tid⟩

/-
  From the probe that ran through on, the free registers of
  a thread and those of its live hardware breakpoints are
  disjoint, no two breakpoints have one register, and
  together they are the registers that were counted.
-/
theorem pool_partition
    (hCalls : RegsetNeedsTid κ)
    (before : List Op)
    (op : Op)
    (after : List Op)
    (k : κ)
    (tid : Pid)
    (hTypes :
      ∀ op' ∈ before ++ op :: after, op'.SetsHardware)
    (hProbe :
      CompletesProbe tid op
        (run step before (Session.start k))) :
    let m :=
      (run step (before ++ op :: after)
        (Session.start k)).manager
    (m.poolOf tid).Partition
      (firstRegisters
        (index tid m.hardwareRegistersCount)) := by
  have hBefore :
      PoolInvariant (run step before (Session.start k)) := by
    apply run_induction (step_poolInvariant hCalls)
      ⟨consistent_init, wellPooled_init⟩
    apply Along.of_forall_mem
    intro op' hMem
    exact hTypes op' (List.mem_append_left _ hMem)
  have hOp : op.SetsHardware := hTypes op (by simp)
  rcases hBefore with ⟨hTables, hPooled⟩
  have hProbed :
      PoolInvariant
          (step op (run step before (Session.start k))) ∧
        Pooled tid
          (step op
            (run step before (Session.start k))).manager :=
    ⟨step_poolInvariant hCalls _ op ⟨hTables, hPooled⟩ hOp,
      pooled_of_completed hPooled
        (step_pool hCalls op hOp hTables hPooled tid) hProbe⟩
  have hAfter :
      ∀ (s : Session κ) (op' : Op),
        PoolInvariant s ∧ Pooled tid s.manager →
        op'.SetsHardware →
        PoolInvariant (step op' s) ∧
          Pooled tid (step op' s).manager := by
    rintro s op' ⟨hInv, hTid⟩ hOp'
    exact ⟨step_poolInvariant hCalls s op' hInv hOp',
      hTid.step (step_pool hCalls op' hOp' hInv.1 hInv.2 tid)⟩
  have hTypesAfter :
      Along step (fun _ op' => op'.SetsHardware) after
        (step op (run step before (Session.start k))) := by
    apply Along.of_forall_mem
    intro op' hMem
    exact hTypes op' (by simp [hMem])
  rw [run_append, run_cons]
  exact (run_induction hAfter hProbed hTypesAfter).2.2

theorem pool_partition_fresh :
    let ops : List Op :=
      [.initHardwareRegister 7,
        .setHardwareBreakpoint 7 0x1000 .hardwareExecution,
        .setHardwareBreakpoint 7 0x2000 .hardwareWrite,
        .removeBreakpoint 1]
    let m :=
      (run step ops
        (Session.start (SimulatedTarget.fresh []))).manager
    (m.poolOf 7).Partition
      (firstRegisters (index 7 m.hardwareRegistersCount)) :=
  pool_partition SimulatedTarget.regsetNeedsTid []
    (.initHardwareRegister 7)
    [.setHardwareBreakpoint 7 0x1000 .hardwareExecution,
      .setHardwareBreakpoint 7 0x2000 .hardwareWrite,
      .removeBreakpoint 1]
    (SimulatedTarget.fresh []) 7
    (by simp [Op.SetsHardware, BreakpointType.isHardware])
    ⟨rfl, by decide, rfl⟩

end BreakpointManager

end AnDbg
