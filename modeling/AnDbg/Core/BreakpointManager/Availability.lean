import AnDbg.Core.BreakpointManager.Mirror
import AnDbg.Core.BreakpointManager.SoundPools
import AnDbg.Core.BreakpointManager.Watching

/-
  When a hardware breakpoint can be set.

  A thread has some number of debug registers, which a probe
  counts and puts into its pool.  `setHardwareBreakpoint`
  looks for a free register before it probes, so that on a
  thread that no earlier operation has probed it finds none
  and gives up; on a probed thread it succeeds as long as
  its pool is not empty.

  Main declarations:
    * `AnDbg.RegisterFile`
    * `AnDbg.BreakpointManager.SetsArmed`
    * `AnDbg.BreakpointManager.available_iff`
-/

------------------------------------------------------------
-- Register Files
------------------------------------------------------------

namespace AnDbg

open Regset

/-
  A thread has the debug registers below a number: a write
  that succeeds stores these, and the others read as zero.
-/
structure RegisterFile
    {κ : Type}
    [Regset κ]
    (debug : κ → Pid → UserHwdebugState)
    (n : Pid → Nat) : Prop where
  le : ∀ tid, n tid ≤ 16
  absent :
    ∀ k tid (i : Fin 16), n tid ≤ i →
      (debug k tid).dbgRegs i = ⟨0, 0⟩
  get_some :
    ∀ {tid dbg k k'},
      getRegset .dbg tid k = (some dbg, k') →
      dbg = debug k tid
  set_true :
    ∀ {tid} {dbg : UserHwdebugState} {k k'},
      setRegset .dbg tid dbg k = (true, k') →
      ∀ i : Fin 16, i < n tid →
        (debug k' tid).dbgRegs i = dbg.dbgRegs i

theorem Watched.registerFile
    {κ : Type}
    [Regset κ]
    {debug : κ → Pid → UserHwdebugState}
    {n : Pid → Nat}
    (hFile : RegisterFile debug n) :
    RegisterFile (fun k : Watched κ => debug k.world) n where
  le := hFile.le
  absent k := hFile.absent k.world
  get_some hGet := by
    injection hGet with hFound hWorld
    exact hFile.get_some (Prod.ext hFound rfl)
  set_true hSet := by
    injection hSet with hDone hWorld
    cases hWorld
    exact hFile.set_true (Prod.ext hDone rfl)

end AnDbg

------------------------------------------------------------
-- What A Probe Counts
------------------------------------------------------------

namespace AnDbg

namespace BreakpointManager

open RegisterControl UnorderedMap

/- The number of slots below a number. -/
theorem countP_finRange_lt
    {n : Nat}
    (hLe : n ≤ 16) :
    (List.finRange 16).countP (fun i => decide (i.val < n)) =
      n := by
  have hAll :
      ∀ n ≤ 16,
        (List.finRange 16).countP
          (fun i => decide (i.val < n)) = n := by
    decide
  exact hAll n hLe

variable {κ : Type}
variable [Regset κ]
variable {debug : κ → Pid → UserHwdebugState}
variable {n : Pid → Nat}
variable {m m' : BreakpointManager}
variable {tid : Pid} {k k' : κ}

/- A probe counts the registers that there are. -/
theorem verifiedCount_eq
    (hFile : RegisterFile debug n)
    {originDbg verifyDbg : UserHwdebugState}
    {k₁ k₂ k₃ : κ}
    (hTest :
      setAllDbg tid (testDbg originDbg) k₁ = (true, k₂))
    (hVerify : getAllDbg tid k₂ = (some verifyDbg, k₃)) :
    verifiedCount verifyDbg = n tid := by
  have hRead := hFile.get_some hVerify
  have hStored := hFile.set_true hTest
  have hSlot (i : Fin 16) :
      (verifyDbg.dbgRegs i == ⟨testAddress, testControl⟩) =
        decide (i.val < n tid) := by
    rw [hRead]
    by_cases hLt : i.val < n tid
    · rw [hStored i hLt, decide_eq_true hLt]
      exact beq_self_eq_true _
    · rw [hFile.absent k₂ tid i (Nat.le_of_not_lt hLt),
        decide_eq_false hLt]
      decide
  unfold verifiedCount
  rw [funext hSlot]
  exact countP_finRange_lt (hFile.le tid)

/- The counts on record are the numbers of registers. -/
def CountsExact
    (n : Pid → Nat)
    (m : BreakpointManager) : Prop :=
  ∀ tid count,
    m.hardwareRegistersCount.lookup tid = some count →
    count = n tid

/- A probe that succeeds keeps them so. -/
theorem InitExit.countsExact
    (hFile : RegisterFile debug n)
    (hExact : CountsExact n m)
    (hExit : InitExit tid m k true m' k') :
    CountsExact n m' := by
  cases hExit with
  | already => exact hExact
  | probed _ _ hTest hVerify _ =>
      intro tid' count hCount
      change (m.hardwareRegistersCount.insert tid _).lookup
        tid' = some count at hCount
      rw [lookup_insert] at hCount
      by_cases hTid : tid' = tid
      · rw [if_pos hTid] at hCount
        rw [hTid, ← Option.some.inj hCount]
        exact verifiedCount_eq hFile hTest hVerify
      · rw [if_neg hTid] at hCount
        exact hExact tid' count hCount

theorem CountsExact.congr
    (hExact : CountsExact n m)
    (hSame :
      m'.hardwareRegistersCount = m.hardwareRegistersCount) :
    CountsExact n m' := by
  unfold CountsExact
  rw [hSame]
  exact hExact

/- Setting a hardware breakpoint leaves the counts alone. -/
theorem SetHardwareExit.hardwareRegistersCount_eq
    {address : Addr}
    {type : BreakpointType}
    {result : Except StdException Int}
    (hProbed : ProbedIfFree m)
    (hExit :
      SetHardwareExit tid address type m k result m' k') :
    m'.hardwareRegistersCount = m.hardwareRegistersCount := by
  have hAlready {success : Bool}
      {m₁ : BreakpointManager}
      {k₁ : κ}
      (hPool : m.free tid ≠ ∅)
      (hInit :
        InitExit tid (m.touchFree tid) k success m₁ k₁) :
      m₁ = m.touchFree tid := by
    have hCounted : tid ∈ m.hardwareRegistersCount := by
      by_contra hNot
      exact hPool (hProbed tid hNot)
    exact (hInit.already_of_free hCounted).1
  cases hExit with
  | misaligned => rfl
  | duplicate => rfl
  | noFree => rfl
  | initFailed hPool hInit =>
      rw [hAlready hPool hInit]
      rfl
  | wrongType hPool hInit =>
      rw [hAlready hPool hInit]
      rfl
  | setFailed hPool hInit =>
      rw [hAlready hPool hInit]
      rfl
  | refused _ _ hPool hInit =>
      rw [hAlready hPool hInit]
      rfl
  | created _ _ _ hPool hInit =>
      rw [hAlready hPool hInit]
      rfl

variable [MemoryControl κ]

/- So do the operations that make no probe. -/
omit [Regset κ] in
theorem SetSoftwareExit.hardwareRegistersCount_eq
    {address : Addr}
    {result : Except StdException Int}
    (hExit : SetSoftwareExit tid address m k result m' k') :
    m'.hardwareRegistersCount = m.hardwareRegistersCount := by
  cases hExit <;> rfl

theorem RemoveExit.hardwareRegistersCount_eq
    {id : Int}
    {success : Bool}
    (hExit : RemoveExit id m k success m' k') :
    m'.hardwareRegistersCount = m.hardwareRegistersCount := by
  cases hExit <;> rfl

theorem ToggleExit.hardwareRegistersCount_eq
    {on : Bool}
    {id : Int}
    {success : Bool}
    (hExit : ToggleExit on id m k success m' k') :
    m'.hardwareRegistersCount = m.hardwareRegistersCount := by
  cases hExit <;> rfl

end BreakpointManager

end AnDbg

------------------------------------------------------------
-- Pools After Clean Runs
------------------------------------------------------------

namespace AnDbg

namespace BreakpointManager

open Run

variable {κ : Type}
variable [MemoryControl κ] [Regset κ]
variable [HashOrder κ DBRegister]
variable {debug : κ → Pid → UserHwdebugState}
variable {n : Pid → Nat}

/-
  The tables are consistent, every count is exact, and every
  pool has registers of its thread only.
-/
structure Stocked
    (n : Pid → Nat)
    (s : Session κ) : Prop where
  sound : Sound s
  counts : CountsExact n s.manager
  within : PoolsWithin n s.manager

omit [MemoryControl κ] [Regset κ] [HashOrder κ DBRegister] in
theorem stocked_start
    (n : Pid → Nat)
    (k : κ) :
    Stocked n (Session.start k) where
  sound := ⟨consistent_init, soundPools_init⟩
  counts tid count hCount := by cases hCount
  within tid := by
    rcases soundPools_init tid with ⟨all, -, hPart, hNone⟩
    have hEmpty : all = ∅ := hNone Finmap.notMem_empty
    refine ⟨∅, Set.empty_subset _, ?_, fun _ => rfl⟩
    rw [← hEmpty]
    exact hPart

/- An operation whose calls succeed keeps the counts exact. -/
theorem step_countsExact
    {s : Session (Watched κ)}
    (hFile : RegisterFile debug n)
    (op : Op)
    (hSound : Sound s)
    (hExact : CountsExact n s.manager)
    (hClean : (step op s).world.clean = true) :
    CountsExact n (step op s).manager := by
  have hProbe (tid : Pid)
      (hClean :
        (s.manager.initHardwareRegister tid
          s.world).world.clean = true) :
      CountsExact n
        (s.manager.initHardwareRegister tid
          s.world).object := by
    have hExit :=
      initHardwareRegister_exit tid s.manager s.world
    rw [isSuccess_of_clean hClean] at hExit
    exact hExit.countsExact (Watched.registerFile hFile) hExact
  cases op with
  | getHardwareRegistersCount tid =>
      have hDone := hProbe tid (by
        rw [← getHardwareRegistersCount_world]
        exact hClean)
      rw [← getHardwareRegistersCount_object] at hDone
      exact hDone
  | initHardwareRegister tid => exact hProbe tid hClean
  | setSoftwareBreakpoint tid address =>
      exact hExact.congr
        (setSoftwareBreakpoint_exit hSound.tables.fresh tid
          address s.world).hardwareRegistersCount_eq
  | setHardwareBreakpoint tid address type =>
      exact hExact.congr
        ((setHardwareBreakpoint_exit hSound.tables.fresh tid
          address type s.world).hardwareRegistersCount_eq
            hSound.pools.probedIfFree)
  | removeBreakpoint id =>
      exact hExact.congr
        (removeBreakpoint_exit id s.manager
          s.world).hardwareRegistersCount_eq
  | enable id =>
      exact hExact.congr
        (enable_exit id s.manager
          s.world).hardwareRegistersCount_eq
  | disable id =>
      exact hExact.congr
        (disable_exit id s.manager
          s.world).hardwareRegistersCount_eq
  | getBreakpoints => exact hExact
  | getBreakpointsOf tid => exact hExact
  | getBreakpoint id => exact hExact
  | getBreakpointAt address => exact hExact

theorem step_stocked
    {s : Session (Watched κ)}
    (hFile : RegisterFile debug n)
    (op : Op)
    (hStocked : Stocked n s)
    (hClean : (step op s).world.clean = true) :
    Stocked n (step op s) := by
  have hExact :=
    step_countsExact hFile op hStocked.sound hStocked.counts
      hClean
  constructor
  case sound => exact step_sound s op hStocked.sound
  case counts => exact hExact
  case within =>
    apply hStocked.within.step (hStocked.sound.pool_steps op)
    intro tid count _ hCount
    exact (hExact tid count hCount).le

/- After a run whose calls all succeed. -/
theorem stocked_run
    {s : Session (Watched κ)}
    (hFile : RegisterFile debug n)
    (ops : List Op)
    (hStocked : Stocked n s)
    (hClean : (run step ops s).world.clean = true) :
    Stocked n (run step ops s) := by
  induction ops generalizing s with
  | nil => exact hStocked
  | cons op ops ih =>
      have hTables :=
        (step_sound s op hStocked.sound).tables
      have hClean₁ : (step op s).world.clean = true :=
        clean_of_run hTables hClean
      exact ih (step_stocked hFile op hStocked hClean₁) hClean

/- Ids that were given out are below the next one. -/
theorem issued_lt
    (ops : List Op)
    {s : Session κ}
    (hTables : Consistent s.manager) :
    s.manager.nextBreakpointId ≤
        (run step ops s).manager.nextBreakpointId ∧
      ∀ id ∈ issued ops s,
        id < (run step ops s).manager.nextBreakpointId := by
  induction ops generalizing s with
  | nil => exact ⟨le_refl _, fun _ hMem => by cases hMem⟩
  | cons op ops ih =>
      rcases (step_tables op hTables).issued_bounds with
        ⟨hMono, hNext⟩
      rcases ih (step_consistent s op hTables) with
        ⟨hLater, hBelow⟩
      refine ⟨hMono.trans hLater, ?_⟩
      intro id hMem
      rcases List.mem_append.mp hMem with hHere | hRest
      · rcases hNext id (Option.mem_toList.mp hHere) with
          ⟨hId, hSucc⟩
        rw [run_cons]
        omega
      · exact hBelow id hRest

end BreakpointManager

end AnDbg

------------------------------------------------------------
-- Setting From A Pool
------------------------------------------------------------

namespace AnDbg

namespace BreakpointManager

open RegisterControl

variable {κ : Type}

/-
  What is promised of setting a hardware breakpoint: an id
  that was never given out, and a register of the thread
  that holds the address and is enabled.
-/
def SetsArmed
    [MemoryControl κ]
    [Regset κ]
    [HashOrder κ DBRegister]
    (debug : κ → Pid → UserHwdebugState)
    (given : List Int)
    (tid : Pid)
    (address : Addr)
    (type : BreakpointType)
    (s : Session κ) : Prop :=
  let op := .setHardwareBreakpoint tid address type
  ∃ id bp i,
    (exec op s).result = .id (.ok id) ∧
      0 < id ∧ id ∉ given ∧
      (step op s).manager.breakpoints.lookup id = some bp ∧
      bp.tid = tid ∧ bp.address = address ∧ bp.type = type ∧
      bp.hardwareRegister = .dbg i ∧
      (slot (debug (step op s).world) tid i).addr = address ∧
      (slot (debug (step op s).world) tid i).isArmed = true

variable [Regset κ]
variable {debug : κ → Pid → UserHwdebugState}
variable {n : Pid → Nat}
variable {m m' : BreakpointManager}
variable {tid : Pid} {address : Addr} {type : BreakpointType}

/- Setting a register that there is stores the value. -/
theorem slot_setDbg
    (hFile : RegisterFile debug n)
    {i : Fin 16}
    {value : BitVec 64 × BitVec 32}
    {k k' : κ}
    (hLt : i.val < n tid)
    (hSet : setDbg tid (.dbg i) value k = (true, k')) :
    slot (debug k') tid i = ⟨value.1, value.2⟩ := by
  rcases setDbg_cases hSet with
    ⟨hDone, -⟩ | ⟨dbg, _, k₁, -, hPointer, hStore⟩
  · cases hDone
  · cases hPointer
    rw [slot, hFile.set_true hStore i hLt]
    exact Function.update_self _ _ _

/- A free register is one of the thread. -/
theorem PoolsWithin.exists_lt
    {reg : DBRegister}
    (hWithin : PoolsWithin n m)
    (hLe : n tid ≤ 16)
    (hFree : reg ∈ m.free tid) :
    ∃ i : Fin 16, i.val < n tid ∧ reg = .dbg i := by
  rcases hWithin tid with ⟨all, hFirst, hPart, -⟩
  rcases hFirst ((hPart.cover reg).mp (.inl hFree)) with
    ⟨i, hLt, hEq⟩
  rw [DBRegister.ofNat_of_lt (hLt.trans_le hLe)] at hEq
  exact ⟨⟨i, hLt.trans_le hLe⟩, hLt, hEq⟩

/- Without a free register, no id is given out. -/
theorem SetHardwareExit.free_ne_empty
    {id : Int}
    {k k' : κ}
    (hPos : 0 < id)
    (hExit :
      SetHardwareExit tid address type m k (.ok id) m' k') :
    m.free tid ≠ ∅ := by
  cases hExit with
  | duplicate => cases hPos
  | noFree => cases hPos
  | initFailed hPool => exact hPool
  | wrongType hPool => exact hPool
  | setFailed hPool => exact hPool
  | created _ _ _ hPool => exact hPool

/- With a register free, the setting runs through. -/
theorem SetHardwareExit.armed
    {result : Except StdException Int}
    {k k' : Watched κ}
    (hFile : RegisterFile debug n)
    (hProbed : ProbedIfFree m)
    (hWithin : PoolsWithin n m)
    (hTid : 1 ≤ tid)
    (hAligned : address &&& 0x3 = 0)
    (hUnique : m.checkDuplicateBreakpoint address = false)
    (hType : type.isHardware = true)
    (hPool : m.free tid ≠ ∅)
    (hClean : k'.clean = true)
    (hExit :
      SetHardwareExit tid address type m k result m' k') :
    ∃ i,
      result = .ok m.nextBreakpointId ∧
        m'.breakpoints.lookup m.nextBreakpointId =
          some (hardwareBreakpoint m.nextBreakpointId tid
            address type (.dbg i)) ∧
        (slot (debug k'.world) tid i).addr = address ∧
        (slot (debug k'.world) tid i).isArmed = true := by
  have hCounted : tid ∈ m.hardwareRegistersCount := by
    by_contra hNot
    exact hPool (hProbed tid hNot)
  have hSlot {reg : DBRegister}
      (hFree : reg ∈ (m.touchFree tid).free tid) :
      ∃ i : Fin 16, i.val < n tid ∧ reg = .dbg i := by
    rw [free_touchFree] at hFree
    exact hWithin.exists_lt (hFile.le tid) hFree
  cases hExit with
  | misaligned hMisaligned => exact absurd hAligned hMisaligned
  | duplicate hDuplicate =>
      rw [hUnique] at hDuplicate
      cases hDuplicate
  | noFree hEmpty => exact absurd hEmpty hPool
  | initFailed _ hInit =>
      cases (hInit.already_of_free hCounted).2.2
  | wrongType _ _ _ hNone =>
      exact absurd hNone (controlOf_ne_none hType)
  | setFailed _ hInit hFree _ hSet =>
      rcases hInit.already_of_free hCounted with ⟨rfl, rfl, -⟩
      rcases hSlot hFree with ⟨i, -, rfl⟩
      cases (clean_of_setDbg hSet hClean).2
  | refused _ hNoTid => exact absurd hNoTid (Int.not_lt.mpr hTid)
  | created _ _ _ _ hInit hFree hControl hSet =>
      rcases hInit.already_of_free hCounted with ⟨rfl, rfl, -⟩
      rcases hSlot hFree with ⟨i, hLt, rfl⟩
      have hStored :=
        slot_setDbg (Watched.registerFile hFile) hLt hSet
      refine ⟨i, rfl, ?_, ?_, ?_⟩
      · rw [lookup_enter]
        exact if_pos rfl
      · exact congrArg DbgReg.addr hStored
      · exact (congrArg DbgReg.isArmed hStored).trans
          (isArmed_controlOf hControl address)

end BreakpointManager

end AnDbg

------------------------------------------------------------
-- Probed Threads
------------------------------------------------------------

namespace AnDbg

namespace BreakpointManager

open Run UnorderedMap

/- The live hardware breakpoints of a thread. -/
def liveHardware
    (tid : Pid)
    (m : BreakpointManager) : Multiset Breakpoint :=
  m.getBreakpoints.filter fun bp =>
    bp.type ≠ .software ∧ bp.tid = tid

/-
  The pool of a probed thread has all of its registers, and
  the one of any other thread has none.
-/
def FullyPooled
    (n : Pid → Nat)
    (tid : Pid)
    (m : BreakpointManager) : Prop :=
  (m.poolOf tid).Partition
    (if tid ∈ m.hardwareRegistersCount then
      firstRegisters (n tid)
    else ∅)

variable {n : Pid → Nat}
variable {m m' : BreakpointManager}
variable {tid : Pid}

theorem fullyPooled_init
    (n : Pid → Nat)
    (tid : Pid) :
    FullyPooled n tid init := by
  have hUnprobed : tid ∉ init.hardwareRegistersCount :=
    Finmap.notMem_empty
  rcases soundPools_init tid with ⟨all, -, hPart, hNone⟩
  unfold FullyPooled
  rw [if_neg hUnprobed, ← hNone hUnprobed]
  exact hPart

/- With too few breakpoints some register must be free. -/
theorem FullyPooled.free_ne_empty
    (hFull : FullyPooled n tid m)
    (hLe : n tid ≤ 16)
    (hProbed : tid ∈ m.hardwareRegistersCount)
    (hLive : (liveHardware tid m).card < n tid) :
    m.free tid ≠ ∅ := by
  intro hEmpty
  unfold FullyPooled at hFull
  rw [if_pos hProbed] at hFull
  let owned : Multiset DBRegister :=
    (liveHardware tid m).map Breakpoint.hardwareRegister
  let all : Finset DBRegister :=
    (Finset.range (n tid)).image DBRegister.ofNat
  have hCard : all.card = n tid := by
    rw [Finset.card_image_of_injOn, Finset.card_range]
    intro i hi j hj hEq
    have hi' := (Finset.mem_range.mp hi).trans_le hLe
    have hj' := (Finset.mem_range.mp hj).trans_le hLe
    rw [DBRegister.ofNat_of_lt hi',
      DBRegister.ofNat_of_lt hj'] at hEq
    exact congrArg Fin.val (DBRegister.dbg.inj hEq)
  have hOwned : all ⊆ owned.toFinset := by
    intro reg hReg
    rcases Finset.mem_image.mp hReg with ⟨i, hi, hEq⟩
    have hFirst : reg ∈ firstRegisters (n tid) :=
      ⟨i, Finset.mem_range.mp hi, hEq.symm⟩
    rcases (hFull.cover reg).mpr hFirst with
      hFree | ⟨id, hHolder⟩
    · have hFree : reg ∈ m.free tid := hFree
      rw [hEmpty] at hFree
      cases hFree
    · rw [holder_poolOf] at hHolder
      rcases Option.bind_eq_some_iff.mp hHolder with
        ⟨bp, hLookup, hHolds⟩
      unfold holds at hHolds
      split at hHolds
      next hBoth =>
        rw [Multiset.mem_toFinset]
        refine Multiset.mem_map.mpr ⟨bp, ?_, ?_⟩
        · exact Multiset.mem_filter.mpr
            ⟨mem_values.mpr ⟨id, hLookup⟩, hBoth⟩
        · exact Option.some.inj hHolds
      next => cases hHolds
  have hCount : n tid ≤ (liveHardware tid m).card :=
    calc
      n tid = all.card := hCard.symm
      _ ≤ owned.toFinset.card := Finset.card_le_card hOwned
      _ ≤ owned.card := Multiset.toFinset_card_le owned
      _ = (liveHardware tid m).card := Multiset.card_map _ _
  exact Nat.not_lt.mpr hCount hLive

variable {κ : Type}
variable [MemoryControl κ] [Regset κ]
variable [HashOrder κ DBRegister]
variable {debug : κ → Pid → UserHwdebugState}

omit [MemoryControl κ] [HashOrder κ DBRegister] in
/- Only a probe of a thread records its count. -/
theorem InitExit.mem_count
    {tid' : Pid}
    {success : Bool}
    {k k' : κ}
    (hExit : InitExit tid' m k success m' k')
    (hProbed : tid ∈ m'.hardwareRegistersCount) :
    tid = tid' ∨ tid ∈ m.hardwareRegistersCount := by
  cases hExit with
  | already => exact .inr hProbed
  | failed => exact Finmap.mem_insert.mp hProbed
  | probed => exact Finmap.mem_insert.mp hProbed

/- A thread gets on record by a probe that runs through. -/
theorem completesProbe_of_clean
    {s : Session (Watched κ)}
    (op : Op)
    (hSound : Sound s)
    (hClean : (step op s).world.clean = true)
    (hUnprobed : tid ∉ s.manager.hardwareRegistersCount)
    (hProbed :
      tid ∈ (step op s).manager.hardwareRegistersCount) :
    CompletesProbe tid op s := by
  have hKept
      (hSame :
        (step op s).manager.hardwareRegistersCount =
          s.manager.hardwareRegistersCount) :
      CompletesProbe tid op s := by
    rw [hSame] at hProbed
    exact absurd hProbed hUnprobed
  cases op with
  | getHardwareRegistersCount tid' =>
      have hExit :=
        initHardwareRegister_exit tid' s.manager s.world
      rw [← getHardwareRegistersCount_object] at hExit
      rcases hExit.mem_count hProbed with rfl | hOld
      · refine ⟨rfl, hUnprobed, isSuccess_of_clean ?_⟩
        rw [← getHardwareRegistersCount_world]
        exact hClean
      · exact absurd hOld hUnprobed
  | initHardwareRegister tid' =>
      have hExit :=
        initHardwareRegister_exit tid' s.manager s.world
      rcases hExit.mem_count hProbed with rfl | hOld
      · exact ⟨rfl, hUnprobed, isSuccess_of_clean hClean⟩
      · exact absurd hOld hUnprobed
  | setSoftwareBreakpoint tid' address =>
      exact hKept
        (setSoftwareBreakpoint_exit hSound.tables.fresh tid'
          address s.world).hardwareRegistersCount_eq
  | setHardwareBreakpoint tid' address type =>
      exact hKept
        ((setHardwareBreakpoint_exit hSound.tables.fresh tid'
          address type s.world).hardwareRegistersCount_eq
            hSound.pools.probedIfFree)
  | removeBreakpoint id =>
      exact hKept
        (removeBreakpoint_exit id s.manager
          s.world).hardwareRegistersCount_eq
  | enable id =>
      exact hKept
        (enable_exit id s.manager
          s.world).hardwareRegistersCount_eq
  | disable id =>
      exact hKept
        (disable_exit id s.manager
          s.world).hardwareRegistersCount_eq
  | getBreakpoints => exact hKept rfl
  | getBreakpointsOf tid' => exact hKept rfl
  | getBreakpoint id => exact hKept rfl
  | getBreakpointAt address => exact hKept rfl

theorem FullyPooled.step
    {s : Session (Watched κ)}
    (op : Op)
    (hTid : 1 ≤ tid)
    (hTypes : op.SetsHardware)
    (hSound : Sound s)
    (hClean : (BreakpointManager.step op s).world.clean = true)
    (hExact :
      CountsExact n (BreakpointManager.step op s).manager)
    (hFull : FullyPooled n tid s.manager) :
    FullyPooled n tid
      (BreakpointManager.step op s).manager := by
  have hCompletes :
      tid ∉ s.manager.hardwareRegistersCount →
        tid ∈
          (BreakpointManager.step op
            s).manager.hardwareRegistersCount →
        CompletesProbe tid op s :=
    completesProbe_of_clean op hSound hClean
  unfold FullyPooled at hFull ⊢
  rcases step_pool_or_loses op hSound.tables
    hSound.pools.probedIfFree hSound.pools.holdsValid tid with
    hStep | ⟨address, type, rfl, hWhy, -⟩
  · cases hStep with
    | kept _ hCount hPool =>
        simp only [PoolStep.mem_count hCount]
        exact hPool.partition hFull
    | failed hNot hUnprobed hProbed =>
        exact absurd (hCompletes hUnprobed hProbed) hNot
    | @filled count _ hUnprobed hCount hPool =>
        have hProbed := Finmap.mem_of_lookup_eq_some hCount
        rw [if_neg hUnprobed] at hFull
        rw [if_pos hProbed, ← hExact tid count hCount, hPool]
        exact hFull.fill _
  · rcases hWhy with hNone | ⟨hNoTid, -⟩
    · exact absurd hNone (controlOf_ne_none hTypes)
    · exact absurd hNoTid (Int.not_lt.mpr hTid)

theorem fullyPooled_run
    {s : Session (Watched κ)}
    (hFile : RegisterFile debug n)
    (ops : List Op)
    (hTid : 1 ≤ tid)
    (hTypes : ∀ op ∈ ops, op.SetsHardware)
    (hStocked : Stocked n s)
    (hClean : (run step ops s).world.clean = true)
    (hFull : FullyPooled n tid s.manager) :
    FullyPooled n tid (run step ops s).manager := by
  induction ops generalizing s with
  | nil => exact hFull
  | cons op ops ih =>
      rcases List.forall_mem_cons.mp hTypes with
        ⟨hHere, hRest⟩
      have hTables :=
        (step_sound s op hStocked.sound).tables
      have hClean₁ :
          (BreakpointManager.step op s).world.clean = true :=
        clean_of_run hTables hClean
      have hStocked₁ := step_stocked hFile op hStocked hClean₁
      exact ih hRest hStocked₁ hClean
        (hFull.step op hTid hHere hStocked.sound hClean₁
          hStocked₁.counts)

end BreakpointManager

end AnDbg

------------------------------------------------------------
-- Availability
------------------------------------------------------------

namespace AnDbg

namespace BreakpointManager

open Run

variable {κ : Type}
variable [MemoryControl κ] [Regset κ]
variable [HashOrder κ DBRegister]
variable {debug : κ → Pid → UserHwdebugState}
variable {n : Pid → Nat}

/-
  In every state reached by a run whose calls all succeed, a
  hardware breakpoint is set as promised exactly if the pool
  of the thread has a register.  While only hardware types
  are asked for, that is so exactly if the thread has been
  probed, although fewer breakpoints than registers are live.
-/
theorem available_iff
    (hFile : RegisterFile debug n)
    (ops : List Op)
    (k : κ)
    (tid : Pid)
    (address : Addr)
    (type : BreakpointType)
    (hTid : 1 ≤ tid)
    (hAligned : address &&& 0x3 = 0)
    (hType : type.isHardware = true) :
    let start := Session.start k
    let s := run step ops start
    let op := .setHardwareBreakpoint tid address type
    (∀ bp ∈ s.manager.getBreakpoints, bp.address ≠ address) →
    (liveHardware tid s.manager).card < n tid →
    CallsSucceed (ops ++ [op]) start →
    (SetsArmed debug (issued ops start) tid address type s ↔
        s.manager.free tid ≠ ∅) ∧
      ((∀ op ∈ ops, op.SetsHardware) →
        (s.manager.free tid ≠ ∅ ↔
          tid ∈ s.manager.hardwareRegistersCount)) := by
  intro start s op hUnused hLive hCalls
  let t := run step ops start.watched
  have hSame : t.unwatched = s := run_watched ops start.watched
  have hManager : t.manager = s.manager :=
    congrArg Session.manager hSame
  have hStep : (step op t).unwatched = step op s := by
    rw [step_watched, hSame]
  have hResult : (exec op t).result = (exec op s).result := by
    rw [← hSame]
    exact congrArg Outcome.result (exec_watched op t)
  have hClean : (step op t).world.clean = true := by
    unfold CallsSucceed at hCalls
    rw [run_append] at hCalls
    exact hCalls
  have hStocked₀ : Stocked n start.watched :=
    stocked_start n (Watched.start k)
  have hClean₀ : t.world.clean = true :=
    clean_of_step (run_invariant step_consistent ops
      consistent_init) hClean
  have hStocked : Stocked n t :=
    stocked_run hFile ops hStocked₀ hClean₀
  have hTables := hStocked.sound.tables
  have hPools := hStocked.sound.pools
  rw [hManager] at hTables hPools
  have hUnique :
      s.manager.checkDuplicateBreakpoint address = false := by
    apply checkDuplicateBreakpoint_eq_false_iff.mpr
    intro id bp hLookup
    exact hUnused bp (UnorderedMap.mem_values.mpr ⟨id, hLookup⟩)
  refine ⟨⟨?_, ?_⟩, ?_⟩
  · rintro ⟨id, bp, i, hOk, hPos, -⟩
    have hExit :=
      setHardwareBreakpoint_exit hTables.fresh tid address type
        s.world
    rw [Answer.id.inj hOk] at hExit
    exact hExit.free_ne_empty hPos
  · intro hPool
    have hExit :=
      setHardwareBreakpoint_exit hStocked.sound.tables.fresh
        tid address type t.world
    rw [← hManager] at hPool hUnique
    rcases hExit.armed hFile hStocked.sound.pools.probedIfFree
      hStocked.within hTid hAligned hUnique hType hPool
      hClean with ⟨i, hOk, hLookup, hAddress, hArmed⟩
    have hFresh :
        t.manager.nextBreakpointId ∉ issued ops start := by
      intro hGiven
      have hLt :=
        (issued_lt ops (s := start) consistent_init).2 _ hGiven
      rw [hManager] at hLt
      exact lt_irrefl _ hLt
    unfold SetsArmed
    dsimp only
    rw [← hStep, ← hResult]
    exact ⟨t.manager.nextBreakpointId, _, i,
      congrArg Answer.id hOk, hStocked.sound.tables.nextPos,
      hFresh, hLookup, rfl, rfl, rfl, rfl, hAddress, hArmed⟩
  · intro hTypes
    constructor
    · intro hPool
      by_contra hUnprobed
      exact hPool (hPools.probedIfFree tid hUnprobed)
    · intro hProbed
      have hFull :=
        fullyPooled_run hFile ops hTid hTypes hStocked₀ hClean₀
          (fullyPooled_init n tid)
      rw [hManager] at hFull
      exact hFull.free_ne_empty (hFile.le tid) hProbed hLive

/- The registers of the simulated target. -/
theorem registerFile :
    RegisterFile SimulatedTarget.debugRegisters
      fun _ => 16 where
  le _ := le_refl 16
  absent _ _ i hLe := absurd i.isLt (Nat.not_lt.mpr hLe)
  get_some := SimulatedTarget.registerLaws.get_some
  set_true hSet i _ := by
    rw [SimulatedTarget.registerLaws.set_true hSet,
      Function.update_self]

/- A second breakpoint is set on a thread that was probed. -/
theorem available_iff_probed :
    let ops : List Op :=
      [.initHardwareRegister 7,
        .setHardwareBreakpoint 7 0x1000 .hardwareExecution]
    let start : Session SimulatedTarget :=
      Session.start (SimulatedTarget.fresh [])
    let s := run step ops start
    (SetsArmed SimulatedTarget.debugRegisters
          (issued ops start) 7 0x2000 .hardwareWrite s ↔
        s.manager.free 7 ≠ ∅) ∧
      ((∀ op ∈ ops, op.SetsHardware) →
        (s.manager.free 7 ≠ ∅ ↔
          7 ∈ s.manager.hardwareRegistersCount)) :=
  available_iff registerFile
    [.initHardwareRegister 7,
      .setHardwareBreakpoint 7 0x1000 .hardwareExecution]
    (SimulatedTarget.fresh []) 7 0x2000 .hardwareWrite
    (by decide) (by decide) (by decide) (by decide +kernel)
    (by decide +kernel)
    (by unfold CallsSucceed; decide +kernel)

/-
  The first hardware breakpoint of a thread with sixteen
  registers is refused.
-/
theorem not_setsArmed_first :
    let start : Session SimulatedTarget :=
      Session.start (SimulatedTarget.fresh [])
    CallsSucceed
        [.setHardwareBreakpoint 7 0x1000 .hardwareExecution]
        start ∧
      (liveHardware 7 start.manager).card < 16 ∧
      (exec (.setHardwareBreakpoint 7 0x1000
        .hardwareExecution) start).result = .id (.ok (-1)) ∧
      ¬ SetsArmed SimulatedTarget.debugRegisters [] 7 0x1000
          .hardwareExecution start := by
  intro start
  have hRefused :
      (exec (.setHardwareBreakpoint 7 0x1000
        .hardwareExecution) start).result = .id (.ok (-1)) := by
    rfl
  refine ⟨by unfold CallsSucceed; decide +kernel,
    by decide +kernel, hRefused, ?_⟩
  rintro ⟨id, bp, i, hOk, hPos, -⟩
  rw [hRefused] at hOk
  cases hOk
  cases hPos

end BreakpointManager

end AnDbg
