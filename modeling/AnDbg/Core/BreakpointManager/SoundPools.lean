import AnDbg.Core.BreakpointManager.RegisterPool

/-
  What holds of the registers of a thread in every reachable
  state, whatever breakpoint types are asked for.

  A call with a type that is not a hardware type loses the
  register that it takes, so the free registers and those of
  live breakpoints need not be all that were counted; but
  they are slots, none is both, none is owned twice, and a
  thread that was not probed has none.

  Main declarations:
    * `AnDbg.BreakpointManager.PoolsWithin`
    * `AnDbg.BreakpointManager.SoundPools`
    * `AnDbg.BreakpointManager.sound_run`
    * `AnDbg.BreakpointManager.SoundPools.exists_slot`
    * `AnDbg.BreakpointManager.SoundPools.apart`
-/

------------------------------------------------------------
-- Sound Pools
------------------------------------------------------------

namespace AnDbg

namespace BreakpointManager

open UnorderedMap Run

/-
  The pool of a thread is a partition of some of its first
  registers, of none if the thread was not probed.
-/
def PoolsWithin
    (bound : Pid → Nat)
    (m : BreakpointManager) : Prop :=
  ∀ tid, ∃ all, all ⊆ firstRegisters (bound tid) ∧
    (m.poolOf tid).Partition all ∧
      (tid ∉ m.hardwareRegistersCount → all = ∅)

/-
  The pool of a thread is a partition of some slots, of none
  if the thread was not probed.
-/
def SoundPools (m : BreakpointManager) : Prop :=
  ∀ tid, ∃ all, all ⊆ firstRegisters 16 ∧
    (m.poolOf tid).Partition all ∧
      (tid ∉ m.hardwareRegistersCount → all = ∅)

variable {m m' : BreakpointManager}
variable {tid : Pid}

theorem soundPools_init : SoundPools init := by
  intro tid
  rcases wellPooled_init tid with ⟨count, hLe, hPart, hZero⟩
  have hNone : count = 0 := hZero Finmap.notMem_empty
  subst hNone
  rw [firstRegisters_zero] at hPart
  exact ⟨∅, Set.empty_subset _, hPart, fun _ => rfl⟩

/- The first registers are slots. -/
theorem eq_dbg_of_firstRegisters
    {reg : DBRegister}
    (hFirst : reg ∈ firstRegisters 16) :
    ∃ i, reg = .dbg i := by
  rcases hFirst with ⟨i, hLt, hEq⟩
  rw [DBRegister.ofNat_of_lt hLt] at hEq
  exact ⟨_, hEq⟩

/- A register that a pool knows is a slot. -/
theorem SoundPools.exists_slot
    {reg : DBRegister}
    (hSound : SoundPools m)
    (hKnown :
      reg ∈ m.free tid ∨
        ∃ id, (m.poolOf tid).holder id = some reg) :
    ∃ i, reg = .dbg i := by
  rcases hSound tid with ⟨all, hFirst, hPart, -⟩
  exact eq_dbg_of_firstRegisters
    (hFirst ((hPart.cover reg).mp hKnown))

theorem SoundPools.holdsValid
    (hSound : SoundPools m) :
    HoldsValid m := by
  intro tid id hHolder
  rcases hSound.exists_slot (.inr ⟨id, hHolder⟩) with ⟨i, hEq⟩
  cases hEq

theorem SoundPools.probedIfFree
    (hSound : SoundPools m) :
    ProbedIfFree m := by
  intro tid hUnprobed
  rcases hSound tid with ⟨all, -, hPart, hNone⟩
  apply Finset.eq_empty_of_forall_notMem
  intro reg hFree
  have hAll : reg ∈ all := (hPart.cover reg).mp (.inl hFree)
  rw [hNone hUnprobed] at hAll
  exact hAll

/- A live hardware breakpoint holds its register. -/
theorem holder_of_hardware
    {id : Int}
    {bp : Breakpoint}
    (hLookup : m.breakpoints.lookup id = some bp)
    (hType : bp.type ≠ .software) :
    (m.poolOf bp.tid).holder id = some bp.hardwareRegister := by
  rw [holder_eq_of_lookup hLookup, holds,
    if_pos ⟨hType, rfl⟩]

/- It owns a slot. -/
theorem SoundPools.slot
    {id : Int}
    {bp : Breakpoint}
    (hSound : SoundPools m)
    (hLookup : m.breakpoints.lookup id = some bp)
    (hType : bp.type ≠ .software) :
    ∃ i, bp.hardwareRegister = .dbg i :=
  hSound.exists_slot
    (.inr ⟨id, holder_of_hardware hLookup hType⟩)

/- Two of them own different slots. -/
theorem SoundPools.apart
    {id id' : Int}
    {bp bp' : Breakpoint}
    (hSound : SoundPools m)
    (hNe : id ≠ id')
    (hLookup : m.breakpoints.lookup id = some bp)
    (hType : bp.type ≠ .software)
    (hLookup' : m.breakpoints.lookup id' = some bp')
    (hType' : bp'.type ≠ .software)
    (hTid : bp.tid = bp'.tid) :
    bp.hardwareRegister ≠ bp'.hardwareRegister := by
  intro hSame
  rcases hSound bp.tid with ⟨all, -, hPart, -⟩
  have hHolder := holder_of_hardware hLookup hType
  have hHolder' := holder_of_hardware hLookup' hType'
  rw [← hTid, ← hSame] at hHolder'
  exact hNe (hPart.unique id id' _ hHolder hHolder')

/-
  A pool step and the loss of a register keep the pools
  within bounds that the new counts respect.
-/
theorem PoolsWithin.step
    {bound : Pid → Nat}
    (hWithin : PoolsWithin bound m)
    (hStep :
      ∀ tid,
        (∃ completed, PoolStep completed tid m m') ∨
          (m'.hardwareRegistersCount =
              m.hardwareRegistersCount ∧
            ∃ reg ∈ m.free tid,
              m'.poolOf tid = (m.poolOf tid).drop reg))
    (hBound :
      ∀ tid count, count ≤ 16 →
        m'.hardwareRegistersCount.lookup tid = some count →
        count ≤ bound tid) :
    PoolsWithin bound m' := by
  intro tid
  rcases hWithin tid with ⟨all, hFirst, hPart, hNone⟩
  rcases hStep tid with
    ⟨completed, hStep⟩ | ⟨hCount, reg, hFree, hPool⟩
  · cases hStep with
    | kept _ hCount hPool =>
        refine ⟨all, hFirst, hPool.partition hPart, ?_⟩
        rw [PoolStep.mem_count hCount]
        exact hNone
    | failed _ _ hProbed hPool =>
        refine ⟨all, hFirst, ?_, fun hNot => absurd hProbed hNot⟩
        rw [hPool]
        exact hPart
    | @filled count hLe hUnprobed hCount hPool =>
        refine ⟨firstRegisters count, ?_, ?_, ?_⟩
        · rintro reg ⟨i, hLt, hEq⟩
          exact ⟨i, hLt.trans_le (hBound tid count hLe hCount),
            hEq⟩
        · rw [hNone hUnprobed] at hPart
          rw [hPool]
          exact hPart.fill _
        · intro hNot
          exact absurd (Finmap.mem_of_lookup_eq_some hCount)
            hNot
  · refine ⟨all \ {reg}, ?_, ?_, ?_⟩
    · exact Set.sdiff_subset.trans hFirst
    · rw [hPool]
      exact hPart.drop (Finset.mem_coe.mpr hFree)
    · intro hNot
      rw [hCount] at hNot
      rw [hNone hNot, Set.empty_sdiff]

variable {κ : Type}
variable [MemoryControl κ] [Regset κ]
variable [HashOrder κ DBRegister]

/- The tables are consistent and all pools are sound. -/
structure Sound (s : Session κ) : Prop where
  tables : Consistent s.manager
  pools : SoundPools s.manager

/- An operation makes a pool step or loses a register. -/
theorem Sound.pool_steps
    {s : Session κ}
    (hSound : Sound s)
    (op : Op)
    (tid : Pid) :
    (∃ completed,
        PoolStep completed tid s.manager (step op s).manager) ∨
      ((step op s).manager.hardwareRegistersCount =
          s.manager.hardwareRegistersCount ∧
        ∃ reg ∈ s.manager.free tid,
          (step op s).manager.poolOf tid =
            (s.manager.poolOf tid).drop reg) := by
  rcases step_pool_or_loses op hSound.tables
    hSound.pools.probedIfFree hSound.pools.holdsValid tid with
    hStep | ⟨_, _, -, -, hCount, hLost⟩
  · exact .inl ⟨_, hStep⟩
  · exact .inr ⟨hCount, hLost⟩

/- Every operation keeps the state sound. -/
theorem step_sound
    (s : Session κ)
    (op : Op)
    (hSound : Sound s) :
    Sound (step op s) where
  tables := step_consistent s op hSound.tables
  pools :=
    PoolsWithin.step hSound.pools (hSound.pool_steps op)
      fun _ _ hLe _ => hLe

/- Every reachable state is sound. -/
theorem sound_run
    (ops : List Op)
    (k : κ) :
    Sound (run step ops (Session.start k)) :=
  run_invariant step_sound ops
    ⟨consistent_init, soundPools_init⟩

end BreakpointManager

end AnDbg
