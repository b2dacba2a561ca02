import AnDbg.Core.BreakpointManager.Availability
import AnDbg.Core.BreakpointManager.Image
import AnDbg.Core.BreakpointManager.Programmed

/-
  What a session leaves in the target depends on the live
  breakpoints alone, not on how they came about.

  While all calls succeed, the memory, the debug registers,
  the index of the threads and the pools are each given by
  the table of the breakpoints; so two runs that end with
  the same breakpoints cannot be told apart, however many
  were set, switched and removed on the way.  In particular
  every change that is undone has left nothing behind.

  Main declarations:
    * `AnDbg.DbgReg.watched`
    * `AnDbg.BreakpointManager.Tracked` and `step_tracked`
    * `AnDbg.BreakpointManager.history_independence`
-/

------------------------------------------------------------
-- Clean Steps
------------------------------------------------------------

namespace AnDbg

namespace BreakpointManager

open Watched RegisterControl

variable {κ : Type}
variable [MemoryControl κ] [Regset κ]
variable {s : Session (Watched κ)}

/- Probes whose calls all go through succeed. -/
theorem probesSucceed_of_clean
    [HashOrder κ DBRegister]
    {op : Op}
    (hSound : Sound s)
    (hClean : (step op s).world.clean = true) :
    ProbesSucceed op s := by
  intro tid hProbe
  cases op with
  | getHardwareRegistersCount tid' =>
      cases hProbe
      apply isSuccess_of_clean
      rw [← getHardwareRegistersCount_world]
      exact hClean
  | initHardwareRegister tid' =>
      cases hProbe
      exact isSuccess_of_clean hClean
  | setHardwareBreakpoint tid' address type =>
      have hProbed : tid ∈ s.manager.hardwareRegistersCount := by
        by_contra hNot
        exact hProbe.2.2.2
          (hSound.pools.probedIfFree tid hNot)
      rw [initHardwareRegister, if_pos hProbed]
      rfl
  | _ => exact hProbe.elim

/- Removals whose calls all go through disarm. -/
theorem removalDisarms_of_clean
    [HashOrder κ DBRegister]
    {op : Op}
    (hSound : Sound s)
    (hClean : (step op s).world.clean = true) :
    RemovalDisarms op s := by
  cases op with
  | removeBreakpoint id =>
      intro bp hLookup hType _
      rcases hSound.pools.slot hLookup hType with ⟨i, hSlot⟩
      have hValid : bp.hardwareRegister ≠ .invalid := by
        rw [hSlot]
        intro hEq
        cases hEq
      have hWorld :
          (step (.removeBreakpoint id) s).world =
            disarm bp s.world := by
        change (s.manager.removeBreakpoint id s.world).world = _
        simp only [removeBreakpoint, hLookup, if_neg hType,
          if_pos hValid]
      rw [hWorld, disarm] at hClean
      rcases hGet : getDbg bp.tid bp.hardwareRegister s.world
        with ⟨_ | ⟨address, control⟩, k₁⟩
      · rw [hGet] at hClean
        rw [hSlot] at hGet
        cases (clean_of_getDbg hGet hClean).2
      rw [hGet] at hClean
      dsimp only at hClean
      rcases hSet :
        setDbg bp.tid bp.hardwareRegister
          (address, withoutEnable control) k₁ with
        ⟨_ | _, k₂⟩
      · rw [hSet] at hClean
        rw [hSlot] at hSet
        cases (clean_of_setDbg hSet hClean).2
      · exact ⟨address, control, k₁, k₂, hGet, hSet⟩
  | _ => trivial

end BreakpointManager

end AnDbg

------------------------------------------------------------
-- Tracked States
------------------------------------------------------------

namespace AnDbg

open BreakpointManager

/-
  What the processor sees of a debug register: one that is
  not armed is passed over.
-/
def DbgReg.watched (slot : DbgReg) : Option DbgReg :=
  if slot.isArmed = true then some slot else none

namespace BreakpointManager

open Run UnorderedMap

variable {κ : Type}
variable [MemoryControl κ] [Regset κ]
variable [HashOrder κ DBRegister]
variable {memory : κ → Memory}
variable {debug : κ → Pid → UserHwdebugState}

/-
  The memory and the registers are those that the table asks
  for, and every probed thread has all of its registers.
-/
structure Tracked
    (base : Memory)
    (memory : κ → Memory)
    (debug : κ → Pid → UserHwdebugState)
    (s : Session κ) : Prop where
  sound : Sound s
  image : Image base s.manager (memory s.world)
  mirror : MirrorInvariant debug s
  programmed : Programmed s.manager (debug s.world)
  pooled :
    ∀ tid, tid ∈ s.manager.hardwareRegistersCount →
      Pooled tid s.manager

omit [MemoryControl κ] [Regset κ] [HashOrder κ DBRegister] in
theorem tracked_start
    (memory : κ → Memory)
    (debug : κ → Pid → UserHwdebugState)
    (k : κ)
    (hClear :
      ∀ tid i, (slot (debug k) tid i).isArmed = false) :
    Tracked (memory k) memory debug (Session.start k) := by
  have hUnowned (tid : Pid) (i : Fin 16) (id : Int)
      (bp : Breakpoint) : ¬ Owns init tid i id bp := by
    rintro ⟨hLookup, -⟩
    simp [init] at hLookup
  constructor
  case sound => exact ⟨consistent_init, soundPools_init⟩
  case image => exact image_init (memory k)
  case mirror =>
    refine ⟨⟨consistent_init, wellPooled_init⟩, ?_, ?_⟩
    · intro tid i id bp hOwns
      exact absurd hOwns (hUnowned tid i id bp)
    · intro tid i _
      exact hClear tid i
  case programmed =>
    intro tid i id bp hOwns
    exact absurd hOwns (hUnowned tid i id bp)
  case pooled =>
    intro tid hProbed
    exact absurd hProbed Finmap.notMem_empty

/- An operation whose calls succeed keeps track. -/
theorem step_tracked
    {base : Memory}
    {s : Session (Watched κ)}
    (hMemory : MemoryLaws memory)
    (hRegisters : RegisterLaws debug)
    (hCalls : RegsetNeedsTid κ)
    (op : Op)
    (hTypes : op.SetsHardware)
    (hClean : (step op s).world.clean = true)
    (hTracked :
      Tracked base (fun k => memory k.world)
        (fun k => debug k.world) s) :
    Tracked base (fun k : Watched κ => memory k.world)
      (fun k => debug k.world) (step op s) := by
  have hLaws := Watched.registerLaws hRegisters
  have hNeedsTid := Watched.regsetNeedsTid hCalls
  have hProbes := probesSucceed_of_clean hTracked.sound hClean
  constructor
  case sound => exact step_sound s op hTracked.sound
  case image =>
    exact step_image (Watched.memoryLaws hMemory) s op
      hTracked.image
  case mirror =>
    exact step_mirror hLaws hNeedsTid s op hTracked.mirror
      ⟨hTypes, hProbes⟩
      (removalDisarms_of_clean hTracked.sound hClean)
  case programmed =>
    exact step_programmed hLaws s op hTracked.sound hProbes
      hTracked.programmed
  case pooled =>
    intro tid hProbed
    rcases hTracked.mirror.1 with ⟨hTables, hPooled⟩
    have hStep :=
      step_pool hNeedsTid op hTypes hTables hPooled tid
    by_cases hOld : tid ∈ s.manager.hardwareRegistersCount
    · exact (hTracked.pooled tid hOld).step hStep
    · exact pooled_of_completed hPooled hStep
        (completesProbe_of_clean op hTracked.sound hClean hOld
          hProbed)

/- After a run whose calls all succeed. -/
theorem tracked_run
    {base : Memory}
    {s : Session (Watched κ)}
    (hMemory : MemoryLaws memory)
    (hRegisters : RegisterLaws debug)
    (hCalls : RegsetNeedsTid κ)
    {ops : List Op}
    (hTypes : ∀ op ∈ ops, op.SetsHardware)
    (hClean : (run step ops s).world.clean = true)
    (hTracked :
      Tracked base (fun k => memory k.world)
        (fun k => debug k.world) s) :
    Tracked base (fun k : Watched κ => memory k.world)
      (fun k => debug k.world) (run step ops s) := by
  induction ops generalizing s with
  | nil => exact hTracked
  | cons op ops ih =>
      rcases List.forall_mem_cons.mp hTypes with
        ⟨hHere, hRest⟩
      have hTables := (step_sound s op hTracked.sound).tables
      have hClean₁ : (step op s).world.clean = true :=
        clean_of_run hTables hClean
      exact ih hRest hClean
        (step_tracked hMemory hRegisters hCalls op hHere hClean₁
          hTracked)

omit [MemoryControl κ] [Regset κ] [HashOrder κ DBRegister] in
/- The index is given by the breakpoints. -/
theorem Consistent.tidBreakpointsMap_eq
    {m m' : BreakpointManager}
    (hTables : Consistent m)
    (hTables' : Consistent m')
    (hSame : m.breakpoints = m'.breakpoints) :
    m.tidBreakpointsMap = m'.tidBreakpointsMap := by
  have hIndex (tid : Pid) :
      index tid m.tidBreakpointsMap =
        index tid m'.tidBreakpointsMap := by
    ext id
    rw [hTables.indexed, hTables'.indexed, hSame]
  apply Finmap.ext_lookup
  intro tid
  have hTid := hIndex tid
  unfold index at hTid
  cases hLeft : m.tidBreakpointsMap.lookup tid with
  | none =>
      cases hRight : m'.tidBreakpointsMap.lookup tid with
      | none => rfl
      | some ids =>
          rw [hLeft, hRight] at hTid
          have hSome := hTables'.inhabited tid ids hRight
          exact absurd hTid.symm hSome.ne_empty
  | some ids =>
      have hSome := hTables.inhabited tid ids hLeft
      cases hRight : m'.tidBreakpointsMap.lookup tid with
      | none =>
          rw [hLeft, hRight] at hTid
          exact absurd hTid hSome.ne_empty
      | some ids' =>
          rw [hLeft, hRight] at hTid
          exact congrArg some hTid

end BreakpointManager

end AnDbg

------------------------------------------------------------
-- Histories
------------------------------------------------------------

namespace AnDbg

namespace BreakpointManager

open Run UnorderedMap

variable {κ : Type}
variable {memory : κ → Memory}
variable {debug : κ → Pid → UserHwdebugState}

/-
  Two states with the same breakpoints look the same: the
  index and the memory, what the processor sees of the debug
  registers, the registers that breakpoints own, and the
  pools of the threads with as many registers.
-/
structure LooksSame
    (memory : κ → Memory)
    (debug : κ → Pid → UserHwdebugState)
    (s s' : Session κ) : Prop where
  tidBreakpointsMap :
    s.manager.tidBreakpointsMap = s'.manager.tidBreakpointsMap
  memory : memory s.world = memory s'.world
  watched :
    ∀ tid i,
      (slot (debug s.world) tid i).watched =
        (slot (debug s'.world) tid i).watched
  owned :
    ∀ tid i id bp, Owns s.manager tid i id bp →
      slot (debug s.world) tid i = slot (debug s'.world) tid i
  free :
    ∀ tid,
      s.manager.hardwareRegistersCount.lookup tid =
        s'.manager.hardwareRegistersCount.lookup tid →
      s.manager.free tid = s'.manager.free tid

/- Tracked states with the same breakpoints look the same. -/
theorem Tracked.looksSame
    {base : Memory}
    {s s' : Session κ}
    (hTracked : Tracked base memory debug s)
    (hTracked' : Tracked base memory debug s')
    (hSame : s.manager.breakpoints = s'.manager.breakpoints) :
    LooksSame memory debug s s' := by
  have hOwner {tid i id bp}
      (hOwns : Owns s.manager tid i id bp) :
      Owns s'.manager tid i id bp := by
    rcases hOwns with ⟨hLookup, hRest⟩
    exact ⟨hSame ▸ hLookup, hRest⟩
  have hOwned {tid i id bp}
      (hOwns : Owns s.manager tid i id bp) :
      slot (debug s.world) tid i =
        slot (debug s'.world) tid i := by
    have hReg := hTracked.programmed tid i id bp hOwns
    have hReg' :=
      hTracked'.programmed tid i id bp (hOwner hOwns)
    exact Option.some.inj (hReg.symm.trans hReg')
  constructor
  case tidBreakpointsMap =>
    exact hTracked.sound.tables.tidBreakpointsMap_eq
      hTracked'.sound.tables hSame
  case memory =>
    rw [hTracked.image.overlaid, hTracked'.image.overlaid,
      patchedWords_congr hSame]
  case watched =>
    intro tid i
    by_cases hSome : ∃ id bp, Owns s.manager tid i id bp
    · rcases hSome with ⟨id, bp, hOwns⟩
      rw [hOwned hOwns]
    · have hOff :=
        hTracked.mirror.2.unowned tid i fun id bp hOwns =>
          hSome ⟨id, bp, hOwns⟩
      have hOff' :=
        hTracked'.mirror.2.unowned tid i
          fun id bp ⟨hLookup, hRest⟩ =>
            hSome ⟨id, bp, hSame ▸ hLookup, hRest⟩
      simp [DbgReg.watched, hOff, hOff']
  case owned =>
    intro tid i id bp hOwns
    exact hOwned hOwns
  case free =>
    intro tid hCount
    have hOnRecord := PoolStep.mem_count hCount
    by_cases hProbed : tid ∈ s.manager.hardwareRegistersCount
    · have hProbed' :
          tid ∈ s'.manager.hardwareRegistersCount :=
        hOnRecord.mp hProbed
      have hPart := (hTracked.pooled tid hProbed).2
      have hPart' := (hTracked'.pooled tid hProbed').2
      have hAll :
          index tid s'.manager.hardwareRegistersCount =
            index tid s.manager.hardwareRegistersCount := by
        simp only [index, hCount]
      rw [hAll] at hPart'
      apply Finset.coe_injective
      apply hPart.free_eq hPart'
      simp only [poolOf, hSame]
    · have hProbed' :
          tid ∉ s'.manager.hardwareRegistersCount :=
        mt hOnRecord.mpr hProbed
      rw [hTracked.sound.pools.probedIfFree tid hProbed,
        hTracked'.sound.pools.probedIfFree tid hProbed']

variable [MemoryControl κ] [Regset κ]
variable [HashOrder κ DBRegister]

/-
  Two runs from one start whose calls all succeed and that
  end with the same live breakpoints leave states that look
  the same.
-/
theorem history_independence
    (hMemory : MemoryLaws memory)
    (hRegisters : RegisterLaws debug)
    (hCalls : RegsetNeedsTid κ)
    (k : κ)
    (hClear :
      ∀ tid i, (slot (debug k) tid i).isArmed = false)
    (ops ops' : List Op)
    (hTypes : ∀ op ∈ ops ++ ops', op.SetsHardware)
    (hSucceed : CallsSucceed ops (Session.start k))
    (hSucceed' : CallsSucceed ops' (Session.start k)) :
    let s := run step ops (Session.start k)
    let s' := run step ops' (Session.start k)
    s.manager.breakpoints = s'.manager.breakpoints →
      LooksSame memory debug s s' := by
  intro s s' hSame
  have hStart :
      Tracked (memory k) (fun k : Watched κ => memory k.world)
        (fun k => debug k.world) (Session.start k).watched :=
    tracked_start (fun k => memory k.world)
      (fun k => debug k.world) (Watched.start k) hClear
  have hTracked (ops : List Op)
      (hTypes : ∀ op ∈ ops, op.SetsHardware)
      (hSucceed : CallsSucceed ops (Session.start k)) :
      Tracked (memory k) memory debug
        (run step ops (Session.start k)) := by
    have hRun :=
      tracked_run hMemory hRegisters hCalls hTypes hSucceed
        hStart
    have hEnd :
        (run step ops (Session.start k).watched).unwatched =
          run step ops (Session.start k) :=
      run_watched ops (Session.start k).watched
    rw [← hEnd]
    exact {
      sound := ⟨hRun.sound.tables, hRun.sound.pools⟩
      image := hRun.image
      mirror := hRun.mirror
      programmed := hRun.programmed
      pooled := hRun.pooled }
  have hHere := hTracked ops
    (fun op hMem => hTypes op (List.mem_append_left _ hMem))
    hSucceed
  have hThere := hTracked ops'
    (fun op hMem => hTypes op (List.mem_append_right _ hMem))
    hSucceed'
  exact hHere.looksSame hThere hSame

/-
  One run sets two breakpoints; the other one also switches
  the first off and on again, and sets a third one that it
  removes.
-/
theorem history_independence_undone :
    let start : Session SimulatedTarget :=
      Session.start (SimulatedTarget.fresh [])
    LooksSame SimulatedTarget.memory
      SimulatedTarget.debugRegisters
      (run step
        [.initHardwareRegister 7,
          .setHardwareBreakpoint 7 0x1000 .hardwareExecution,
          .setSoftwareBreakpoint 7 0x2000]
        start)
      (run step
        [.initHardwareRegister 7,
          .setHardwareBreakpoint 7 0x1000 .hardwareExecution,
          .setSoftwareBreakpoint 7 0x2000, .disable 1,
          .setHardwareBreakpoint 7 0x3000 .hardwareWrite,
          .enable 1, .removeBreakpoint 3]
        start) :=
  history_independence SimulatedTarget.memoryLaws
    SimulatedTarget.registerLaws SimulatedTarget.regsetNeedsTid
    (SimulatedTarget.fresh []) (isArmed_fresh [])
    [.initHardwareRegister 7,
      .setHardwareBreakpoint 7 0x1000 .hardwareExecution,
      .setSoftwareBreakpoint 7 0x2000]
    [.initHardwareRegister 7,
      .setHardwareBreakpoint 7 0x1000 .hardwareExecution,
      .setSoftwareBreakpoint 7 0x2000, .disable 1,
      .setHardwareBreakpoint 7 0x3000 .hardwareWrite,
      .enable 1, .removeBreakpoint 3]
    (by simp [Op.SetsHardware, BreakpointType.isHardware])
    (by unfold CallsSucceed; decide +kernel)
    (by unfold CallsSucceed; decide +kernel)
    (by decide +kernel)

end BreakpointManager

end AnDbg
