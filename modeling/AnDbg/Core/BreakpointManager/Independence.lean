import AnDbg.Core.BreakpointManager.Failures
import AnDbg.Core.BreakpointManager.Watching

/-
  Enabling, disabling and removing different breakpoints can
  be done in either order.

  When its calls succeed, such a change does three things:
  it changes the tables at its own id, it rewrites the word
  of its breakpoint, and it switches the register of its
  breakpoint.  In a reachable state the words and registers
  of two live breakpoints are different ones, so that all
  three commute.

  Main declarations:
    * `AnDbg.BreakpointManager.Change`
    * `AnDbg.BreakpointManager.Change.tables`, `patch` and
      `rearm`
    * `AnDbg.BreakpointManager.Change.effect`
    * `AnDbg.BreakpointManager.changes_independent`
-/

------------------------------------------------------------
-- Changes
------------------------------------------------------------

namespace AnDbg

namespace BreakpointManager

open LittleEndian ByteMemory

/- The operations on a live breakpoint. -/
inductive Change
  | enable
  | disable
  | remove
deriving DecidableEq

namespace Change

/- The operation on the breakpoint with an id. -/
def op (id : Int) : Change → Op
| .enable => .enable id
| .disable => .disable id
| .remove => .removeBreakpoint id

/- Whether it puts the breakpoint in place. -/
def on : Change → Bool
| .enable => true
| .disable => false
| .remove => false

/- Whether it touches the target. -/
def acts (bp : Breakpoint) : Change → Bool
| .enable => !bp.enabled
| .disable => bp.enabled
| .remove => true

/- What it does to the tables. -/
def tables
    (id : Int)
    (bp : Breakpoint)
    (m : BreakpointManager) : Change → BreakpointManager
| .enable => m.setEnabled id bp true
| .disable => m.setEnabled id bp false
| .remove =>
    if bp.type = .software then m.eraseBreakpoint id bp
    else
      (m.giveRegister bp.tid
        bp.hardwareRegister).eraseBreakpoint id bp

/- What it does to the memory. -/
def patch
    (bp : Breakpoint)
    (mem : Memory)
    (c : Change) : Memory :=
  if bp.type = .software ∧ c.acts bp = true then
    write mem bp.address (encode 4 (instructionFor c.on bp))
  else mem

/- Switch a register on or off. -/
def switchSlot
    (on : Bool)
    (tid : Pid)
    (i : Fin 16)
    (d : Pid → UserHwdebugState) : Pid → UserHwdebugState :=
  setSlot d tid i
    ⟨(slot d tid i).addr, controlFor on (slot d tid i).ctrl⟩

/- What it does to the debug registers. -/
def rearm
    (bp : Breakpoint)
    (d : Pid → UserHwdebugState)
    (c : Change) : Pid → UserHwdebugState :=
  if bp.type ≠ .software ∧ c.acts bp = true then
    match bp.hardwareRegister with
    | .dbg i => switchSlot c.on bp.tid i d
    | .dbgInfo => d
    | .maxRegisters => d
    | .invalid => d
  else d

end Change

end BreakpointManager

end AnDbg

------------------------------------------------------------
-- Changes Of The Tables
------------------------------------------------------------

namespace AnDbg

namespace BreakpointManager

open UnorderedMap

/- Drop an id from the index of its thread. -/
def dropIndex
    (tid : Pid)
    (id : Int)
    (t : UnorderedMap Pid (Finset Int)) :
    UnorderedMap Pid (Finset Int) :=
  let t := update tid (fun ids => ids.erase id) t
  if index tid t = ∅ then t.erase tid else t

theorem lookup_dropIndex
    (tid : Pid)
    (id : Int)
    (t : UnorderedMap Pid (Finset Int))
    (tid' : Pid) :
    (dropIndex tid id t).lookup tid' =
      if tid' = tid then
        if (index tid t).erase id = ∅ then none
        else some ((index tid t).erase id)
      else t.lookup tid' := by
  unfold dropIndex
  dsimp only
  rw [index_update, if_pos rfl]
  by_cases hEmpty : (index tid t).erase id = ∅
  · rw [if_pos hEmpty, if_pos hEmpty, lookup_erase,
      lookup_update]
    by_cases hTid : tid' = tid
    · rw [if_pos hTid, if_pos hTid]
    · rw [if_neg hTid, if_neg hTid, if_neg hTid]
  · rw [if_neg hEmpty, if_neg hEmpty, lookup_update]

theorem index_dropIndex
    (tid : Pid)
    (id : Int)
    (t : UnorderedMap Pid (Finset Int))
    (tid' : Pid) :
    index tid' (dropIndex tid id t) =
      if tid' = tid then (index tid t).erase id
      else index tid' t := by
  unfold index
  rw [lookup_dropIndex]
  by_cases hTid : tid' = tid
  · rw [if_pos hTid, if_pos hTid]
    by_cases hEmpty : (index tid t).erase id = ∅
    · rw [if_pos hEmpty]
      exact hEmpty.symm
    · rw [if_neg hEmpty]
      rfl
  · rw [if_neg hTid, if_neg hTid]

/- Ids leave the index in either order. -/
theorem dropIndex_comm
    (tid tid' : Pid)
    (id id' : Int)
    (t : UnorderedMap Pid (Finset Int)) :
    dropIndex tid id (dropIndex tid' id' t) =
      dropIndex tid' id' (dropIndex tid id t) := by
  apply Finmap.ext_lookup
  intro x
  rw [lookup_dropIndex, lookup_dropIndex, lookup_dropIndex,
    lookup_dropIndex, index_dropIndex, index_dropIndex]
  by_cases hTid : tid = tid'
  · subst hTid
    rw [if_pos rfl, if_pos rfl, Finset.erase_right_comm]
    by_cases hx : x = tid
    · rw [if_pos hx, if_pos hx]
    · simp only [if_neg hx]
  · rw [if_neg hTid, if_neg (Ne.symm hTid)]
    by_cases hx : x = tid
    · have hx' : x ≠ tid' := fun hEq => hTid (hx.symm.trans hEq)
      rw [if_pos hx, if_neg hx', if_pos hx]
    · simp only [if_neg hx]

/- Entries with different keys change in either order. -/
theorem insert_erase_comm
    {id id' : Int}
    (hNe : id ≠ id')
    (bp : Breakpoint)
    (t : UnorderedMap Int Breakpoint) :
    (t.erase id').insert id bp = (t.insert id bp).erase id' := by
  apply Finmap.ext_lookup
  intro x
  rw [lookup_insert, lookup_erase, lookup_erase, lookup_insert]
  by_cases hx : x = id
  · have hx' : x ≠ id' := fun hEq => hNe (hx.symm.trans hEq)
    rw [if_pos hx, if_neg hx', if_pos hx]
  · rw [if_neg hx]
    by_cases hx' : x = id'
    · rw [if_pos hx', if_pos hx']
    · rw [if_neg hx', if_neg hx', if_neg hx]

namespace Change

/- What a change does to the breakpoints. -/
def entries
    (id : Int)
    (bp : Breakpoint)
    (t : UnorderedMap Int Breakpoint) :
    Change → UnorderedMap Int Breakpoint
| .enable => t.insert id { bp with enabled := true }
| .disable => t.insert id { bp with enabled := false }
| .remove => t.erase id

/- What it does to the index of the threads. -/
def ids
    (bp : Breakpoint)
    (t : UnorderedMap Pid (Finset Int)) :
    Change → UnorderedMap Pid (Finset Int)
| .enable => t
| .disable => t
| .remove => dropIndex bp.tid bp.id t

/- What it does to the pools. -/
def pools
    (bp : Breakpoint)
    (t : UnorderedMap Pid (Finset DBRegister)) :
    Change → UnorderedMap Pid (Finset DBRegister)
| .enable => t
| .disable => t
| .remove =>
    if bp.type = .software then t
    else update bp.tid (insert bp.hardwareRegister) t

theorem tables_eq
    (c : Change)
    (id : Int)
    (bp : Breakpoint)
    (m : BreakpointManager) :
    c.tables id bp m =
      { m with
        breakpoints := c.entries id bp m.breakpoints
        tidBreakpointsMap := c.ids bp m.tidBreakpointsMap
        freeHardwareRegisters :=
          c.pools bp m.freeHardwareRegisters } := by
  cases c with
  | enable => rfl
  | disable => rfl
  | remove =>
      unfold tables pools
      by_cases hType : bp.type = .software
      · simp only [if_pos hType]
        rfl
      · simp only [if_neg hType]
        rfl

theorem entries_comm
    {id id' : Int}
    (hNe : id ≠ id')
    (c c' : Change)
    (bp bp' : Breakpoint)
    (t : UnorderedMap Int Breakpoint) :
    c.entries id bp (c'.entries id' bp' t) =
      c'.entries id' bp' (c.entries id bp t) := by
  have hInsert (bp bp' : Breakpoint) :
      (t.insert id' bp').insert id bp =
        (t.insert id bp).insert id' bp' :=
    (Finmap.insert_insert_of_ne t hNe).symm
  cases c with
  | enable =>
      cases c' with
      | enable => exact hInsert _ _
      | disable => exact hInsert _ _
      | remove => exact insert_erase_comm hNe _ t
  | disable =>
      cases c' with
      | enable => exact hInsert _ _
      | disable => exact hInsert _ _
      | remove => exact insert_erase_comm hNe _ t
  | remove =>
      cases c' with
      | enable => exact (insert_erase_comm hNe.symm _ t).symm
      | disable => exact (insert_erase_comm hNe.symm _ t).symm
      | remove => exact Finmap.erase_erase

theorem ids_comm
    (c c' : Change)
    (bp bp' : Breakpoint)
    (t : UnorderedMap Pid (Finset Int)) :
    c.ids bp (c'.ids bp' t) = c'.ids bp' (c.ids bp t) := by
  cases c with
  | enable => cases c' <;> rfl
  | disable => cases c' <;> rfl
  | remove =>
      cases c' with
      | enable => rfl
      | disable => rfl
      | remove => exact dropIndex_comm _ _ _ _ t

theorem pools_comm
    (c c' : Change)
    (bp bp' : Breakpoint)
    (t : UnorderedMap Pid (Finset DBRegister)) :
    c.pools bp (c'.pools bp' t) = c'.pools bp' (c.pools bp t) := by
  cases c with
  | enable => cases c' <;> rfl
  | disable => cases c' <;> rfl
  | remove =>
      cases c' with
      | enable => rfl
      | disable => rfl
      | remove =>
          unfold pools
          by_cases hType : bp.type = .software
          · rw [if_pos hType, if_pos hType]
          by_cases hType' : bp'.type = .software
          · rw [if_pos hType', if_pos hType']
          rw [if_neg hType, if_neg hType', if_neg hType,
            if_neg hType']
          exact update_comm
            (fun free => Finset.insert_comm _ _ free) _ _ t

/- Changes at different ids can be made in either order. -/
theorem tables_comm
    {id id' : Int}
    (hNe : id ≠ id')
    (c c' : Change)
    (bp bp' : Breakpoint)
    (m : BreakpointManager) :
    c.tables id bp (c'.tables id' bp' m) =
      c'.tables id' bp' (c.tables id bp m) := by
  rw [tables_eq, tables_eq c', tables_eq c' id', tables_eq c]
  simp only [entries_comm hNe c c', ids_comm c c',
    pools_comm c c']

/- A change leaves the entries of other ids alone. -/
theorem lookup_tables
    {id id' : Int}
    (hNe : id' ≠ id)
    (c : Change)
    (bp : Breakpoint)
    (m : BreakpointManager) :
    (c.tables id bp m).breakpoints.lookup id' =
      m.breakpoints.lookup id' := by
  rw [tables_eq]
  cases c with
  | enable => exact Finmap.lookup_insert_of_ne _ hNe
  | disable => exact Finmap.lookup_insert_of_ne _ hNe
  | remove => exact Finmap.lookup_erase_ne hNe

end Change

end BreakpointManager

end AnDbg

------------------------------------------------------------
-- Changes Of The Target
------------------------------------------------------------

namespace AnDbg

namespace BreakpointManager

open LittleEndian ByteMemory

/- Different registers are changed in either order. -/
theorem setSlot_comm
    {tid tid' : Pid}
    {i j : Fin 16}
    (hApart : ¬ (tid = tid' ∧ i = j))
    (value value' : DbgReg)
    (d : Pid → UserHwdebugState) :
    setSlot (setSlot d tid' j value') tid i value =
      setSlot (setSlot d tid i value) tid' j value' := by
  unfold setSlot
  by_cases hTid : tid = tid'
  · subst hTid
    have hSlot : i ≠ j := fun hEq => hApart ⟨rfl, hEq⟩
    simp only [Function.update_self, Function.update_idem,
      Function.update_comm hSlot.symm]
  · rw [Function.update_of_ne hTid,
      Function.update_of_ne (Ne.symm hTid),
      Function.update_comm (Ne.symm hTid)]

namespace Change

theorem switchSlot_comm
    {tid tid' : Pid}
    {i j : Fin 16}
    (hApart : ¬ (tid = tid' ∧ i = j))
    (on on' : Bool)
    (d : Pid → UserHwdebugState) :
    switchSlot on tid i (switchSlot on' tid' j d) =
      switchSlot on' tid' j (switchSlot on tid i d) := by
  have hApart' : ¬ (tid' = tid ∧ j = i) :=
    fun hEq => hApart ⟨hEq.1.symm, hEq.2.symm⟩
  unfold switchSlot
  rw [slot_setSlot, if_neg hApart, slot_setSlot,
    if_neg hApart', setSlot_comm hApart]

variable {m : BreakpointManager}
variable {id id' : Int} {bp bp' : Breakpoint}

/- Two live breakpoints patch different words. -/
theorem patch_comm
    (hTables : Consistent m)
    (hNe : id ≠ id')
    (hLookup : m.breakpoints.lookup id = some bp)
    (hLookup' : m.breakpoints.lookup id' = some bp')
    (c c' : Change)
    (mem : Memory) :
    c.patch bp (c'.patch bp' mem) =
      c'.patch bp' (c.patch bp mem) := by
  have hAddress : bp'.address ≠ bp.address := fun hEq =>
    hNe (hTables.distinct id bp id' bp' hLookup hLookup'
      hEq.symm)
  have hAligned (id : Int) (bp : Breakpoint)
      (hLookup : m.breakpoints.lookup id = some bp) :
      Aligned 4 bp.address :=
    aligned_iff.mp (hTables.entry id bp hLookup).aligned
  have hApart :=
    apart_of_aligned (hAligned id' bp' hLookup')
      (hAligned id bp hLookup) (by decide) (by decide) hAddress
  unfold patch
  split
  next =>
    split
    next =>
      apply write_comm
      rw [length_encode, length_encode]
      exact hApart
    next => rfl
  next => rfl

/- Two live breakpoints switch different registers. -/
theorem rearm_comm
    (hPools : SoundPools m)
    (hNe : id ≠ id')
    (hLookup : m.breakpoints.lookup id = some bp)
    (hLookup' : m.breakpoints.lookup id' = some bp')
    (c c' : Change)
    (d : Pid → UserHwdebugState) :
    c.rearm bp (c'.rearm bp' d) =
      c'.rearm bp' (c.rearm bp d) := by
  unfold rearm
  by_cases hActs : bp.type ≠ .software ∧ c.acts bp = true
  · by_cases hActs' : bp'.type ≠ .software ∧ c'.acts bp' = true
    · rw [if_pos hActs, if_pos hActs', if_pos hActs,
        if_pos hActs']
      rcases hPools.slot hLookup hActs.1 with ⟨i, hSlot⟩
      rcases hPools.slot hLookup' hActs'.1 with ⟨j, hSlot'⟩
      rw [hSlot, hSlot']
      apply switchSlot_comm
      rintro ⟨hTid, rfl⟩
      exact hPools.apart hNe hLookup hActs.1 hLookup'
        hActs'.1 hTid (hSlot.trans hSlot'.symm)
    · rw [if_neg hActs', if_neg hActs']
  · rw [if_neg hActs, if_neg hActs]

end Change

end BreakpointManager

end AnDbg

------------------------------------------------------------
-- What A Change Does
------------------------------------------------------------

namespace AnDbg

namespace BreakpointManager

open RegisterControl MemoryControl LittleEndian ByteMemory
open Watched

variable {κ : Type}
variable [MemoryControl κ] [Regset κ]
variable {memory : κ → Memory}
variable {debug : κ → Pid → UserHwdebugState}

/-
  The tables and the target after a change of a breakpoint
  that was `bp`, all of whose calls succeeded.
-/
structure Changed
    (memory : κ → Memory)
    (debug : κ → Pid → UserHwdebugState)
    (c : Change)
    (id : Int)
    (bp : Breakpoint)
    (m : BreakpointManager)
    (k : Watched κ)
    (success : Bool)
    (m' : BreakpointManager)
    (k' : Watched κ) : Prop where
  success : success = true
  clean : k.clean = true
  manager : m' = c.tables id bp m
  memory :
    memory k'.world = c.patch bp (memory k.world)
  debug : debug k'.world = c.rearm bp (debug k.world)

variable {m m' : BreakpointManager}
variable {id : Int} {bp : Breakpoint}
variable {k k' : Watched κ}
variable {tid : Pid} {i : Fin 16}

/- Reading a register and switching it. -/
theorem debug_switch
    (hRegisters : RegisterLaws debug)
    {on : Bool}
    {address : BitVec 64}
    {control : BitVec 32}
    {k k₁ k₂ : κ}
    (hGet :
      getDbg tid (.dbg i) k = (some (address, control), k₁))
    (hSet :
      setDbg tid (.dbg i) (address, controlFor on control) k₁ =
        (true, k₂)) :
    debug k₂ = Change.switchSlot on tid i (debug k) := by
  unfold Change.switchSlot
  rw [debug_setDbg hRegisters hSet,
    debug_getDbg hRegisters hGet,
    getDbg_eq_some hRegisters hGet]

/- Setting the flag to what it is changes nothing. -/
theorem setEnabled_self
    (hLookup : m.breakpoints.lookup id = some bp) :
    m.setEnabled id bp bp.enabled = m := by
  have hSame :
      m.breakpoints.insert id bp = m.breakpoints := by
    apply Finmap.ext_lookup
    intro x
    rw [UnorderedMap.lookup_insert]
    split
    next hEq => rw [hEq, hLookup]
    next => rfl
  unfold setEnabled
  rw [hSame]

/- The change that switches a breakpoint on or off. -/
def Change.toggle (on : Bool) : Change :=
  if on then .enable else .disable

theorem Change.tables_toggle
    (on : Bool) :
    (toggle on).tables id bp m = m.setEnabled id bp on := by
  cases on <;> rfl

theorem Change.on_toggle
    (on : Bool) :
    (toggle on).on = on := by
  cases on <;> rfl

theorem Change.acts_toggle
    (on : Bool) :
    (toggle on).acts bp = true ↔ bp.enabled = !on := by
  cases on with
  | true => exact Bool.not_eq_true' bp.enabled ▸ Iff.rfl
  | false => exact Iff.rfl

/- A change of the word at a breakpoint. -/
theorem Changed.of_write
    (hMemory : MemoryLaws memory)
    (hRegisters : RegisterLaws debug)
    {c : Change}
    (hAligned : bp.address &&& 0x3 = 0)
    (hType : bp.type = .software)
    (hActs : c.acts bp = true)
    (hManager : m' = c.tables id bp m)
    (hWrite :
      writeMemory bp.tid bp.address
        (encode 4 (instructionFor c.on bp)) k = (true, k'))
    (hClean : k'.clean = true) :
    Changed memory debug c id bp m k true m' k' where
  success := rfl
  clean := (clean_of_writeMemory hWrite hClean).1
  manager := hManager
  memory := by
    unfold Change.patch
    rw [if_pos ⟨hType, hActs⟩]
    exact ((memoryLaws hMemory).write_true
      (aligned_iff.mp hAligned) (length_encode 4 _) hWrite).2
  debug := by
    unfold Change.rearm
    rw [if_neg fun hBoth => hBoth.1 hType]
    exact (registerLaws hRegisters).writeMemory hWrite

/- A change of the register of a breakpoint. -/
theorem Changed.of_switch
    (hMemory : MemoryLaws memory)
    (hRegisters : RegisterLaws debug)
    {c : Change}
    {address : BitVec 64}
    {control : BitVec 32}
    {k₁ : Watched κ}
    (hSlot : bp.hardwareRegister = .dbg i)
    (hType : bp.type ≠ .software)
    (hActs : c.acts bp = true)
    (hManager : m' = c.tables id bp m)
    (hGet :
      getDbg bp.tid bp.hardwareRegister k =
        (some (address, control), k₁))
    (hSet :
      setDbg bp.tid bp.hardwareRegister
        (address, controlFor c.on control) k₁ = (true, k'))
    (hClean : k'.clean = true) :
    Changed memory debug c id bp m k true m' k' := by
  have hRead :=
    (RegisterCalls.of_getDbg hGet).memory_eq
      (memoryLaws hMemory)
  have hStored :=
    (RegisterCalls.of_setDbg hSet).memory_eq
      (memoryLaws hMemory)
  rw [hSlot] at hGet hSet
  have hClean₁ := (clean_of_setDbg hSet hClean).1
  constructor
  case success => rfl
  case clean => exact (clean_of_getDbg hGet hClean₁).1
  case manager => exact hManager
  case memory =>
    unfold Change.patch
    rw [if_neg fun hBoth => hType hBoth.1]
    exact hStored.trans hRead
  case debug =>
    unfold Change.rearm
    rw [if_pos ⟨hType, hActs⟩, hSlot]
    exact debug_switch (registerLaws hRegisters) hGet hSet

theorem ToggleExit.changed
    {on success : Bool}
    (hMemory : MemoryLaws memory)
    (hRegisters : RegisterLaws debug)
    (hTables : Consistent m)
    (hPools : SoundPools m)
    (hLookup : m.breakpoints.lookup id = some bp)
    (hClean : k'.clean = true)
    (hExit : ToggleExit on id m k success m' k') :
    Changed memory debug (.toggle on) id bp m k success m'
      k' := by
  have hAligned := (hTables.entry id bp hLookup).aligned
  have hSame {found : Breakpoint}
      (hFound : m.breakpoints.lookup id = some found) :
      found = bp :=
    Option.some.inj (hFound.symm.trans hLookup)
  have hSlot (hType : bp.type ≠ .software) :=
    hPools.slot hLookup hType
  cases hExit with
  | absent hNone =>
      rw [hLookup] at hNone
      cases hNone
  | already hFound hEnabled =>
      cases hSame hFound
      have hIdle : (Change.toggle on).acts bp ≠ true := by
        rw [Ne, Change.acts_toggle, hEnabled]
        exact (Bool.not_ne_self on).symm
      constructor
      case success => rfl
      case clean => exact hClean
      case manager =>
        rw [Change.tables_toggle, ← hEnabled,
          setEnabled_self hLookup]
      case memory =>
        unfold Change.patch
        rw [if_neg fun hBoth => hIdle hBoth.2]
      case debug =>
        unfold Change.rearm
        rw [if_neg fun hBoth => hIdle hBoth.2]
  | writeFailed _ _ hWrite =>
      cases (clean_of_writeMemory hWrite hClean).2
  | patched hFound hEnabled hType hWrite =>
      cases hSame hFound
      rw [← Change.on_toggle on] at hWrite
      exact .of_write hMemory hRegisters hAligned hType
        ((Change.acts_toggle on).mpr hEnabled)
        (Change.tables_toggle on).symm hWrite hClean
  | getFailed hFound hType hGet =>
      cases hSame hFound
      rcases hSlot hType with ⟨i, hRegister⟩
      rw [hRegister] at hGet
      cases (clean_of_getDbg hGet hClean).2
  | setFailed hFound hType _ hSet =>
      cases hSame hFound
      rcases hSlot hType with ⟨i, hRegister⟩
      rw [hRegister] at hSet
      cases (clean_of_setDbg hSet hClean).2
  | switched hFound hEnabled hType hGet hSet =>
      cases hSame hFound
      rcases hSlot hType with ⟨i, hRegister⟩
      rw [← Change.on_toggle on] at hSet
      exact .of_switch hMemory hRegisters hRegister hType
        ((Change.acts_toggle on).mpr hEnabled)
        (Change.tables_toggle on).symm hGet hSet hClean
  | flagged hFound _ hType hRegister =>
      cases hSame hFound
      rcases hSlot hType with ⟨i, hSlot⟩
      rw [hSlot] at hRegister
      cases hRegister

theorem RemoveExit.changed
    {success : Bool}
    (hMemory : MemoryLaws memory)
    (hRegisters : RegisterLaws debug)
    (hTables : Consistent m)
    (hPools : SoundPools m)
    (hLookup : m.breakpoints.lookup id = some bp)
    (hClean : k'.clean = true)
    (hExit : RemoveExit id m k success m' k') :
    Changed memory debug .remove id bp m k success m' k' := by
  have hAligned := (hTables.entry id bp hLookup).aligned
  have hSame {found : Breakpoint}
      (hFound : m.breakpoints.lookup id = some found) :
      found = bp :=
    Option.some.inj (hFound.symm.trans hLookup)
  cases hExit with
  | absent hNone =>
      rw [hLookup] at hNone
      cases hNone
  | writeFailed _ _ hWrite =>
      cases (clean_of_writeMemory hWrite hClean).2
  | restored hFound hType hWrite =>
      cases hSame hFound
      exact .of_write hMemory hRegisters hAligned hType rfl
        (if_pos hType).symm hWrite hClean
  | released hFound hType hRegister =>
      cases hSame hFound
      rcases hPools.slot hLookup hType with ⟨i, hSlot⟩
      unfold disarm at hClean ⊢
      rcases hGet : getDbg bp.tid bp.hardwareRegister k with
        ⟨_ | ⟨address, control⟩, k₁⟩
      · rw [hGet] at hClean
        rw [hSlot] at hGet
        cases (clean_of_getDbg hGet hClean).2
      rw [hGet] at hClean
      dsimp only at hClean ⊢
      rcases hSet :
        setDbg bp.tid bp.hardwareRegister
          (address, withoutEnable control) k₁ with
        ⟨_ | _, k₂⟩
      · rw [hSet] at hClean
        rw [hSlot] at hSet
        cases (clean_of_setDbg hSet hClean).2
      rw [hSet] at hClean
      exact .of_switch hMemory hRegisters hSlot hType rfl
        (if_neg hType).symm hGet hSet hClean
  | dropped hFound hType hRegister =>
      cases hSame hFound
      rcases hPools.slot hLookup hType with ⟨i, hSlot⟩
      rw [hSlot] at hRegister
      cases hRegister

end BreakpointManager

end AnDbg

------------------------------------------------------------
-- Independence
------------------------------------------------------------

namespace AnDbg

namespace BreakpointManager

open Run

variable {κ : Type}
variable [MemoryControl κ] [Regset κ]
variable [HashOrder κ DBRegister]
variable {memory : κ → Memory}
variable {debug : κ → Pid → UserHwdebugState}
variable {id : Int} {bp : Breakpoint}

/- What a change of a live breakpoint does. -/
theorem Change.effect
    {s : Session (Watched κ)}
    (hMemory : MemoryLaws memory)
    (hRegisters : RegisterLaws debug)
    (c : Change)
    (hSound : Sound s)
    (hLookup : s.manager.breakpoints.lookup id = some bp)
    (hClean : (step (c.op id) s).world.clean = true) :
    Changed memory debug c id bp s.manager s.world
      (!(exec (c.op id) s).result.isFailure)
      (step (c.op id) s).manager
      (step (c.op id) s).world := by
  have hSuccess (status : Status) :
      status.isSuccess = !(Answer.status status).isFailure := by
    change _ = !status.isFail
    rw [Status.isFail_eq_not_isSuccess, Bool.not_not]
  cases c with
  | enable =>
      have hExit := enable_exit id s.manager s.world
      rw [hSuccess] at hExit
      exact hExit.changed hMemory hRegisters hSound.tables
        hSound.pools hLookup hClean
  | disable =>
      have hExit := disable_exit id s.manager s.world
      rw [hSuccess] at hExit
      exact hExit.changed hMemory hRegisters hSound.tables
        hSound.pools hLookup hClean
  | remove =>
      have hExit := removeBreakpoint_exit id s.manager s.world
      rw [hSuccess] at hExit
      exact hExit.changed hMemory hRegisters hSound.tables
        hSound.pools hLookup hClean

/- Two changes one after the other, all calls succeeding. -/
theorem Change.effect_twice
    {s : Session (Watched κ)}
    {id' : Int}
    {bp' : Breakpoint}
    (hMemory : MemoryLaws memory)
    (hRegisters : RegisterLaws debug)
    (c c' : Change)
    (hNe : id ≠ id')
    (hSound : Sound s)
    (hLookup : s.manager.breakpoints.lookup id = some bp)
    (hLookup' : s.manager.breakpoints.lookup id' = some bp')
    (hClean :
      (run step [c.op id, c'.op id'] s).world.clean = true) :
    let s₁ := step (c.op id) s
    let s₂ := step (c'.op id') s₁
    s₂.manager = c'.tables id' bp' (c.tables id bp s.manager) ∧
      memory s₂.world.world =
        c'.patch bp' (c.patch bp (memory s.world.world)) ∧
      debug s₂.world.world =
        c'.rearm bp' (c.rearm bp (debug s.world.world)) ∧
      (exec (c.op id) s).result.isFailure = false ∧
      (exec (c'.op id') s₁).result.isFailure = false := by
  intro s₁ s₂
  have hSound₁ : Sound s₁ := step_sound s (c.op id) hSound
  have hClean₁ : s₁.world.clean = true :=
    clean_of_step hSound₁.tables hClean
  have hFirst :=
    c.effect hMemory hRegisters hSound hLookup hClean₁
  -- the first change does not touch the other entry
  have hFound :
      s₁.manager.breakpoints.lookup id' = some bp' := by
    rw [hFirst.manager, lookup_tables hNe.symm, hLookup']
  have hSecond :=
    c'.effect hMemory hRegisters hSound₁ hFound hClean
  refine ⟨?_, ?_, ?_, ?_, ?_⟩
  · rw [hSecond.manager, hFirst.manager]
  · rw [hSecond.memory, hFirst.memory]
  · rw [hSecond.debug, hFirst.debug]
  · exact (Bool.not_eq_true' _).mp hFirst.success
  · exact (Bool.not_eq_true' _).mp hSecond.success

/-
  In every reachable state, changes of two different live
  breakpoints whose calls all succeed have the same outcome
  and leave the same state in either order.
-/
theorem changes_independent
    (hMemory : MemoryLaws memory)
    (hRegisters : RegisterLaws debug)
    (ops : List Op)
    (k : κ)
    (f g : Change)
    (i j : Int) :
    let s := run step ops (Session.start k)
    i ≠ j →
    i ∈ s.manager.breakpoints →
    j ∈ s.manager.breakpoints →
    CallsSucceed [f.op i, g.op j] s →
    CallsSucceed [g.op j, f.op i] s →
    let fg := run step [f.op i, g.op j] s
    let gf := run step [g.op j, f.op i] s
    (fg.manager = gf.manager ∧
        memory fg.world = memory gf.world ∧
        debug fg.world = debug gf.world) ∧
      (exec (f.op i) s).result.isFailure =
        (exec (f.op i) (step (g.op j) s)).result.isFailure ∧
      (exec (g.op j) s).result.isFailure =
        (exec (g.op j) (step (f.op i) s)).result.isFailure := by
  intro s hNe hLive hLive' hFirst hSecond fg gf
  have hSound : Sound s := sound_run ops k
  have hWatched : Sound s.watched := ⟨hSound.tables, hSound.pools⟩
  rcases Finmap.mem_iff.mp hLive with ⟨bp, hLookup⟩
  rcases Finmap.mem_iff.mp hLive' with ⟨bp', hLookup'⟩
  have hThere :=
    Change.effect_twice hMemory hRegisters f g hNe hWatched
      hLookup hLookup' hFirst
  have hBack :=
    Change.effect_twice hMemory hRegisters g f hNe.symm hWatched
      hLookup' hLookup hSecond
  rcases hThere with
    ⟨hManager, hMem, hDebug, hSucceeds, hSucceeds'⟩
  rcases hBack with
    ⟨hManager', hMem', hDebug', hSucceeds₁, hSucceeds₁'⟩
  have hRun : (run step [f.op i, g.op j] s.watched).unwatched =
      fg := run_watched _ s.watched
  have hRun' : (run step [g.op j, f.op i] s.watched).unwatched =
      gf := run_watched _ s.watched
  have hResult (op : Op) (t : Session (Watched κ)) :
      (exec op t.unwatched).result = (exec op t).result :=
    (congrArg Outcome.result (exec_watched op t)).symm
  have hFirstStep (op : Op) :
      (step op s.watched).unwatched = step op s :=
    step_watched op s.watched
  refine ⟨?_, ?_, ?_⟩
  · rw [← hRun, ← hRun']
    refine ⟨?_, ?_, ?_⟩
    · exact hManager.trans
        ((Change.tables_comm hNe.symm g f bp' bp
          s.manager).trans hManager'.symm)
    · exact hMem.trans
        ((Change.patch_comm hSound.tables hNe.symm hLookup'
          hLookup g f _).trans hMem'.symm)
    · exact hDebug.trans
        ((Change.rearm_comm hSound.pools hNe.symm hLookup'
          hLookup g f _).trans hDebug'.symm)
  · have hAlone := hResult (f.op i) s.watched
    have hAfter := hResult (f.op i) (step (g.op j) s.watched)
    rw [hFirstStep] at hAfter
    rw [hAfter, hSucceeds₁']
    exact (congrArg Answer.isFailure hAlone).trans hSucceeds
  · have hAlone := hResult (g.op j) s.watched
    have hAfter := hResult (g.op j) (step (f.op i) s.watched)
    rw [hFirstStep] at hAfter
    rw [hAfter, hSucceeds']
    exact (congrArg Answer.isFailure hAlone).trans hSucceeds₁

/-
  A software breakpoint is disabled and a hardware one of
  the same thread is removed.
-/
theorem changes_independent_disable_remove :
    let ops :=
      [.setSoftwareBreakpoint 7 0x1000,
        .initHardwareRegister 7,
        .setHardwareBreakpoint 7 0x2000 .hardwareExecution]
    let s : Session SimulatedTarget :=
      run step ops (Session.start (SimulatedTarget.fresh []))
    let fg := run step [.disable 1, .removeBreakpoint 2] s
    let gf := run step [.removeBreakpoint 2, .disable 1] s
    (fg.manager = gf.manager ∧
        fg.world.memory = gf.world.memory ∧
        fg.world.debugRegisters = gf.world.debugRegisters) ∧
      (exec (.disable 1) s).result.isFailure =
        (exec (.disable 1)
          (step (.removeBreakpoint 2) s)).result.isFailure ∧
      (exec (.removeBreakpoint 2) s).result.isFailure =
        (exec (.removeBreakpoint 2)
          (step (.disable 1) s)).result.isFailure :=
  changes_independent SimulatedTarget.memoryLaws
    SimulatedTarget.registerLaws
    [.setSoftwareBreakpoint 7 0x1000,
      .initHardwareRegister 7,
      .setHardwareBreakpoint 7 0x2000 .hardwareExecution]
    (SimulatedTarget.fresh []) .disable .remove 1 2
    (by decide) (by decide +kernel) (by decide +kernel)
    (by unfold CallsSucceed; decide +kernel)
    (by unfold CallsSucceed; decide +kernel)

end BreakpointManager

end AnDbg
