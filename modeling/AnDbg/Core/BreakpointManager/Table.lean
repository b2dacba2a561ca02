import AnDbg.Core.BreakpointManager.Exits
import AnDbg.Lib.Run

/-
  The tables of the breakpoint manager mirror each other in
  every reachable state.

  What an operation can do to the tables is one of five
  things, whatever the world answers; each of them keeps the
  tables consistent, and the ids that a run gives out are
  never given out again.

  Main declarations:
    * `AnDbg.BreakpointManager.Consistent`
    * `AnDbg.BreakpointManager.TableStep` and `step_tables`
    * `AnDbg.BreakpointManager.consistent_run`
    * `AnDbg.BreakpointManager.issued` and `nodup_issued`
    * `AnDbg.BreakpointManager.getBreakpointsOf_eq_filter`
-/

------------------------------------------------------------
-- Consistent Tables
------------------------------------------------------------

namespace AnDbg

namespace BreakpointManager

open UnorderedMap

/- An entry of the table of breakpoints. -/
structure Entry
    (next : Int)
    (id : Int)
    (bp : Breakpoint) : Prop where
  keyed : bp.id = id
  pos : 0 < id
  lt : id < next
  tidPos : 1 ≤ bp.tid
  aligned : bp.address &&& 0x3 = 0

/-
  The live breakpoints are at distinct addresses, and the
  index of the threads consists of their ids.
-/
structure Consistent (m : BreakpointManager) : Prop where
  nextPos : 0 < m.nextBreakpointId
  entry :
    ∀ id bp, m.breakpoints.lookup id = some bp →
      Entry m.nextBreakpointId id bp
  distinct :
    ∀ id bp id' bp', m.breakpoints.lookup id = some bp →
      m.breakpoints.lookup id' = some bp' →
      bp.address = bp'.address → id = id'
  indexed :
    ∀ tid id, id ∈ index tid m.tidBreakpointsMap ↔
      ∃ bp, m.breakpoints.lookup id = some bp ∧ bp.tid = tid
  inhabited :
    ∀ tid ids, m.tidBreakpointsMap.lookup tid = some ids →
      ids.Nonempty

theorem consistent_init : Consistent init where
  nextPos := by decide
  entry id bp hLookup := by simp [init] at hLookup
  distinct id bp id' bp' hLookup := by simp [init] at hLookup
  indexed tid id := by
    have hNone : index tid init.tidBreakpointsMap = ∅ :=
      index_of_notMem Finmap.notMem_empty
    rw [hNone]
    simp [init]
  inhabited tid ids hLookup := by simp [init] at hLookup

/- The next id is not taken. -/
theorem Consistent.fresh
    {m : BreakpointManager}
    (hTables : Consistent m) :
    m.nextBreakpointId ∉ m.breakpoints := by
  intro hMem
  rcases Finmap.mem_iff.mp hMem with ⟨bp, hLookup⟩
  exact lt_irrefl _ (hTables.entry _ _ hLookup).lt

theorem Entry.mono
    {next next' id : Int}
    {bp : Breakpoint}
    (hEntry : Entry next id bp)
    (hLe : next ≤ next') :
    Entry next' id bp :=
  { hEntry with lt := lt_of_lt_of_le hEntry.lt hLe }

end BreakpointManager

end AnDbg

------------------------------------------------------------
-- Updates Keep The Tables Consistent
------------------------------------------------------------

namespace AnDbg

namespace BreakpointManager

open UnorderedMap

/- Two managers agree on all that `Consistent` speaks of. -/
structure SameTables (m m' : BreakpointManager) : Prop where
  breakpoints : m'.breakpoints = m.breakpoints
  tidBreakpointsMap :
    m'.tidBreakpointsMap = m.tidBreakpointsMap
  nextBreakpointId : m'.nextBreakpointId = m.nextBreakpointId

variable {m m' : BreakpointManager}
variable {id : Int} {bp : Breakpoint}

theorem SameTables.refl
    (m : BreakpointManager) :
    SameTables m m :=
  ⟨rfl, rfl, rfl⟩

theorem SameTables.of_init
    {κ : Type}
    [Regset κ]
    {tid : Pid}
    {success : Bool}
    {k k' : κ}
    (hExit : InitExit tid m k success m' k') :
    SameTables m m' :=
  ⟨hExit.breakpoints_eq, hExit.tidBreakpointsMap_eq,
    hExit.nextBreakpointId_eq⟩

theorem SameTables.enter
    (hSame : SameTables m m')
    (bp : Breakpoint) :
    SameTables (m.enter bp) (m'.enter bp) := by
  rcases hSame with ⟨hBreakpoints, hIndex, hNext⟩
  constructor
  · simp only [BreakpointManager.enter, hBreakpoints]
  · simp only [BreakpointManager.enter, hIndex]
  · simp only [BreakpointManager.enter, hNext]

/- Neither looking at a pool nor taking from it matters. -/
theorem SameTables.takeRegister
    {κ : Type}
    [Regset κ]
    {tid : Pid}
    {success : Bool}
    {k k' : κ}
    (hExit : InitExit tid (m.touchFree tid) k success m' k')
    (reg : DBRegister) :
    SameTables m (m'.takeRegister tid reg) :=
  ⟨hExit.breakpoints_eq, hExit.tidBreakpointsMap_eq,
    hExit.nextBreakpointId_eq⟩

theorem Consistent.of_same
    (hTables : Consistent m)
    (hSame : SameTables m m') :
    Consistent m' := by
  rcases hSame with ⟨hBreakpoints, hIndex, hNext⟩
  constructor
  · rw [hNext]
    exact hTables.nextPos
  · rw [hBreakpoints, hNext]
    exact hTables.entry
  · rw [hBreakpoints]
    exact hTables.distinct
  · rw [hBreakpoints, hIndex]
    exact hTables.indexed
  · rw [hIndex]
    exact hTables.inhabited

theorem Consistent.skipId
    (hTables : Consistent m) :
    Consistent m.skipId :=
  { hTables with
    nextPos := Int.add_pos hTables.nextPos Int.one_pos
    entry := fun id bp hLookup =>
      (hTables.entry id bp hLookup).mono
        (Int.le_add_one (le_refl _)) }

theorem lookup_enter
    (bp : Breakpoint)
    (id : Int) :
    (m.enter bp).breakpoints.lookup id =
      if id = bp.id then some bp else m.breakpoints.lookup id :=
  lookup_insert m.breakpoints bp.id bp id

/- A lookup finds the breakpoint just entered or an old one. -/
theorem lookup_enter_cases
    {found : Breakpoint}
    (hLookup :
      (m.enter bp).breakpoints.lookup id = some found) :
    (id = bp.id ∧ found = bp) ∨
      (id ≠ bp.id ∧
        m.breakpoints.lookup id = some found) := by
  rw [lookup_enter] at hLookup
  split at hLookup
  next hEq => exact .inl ⟨hEq, (Option.some.inj hLookup).symm⟩
  next hNe => exact .inr ⟨hNe, hLookup⟩

/- The breakpoints that were there stay under their ids. -/
theorem lookup_enter_of_fresh
    {found : Breakpoint}
    (hFresh : bp.id ∉ m.breakpoints)
    (hLookup : m.breakpoints.lookup id = some found) :
    (m.enter bp).breakpoints.lookup id = some found := by
  rw [lookup_enter, if_neg, hLookup]
  rintro rfl
  exact hFresh (Finmap.mem_of_lookup_eq_some hLookup)

/- Entering a breakpoint under the next id. -/
theorem Consistent.enter
    (hTables : Consistent m)
    (hId : bp.id = m.nextBreakpointId)
    (hTid : 1 ≤ bp.tid)
    (hAligned : bp.address &&& 0x3 = 0)
    (hUnique :
      m.checkDuplicateBreakpoint bp.address = false) :
    Consistent (m.enter bp) := by
  have hOther :=
    checkDuplicateBreakpoint_eq_false_iff.mp hUnique
  have hNextPos := hTables.nextPos
  constructor
  case nextPos => exact Int.add_pos hNextPos Int.one_pos
  case entry =>
    intro id found hLookup
    rcases lookup_enter_cases hLookup with
      ⟨rfl, rfl⟩ | ⟨_, hOld⟩
    · have hLt : found.id < m.nextBreakpointId + 1 := by
        omega
      exact ⟨rfl, hId ▸ hNextPos, hLt, hTid, hAligned⟩
    · exact (hTables.entry id found hOld).mono
        (Int.le_add_one (le_refl _))
  case distinct =>
    intro id found id' found' hLookup hLookup' hEq
    rcases lookup_enter_cases hLookup with
      ⟨rfl, rfl⟩ | ⟨_, hOld⟩ <;>
    rcases lookup_enter_cases hLookup' with
      ⟨rfl, rfl⟩ | ⟨_, hOld'⟩
    · rfl
    · exact absurd hEq.symm (hOther id' found' hOld')
    · exact absurd hEq (hOther id found hOld)
    · exact hTables.distinct id found id' found' hOld hOld' hEq
  case indexed =>
    intro tid id
    have hIndex :
        index tid (m.enter bp).tidBreakpointsMap =
          if tid = bp.tid then
            insert bp.id (index bp.tid m.tidBreakpointsMap)
          else index tid m.tidBreakpointsMap :=
      index_update m.tidBreakpointsMap bp.tid _ tid
    rw [hIndex, lookup_enter]
    by_cases hKey : id = bp.id
    · have hAbsent (tid : Pid) :
          id ∉ index tid m.tidBreakpointsMap := by
        rw [hTables.indexed, hKey, hId,
          Finmap.lookup_eq_none.mpr hTables.fresh]
        simp
      by_cases hTidEq : tid = bp.tid
      · simp [hKey, hTidEq]
      · simp [hKey, hTidEq, hKey ▸ hAbsent tid, Ne.symm hTidEq]
    · by_cases hTidEq : tid = bp.tid
      · simp [hKey, hTidEq, hTables.indexed]
      · simp [hKey, hTidEq, hTables.indexed]
  case inhabited =>
    intro tid ids hLookup
    have hMap :
        (m.enter bp).tidBreakpointsMap.lookup tid =
          if tid = bp.tid then
            some (insert bp.id
              (index bp.tid m.tidBreakpointsMap))
          else m.tidBreakpointsMap.lookup tid :=
      lookup_update m.tidBreakpointsMap bp.tid _ tid
    rw [hMap] at hLookup
    split at hLookup
    next =>
      rw [← Option.some.inj hLookup]
      exact Finset.insert_nonempty _ _
    next => exact hTables.inhabited tid ids hLookup

/- A thread whose ids are all gone leaves the index. -/
theorem index_eraseBreakpoint
    (id : Int)
    (bp : Breakpoint)
    (tid : Pid) :
    index tid (m.eraseBreakpoint id bp).tidBreakpointsMap =
      if tid = bp.tid then
        (index bp.tid m.tidBreakpointsMap).erase bp.id
      else index tid m.tidBreakpointsMap := by
  have hUpdate :=
    index_update m.tidBreakpointsMap bp.tid
      (fun ids => ids.erase bp.id)
  rw [eraseBreakpoint]
  dsimp only
  split
  next hEmpty =>
    rw [index_erase]
    split
    next =>
      rw [hUpdate, if_pos rfl] at hEmpty
      exact hEmpty.symm
    next hNe => rw [hUpdate, if_neg hNe]
  next => exact hUpdate tid

theorem lookup_eraseBreakpoint
    (id : Int)
    (bp : Breakpoint)
    (id' : Int) :
    (m.eraseBreakpoint id bp).breakpoints.lookup id' =
      if id' = id then none else m.breakpoints.lookup id' :=
  lookup_erase m.breakpoints id id'

/- Erasing a live breakpoint. -/
theorem Consistent.erase
    (hTables : Consistent m)
    (hLookup : m.breakpoints.lookup id = some bp) :
    Consistent (m.eraseBreakpoint id bp) := by
  have hKeyed : bp.id = id := (hTables.entry id bp hLookup).keyed
  have hOld :
      ∀ id' found,
        (m.eraseBreakpoint id bp).breakpoints.lookup id' =
          some found →
        id' ≠ id ∧ m.breakpoints.lookup id' = some found := by
    intro id' found hFound
    rw [lookup_eraseBreakpoint] at hFound
    split at hFound
    next => cases hFound
    next hNe => exact ⟨hNe, hFound⟩
  constructor
  case nextPos => exact hTables.nextPos
  case entry =>
    intro id' found hFound
    exact hTables.entry id' found (hOld id' found hFound).2
  case distinct =>
    intro id₁ bp₁ id₂ bp₂ h₁ h₂ hEq
    exact hTables.distinct id₁ bp₁ id₂ bp₂ (hOld id₁ bp₁ h₁).2
      (hOld id₂ bp₂ h₂).2 hEq
  case indexed =>
    intro tid id'
    rw [index_eraseBreakpoint, lookup_eraseBreakpoint]
    by_cases hKey : id' = id
    · have hGone :
          id ∈ index tid m.tidBreakpointsMap → tid = bp.tid := by
        rw [hTables.indexed, hLookup]
        rintro ⟨found, hFound, hTid⟩
        rw [← hTid, Option.some.inj hFound]
      by_cases hTid : tid = bp.tid
      · simp [hKey, hTid, hKeyed]
      · simp [hKey, hTid, mt hGone hTid]
    · by_cases hTid : tid = bp.tid
      · simp [hKey, hTid, hKeyed, hTables.indexed]
      · simp [hKey, hTid, hTables.indexed]
  case inhabited =>
    intro tid ids hIds
    rw [eraseBreakpoint] at hIds
    dsimp only at hIds
    split at hIds
    next =>
      rw [lookup_erase] at hIds
      split at hIds
      next => cases hIds
      next hNe =>
        rw [lookup_update, if_neg hNe] at hIds
        exact hTables.inhabited tid ids hIds
    next hLeft =>
      rw [lookup_update] at hIds
      split at hIds
      next =>
        rw [index_update, if_pos rfl] at hLeft
        rw [← Option.some.inj hIds]
        exact Finset.nonempty_iff_ne_empty.mpr hLeft
      next => exact hTables.inhabited tid ids hIds

theorem lookup_setEnabled
    (id : Int)
    (bp : Breakpoint)
    (on : Bool)
    (id' : Int) :
    (m.setEnabled id bp on).breakpoints.lookup id' =
      if id' = id then some { bp with enabled := on }
      else m.breakpoints.lookup id' :=
  lookup_insert m.breakpoints id _ id'

/- Setting the flag changes nothing else of a breakpoint. -/
theorem lookup_setEnabled_cases
    {on : Bool}
    {id' : Int}
    {found : Breakpoint}
    (hLookup : m.breakpoints.lookup id = some bp)
    (hFound :
      (m.setEnabled id bp on).breakpoints.lookup id' =
        some found) :
    ∃ old, m.breakpoints.lookup id' = some old ∧
      found =
        { old with
          enabled := if id' = id then on else old.enabled } := by
  rw [lookup_setEnabled] at hFound
  split at hFound
  next hEq =>
    refine ⟨bp, hEq ▸ hLookup, ?_⟩
    rw [if_pos hEq, ← Option.some.inj hFound]
  next hNe =>
    refine ⟨found, hFound, ?_⟩
    rw [if_neg hNe]

/- Setting the flag of a live breakpoint. -/
theorem Consistent.setEnabled
    {on : Bool}
    (hTables : Consistent m)
    (hLookup : m.breakpoints.lookup id = some bp) :
    Consistent (m.setEnabled id bp on) := by
  constructor
  case nextPos => exact hTables.nextPos
  case entry =>
    intro id' found hFound
    rcases lookup_setEnabled_cases hLookup hFound with
      ⟨old, hOld, rfl⟩
    exact { hTables.entry id' old hOld with }
  case distinct =>
    intro id₁ bp₁ id₂ bp₂ h₁ h₂ hEq
    rcases lookup_setEnabled_cases hLookup h₁ with
      ⟨old₁, hOld₁, rfl⟩
    rcases lookup_setEnabled_cases hLookup h₂ with
      ⟨old₂, hOld₂, rfl⟩
    exact hTables.distinct id₁ old₁ id₂ old₂ hOld₁ hOld₂ hEq
  case indexed =>
    intro tid id'
    have hIndex :
        index tid
            (m.setEnabled id bp on).tidBreakpointsMap =
          index tid m.tidBreakpointsMap := rfl
    rw [hIndex, hTables.indexed, lookup_setEnabled]
    split
    next hEq =>
      rw [hEq, hLookup]
      simp
    next => rfl
  case inhabited => exact hTables.inhabited

end BreakpointManager

end AnDbg

------------------------------------------------------------
-- Steps
------------------------------------------------------------

namespace AnDbg

namespace BreakpointManager

/-
  What an operation can do to the tables, and the id that it
  gives out.  An id is skipped only if the world let a call
  for no thread succeed, as `accepts` says.
-/
inductive TableStep
    (accepts : Prop)
    (m : BreakpointManager) :
    Option Int → BreakpointManager → Prop
  | same
      {m' : BreakpointManager}
      (hSame : SameTables m m') :
      TableStep accepts m none m'
  | skipped
      {m' : BreakpointManager}
      (hAccepts : accepts)
      (hSame : SameTables m.skipId m') :
      TableStep accepts m none m'
  | entered
      (bp : Breakpoint)
      {m' : BreakpointManager}
      (hId : bp.id = m.nextBreakpointId)
      (hTid : 1 ≤ bp.tid)
      (hAligned : bp.address &&& 0x3 = 0)
      (hUnique :
        m.checkDuplicateBreakpoint bp.address = false)
      (hSame : SameTables (m.enter bp) m') :
      TableStep accepts m (some bp.id) m'
  | erased
      {id : Int}
      {bp : Breakpoint}
      {m' : BreakpointManager}
      (hLookup : m.breakpoints.lookup id = some bp)
      (hSame : SameTables (m.eraseBreakpoint id bp) m') :
      TableStep accepts m none m'
  | toggled
      {id : Int}
      {bp : Breakpoint}
      {on : Bool}
      {m' : BreakpointManager}
      (hLookup : m.breakpoints.lookup id = some bp)
      (hSame : SameTables (m.setEnabled id bp on) m') :
      TableStep accepts m none m'

theorem TableStep.mono
    {accepts accepts' : Prop}
    {m m' : BreakpointManager}
    {id : Option Int}
    (hStep : TableStep accepts m id m')
    (hImp : accepts → accepts') :
    TableStep accepts' m id m' := by
  cases hStep with
  | same hSame => exact .same hSame
  | skipped hAccepts hSame =>
      exact .skipped (hImp hAccepts) hSame
  | entered bp hId hTid hAligned hUnique hSame =>
      exact .entered bp hId hTid hAligned hUnique hSame
  | erased hLookup hSame => exact .erased hLookup hSame
  | toggled hLookup hSame => exact .toggled hLookup hSame

theorem TableStep.consistent
    {accepts : Prop}
    {m m' : BreakpointManager}
    {id : Option Int}
    (hTables : Consistent m)
    (hStep : TableStep accepts m id m') :
    Consistent m' := by
  cases hStep with
  | same hSame => exact hTables.of_same hSame
  | skipped _ hSame => exact hTables.skipId.of_same hSame
  | entered bp hId hTid hAligned hUnique hSame =>
      exact (hTables.enter hId hTid hAligned hUnique).of_same
        hSame
  | erased hLookup hSame =>
      exact (hTables.erase hLookup).of_same hSame
  | toggled hLookup hSame =>
      exact (hTables.setEnabled hLookup).of_same hSame

/- The id that an answer gives out. -/
def Answer.issuedId : Answer → Option Int
| .id (.ok breakpointId) =>
    if breakpointId = -1 then none else some breakpointId
| .id (.error _) => none
| .count _ => none
| .status _ => none
| .list _ => none
| .entry _ => none
| .entryAt _ => none

variable {m m' : BreakpointManager}

theorem issuedId_next
    (hTables : Consistent m) :
    (Answer.id (.ok m.nextBreakpointId)).issuedId =
      some m.nextBreakpointId := by
  have hNextPos := hTables.nextPos
  rw [Answer.issuedId, if_neg (by omega)]

variable {κ : Type}
variable {tid : Pid} {address : Addr}
variable {k k' : κ}

theorem SetSoftwareExit.tables
    [MemoryControl κ]
    {result : Except StdException Int}
    (hTables : Consistent m)
    (hExit : SetSoftwareExit tid address m k result m' k') :
    TableStep (¬ AccessNeedsTid κ) m
      (Answer.id result).issuedId m' := by
  cases hExit with
  | misaligned => exact .same (.refl m)
  | duplicate => exact .same (.refl m)
  | readFailed => exact .same (.refl m)
  | writeFailed => exact .same (.refl m)
  | refused e hTid _ hRead =>
      refine .skipped (fun hCalls => ?_) (.refl _)
      have hFails := hCalls.readMemory tid address
        (LittleEndian.encode 4 (0 : Word)) k hTid
      rw [hRead] at hFails
      cases hFails
  | created hAligned hUnique hTid =>
      rw [issuedId_next hTables]
      exact .entered (softwareBreakpoint _ _ _ _) rfl hTid
        hAligned hUnique (.refl _)

theorem SetHardwareExit.tables
    [Regset κ]
    {type : BreakpointType}
    {result : Except StdException Int}
    (hTables : Consistent m)
    (hExit :
      SetHardwareExit tid address type m k result m' k') :
    TableStep (¬ RegsetNeedsTid κ) m
      (Answer.id result).issuedId m' := by
  cases hExit with
  | misaligned => exact .same (.refl m)
  | duplicate => exact .same (.refl m)
  | noFree => exact .same ⟨rfl, rfl, rfl⟩
  | initFailed _ hInit =>
      rcases SameTables.of_init hInit with
        ⟨hBreakpoints, hIndex, hNext⟩
      exact .same ⟨hBreakpoints, hIndex, hNext⟩
  | wrongType _ hInit => exact .same (.takeRegister hInit _)
  | setFailed _ hInit =>
      rcases SameTables.of_init hInit with
        ⟨hBreakpoints, hIndex, hNext⟩
      exact .same ⟨hBreakpoints, hIndex, hNext⟩
  | refused e hTid _ hInit hFree hType hSet =>
      rcases SameTables.of_init hInit with
        ⟨hBreakpoints, hIndex, hNext⟩
      refine .skipped (fun hCalls => ?_)
        ⟨hBreakpoints, hIndex, congrArg (· + 1) hNext⟩
      exact Int.not_lt.mpr
        (RegisterControl.one_le_of_setDbg hCalls hSet) hTid
  | created hAligned hUnique hTid _ hInit =>
      rw [issuedId_next hTables]
      exact .entered (hardwareBreakpoint _ _ _ _ _) rfl hTid
        hAligned hUnique ((SameTables.takeRegister hInit _).enter _)

theorem RemoveExit.tables
    [MemoryControl κ]
    [Regset κ]
    {id : Int}
    {success : Bool}
    (hExit : RemoveExit id m k success m' k') :
    TableStep False m none m' := by
  cases hExit with
  | absent => exact .same (.refl m)
  | writeFailed => exact .same (.refl m)
  | restored hLookup => exact .erased hLookup (.refl _)
  | released hLookup =>
      exact .erased hLookup ⟨rfl, rfl, rfl⟩
  | dropped hLookup => exact .erased hLookup (.refl _)

theorem ToggleExit.tables
    [MemoryControl κ]
    [Regset κ]
    {on : Bool}
    {id : Int}
    {success : Bool}
    (hExit : ToggleExit on id m k success m' k') :
    TableStep False m none m' := by
  cases hExit with
  | absent => exact .same (.refl m)
  | already => exact .same (.refl m)
  | writeFailed => exact .same (.refl m)
  | patched hLookup => exact .toggled hLookup (.refl _)
  | getFailed => exact .same (.refl m)
  | setFailed => exact .same (.refl m)
  | switched hLookup => exact .toggled hLookup (.refl _)
  | flagged hLookup => exact .toggled hLookup (.refl _)

/- Every call for a thread id below one fails. -/
def NeedsTid
    (κ : Type)
    [MemoryControl κ]
    [Regset κ] : Prop :=
  AccessNeedsTid κ ∧ RegsetNeedsTid κ

/- Whatever the world answers, an operation is a table step. -/
theorem step_tables
    [MemoryControl κ]
    [Regset κ]
    [HashOrder κ DBRegister]
    (op : Op)
    {s : Session κ}
    (hTables : Consistent s.manager) :
    TableStep (¬ NeedsTid κ) s.manager
      (exec op s).result.issuedId (step op s).manager := by
  cases op with
  | getHardwareRegistersCount tid =>
      have hObject := getHardwareRegistersCount_object tid
        s.manager s.world
      have hInit := SameTables.of_init
        (initHardwareRegister_exit tid s.manager s.world)
      rw [← hObject] at hInit
      exact .same hInit
  | initHardwareRegister tid =>
      exact .same (.of_init
        (initHardwareRegister_exit tid s.manager s.world))
  | setSoftwareBreakpoint tid address =>
      exact (setSoftwareBreakpoint_exit hTables.fresh tid
        address s.world).tables hTables |>.mono
          (mt And.left)
  | setHardwareBreakpoint tid address type =>
      exact (setHardwareBreakpoint_exit hTables.fresh tid
        address type s.world).tables hTables |>.mono
          (mt And.right)
  | removeBreakpoint id =>
      exact (removeBreakpoint_exit id s.manager
        s.world).tables.mono False.elim
  | enable id =>
      exact (enable_exit id s.manager
        s.world).tables.mono False.elim
  | disable id =>
      exact (disable_exit id s.manager
        s.world).tables.mono False.elim
  | getBreakpoints => exact .same (.refl _)
  | getBreakpointsOf tid => exact .same (.refl _)
  | getBreakpoint id => exact .same (.refl _)
  | getBreakpointAt address => exact .same (.refl _)

end BreakpointManager

end AnDbg

------------------------------------------------------------
-- Runs
------------------------------------------------------------

namespace AnDbg

namespace BreakpointManager

open Run

variable {κ : Type}
variable [MemoryControl κ] [Regset κ]
variable [HashOrder κ DBRegister]

theorem step_consistent
    (s : Session κ)
    (op : Op)
    (hTables : Consistent s.manager) :
    Consistent (step op s).manager :=
  (step_tables op hTables).consistent hTables

/- The ids that the operations of a run give out, in order. -/
def issued : List Op → Session κ → List Int
| [], _ => []
| op :: ops, s =>
    (exec op s).result.issuedId.toList ++
      issued ops (step op s)

/- A table step gives out the next id or none at all. -/
theorem TableStep.issued_bounds
    {accepts : Prop}
    {m m' : BreakpointManager}
    {id : Option Int}
    (hStep : TableStep accepts m id m') :
    m.nextBreakpointId ≤ m'.nextBreakpointId ∧
      ∀ i ∈ id,
        i = m.nextBreakpointId ∧
          m'.nextBreakpointId = m.nextBreakpointId + 1 := by
  cases hStep with
  | same hSame => simp [hSame.nextBreakpointId]
  | skipped _ hSame =>
      simp [hSame.nextBreakpointId, BreakpointManager.skipId]
  | entered bp hId _ _ _ hSame =>
      simp [hSame.nextBreakpointId, BreakpointManager.enter, hId]
  | erased _ hSame =>
      simp [hSame.nextBreakpointId, eraseBreakpoint]
  | toggled _ hSame =>
      simp [hSame.nextBreakpointId,
        BreakpointManager.setEnabled]

/- Unless one was skipped, ids are used up as they are given. -/
theorem TableStep.next_eq
    {accepts : Prop}
    {m m' : BreakpointManager}
    {id : Option Int}
    (hStep : TableStep accepts m id m')
    (hChecked : ¬ accepts) :
    m'.nextBreakpointId =
      m.nextBreakpointId + id.toList.length := by
  cases hStep with
  | same hSame => simp [hSame.nextBreakpointId]
  | skipped hAccepts => exact absurd hAccepts hChecked
  | entered _ _ _ _ _ hSame =>
      simp [hSame.nextBreakpointId, BreakpointManager.enter]
  | erased _ hSame =>
      simp [hSame.nextBreakpointId, eraseBreakpoint]
  | toggled _ hSame =>
      simp [hSame.nextBreakpointId,
        BreakpointManager.setEnabled]

/- Ids are given out in increasing order from the next one on. -/
theorem issued_bounds
    (ops : List Op)
    {s : Session κ}
    (hTables : Consistent s.manager) :
    (∀ id ∈ issued ops s, s.manager.nextBreakpointId ≤ id) ∧
      (issued ops s).Nodup := by
  induction ops generalizing s with
  | nil => simp [issued]
  | cons op ops ih =>
      have hStep := step_tables op hTables
      rcases hStep.issued_bounds with ⟨hMono, hNext⟩
      rcases ih (step_consistent s op hTables) with
        ⟨hLater, hNodup⟩
      rw [issued]
      cases hIssued : (exec op s).result.issuedId with
      | none =>
          refine ⟨?_, hNodup⟩
          intro id hMem
          exact hMono.trans (hLater id hMem)
      | some i =>
          rcases hNext i hIssued with ⟨rfl, hSucc⟩
          refine ⟨?_, ?_⟩
          · intro id hMem
            rcases List.mem_cons.mp hMem with rfl | hRest
            · exact le_refl _
            · exact hMono.trans (hLater id hRest)
          · refine List.nodup_cons.mpr ⟨?_, hNodup⟩
            intro hAgain
            have hLe := hLater _ hAgain
            omega

/-
  The counter stands at the number of ids given out: within
  `int` as long as fewer than `2 ^ 31 - 1` are.
-/
theorem nextBreakpointId_run
    (hCalls : NeedsTid κ)
    (ops : List Op)
    {s : Session κ}
    (hTables : Consistent s.manager) :
    (run step ops s).manager.nextBreakpointId =
      s.manager.nextBreakpointId + (issued ops s).length := by
  induction ops generalizing s with
  | nil => simp [issued]
  | cons op ops ih =>
      have hStep := (step_tables op hTables).next_eq
        (not_not.mpr hCalls)
      rw [run_cons, ih (step_consistent s op hTables), hStep,
        issued, List.length_append]
      omega

/- A breakpoint that is live after a step was so or is new. -/
theorem TableStep.mem_breakpoints
    {m m' : BreakpointManager}
    {accepts : Prop}
    {issuedId : Option Int}
    (hStep : TableStep accepts m issuedId m')
    {id : Int}
    (hLive : id ∈ m'.breakpoints) :
    id ∈ m.breakpoints ∨ issuedId = some id := by
  cases hStep with
  | same hSame => exact .inl (hSame.breakpoints ▸ hLive)
  | skipped _ hSame => exact .inl (hSame.breakpoints ▸ hLive)
  | entered bp _ _ _ _ hSame =>
      rw [hSame.breakpoints, BreakpointManager.enter,
        Finmap.mem_insert] at hLive
      rcases hLive with rfl | hOld
      · exact .inr rfl
      · exact .inl hOld
  | erased _ hSame =>
      rw [hSame.breakpoints, eraseBreakpoint,
        Finmap.mem_erase] at hLive
      exact .inl hLive.2
  | toggled hLookup hSame =>
      rw [hSame.breakpoints, BreakpointManager.setEnabled,
        Finmap.mem_insert] at hLive
      rcases hLive with rfl | hOld
      · exact .inl (Finmap.mem_of_lookup_eq_some hLookup)
      · exact .inl hOld

/- A live breakpoint was given its id in the run. -/
theorem mem_issued
    (ops : List Op)
    {s : Session κ}
    (hTables : Consistent s.manager)
    {id : Int}
    (hLive : id ∈ (run step ops s).manager.breakpoints) :
    id ∈ s.manager.breakpoints ∨ id ∈ issued ops s := by
  induction ops generalizing s with
  | nil => exact .inl hLive
  | cons op ops ih =>
      rw [issued]
      rcases ih (step_consistent s op hTables) hLive with
        hHere | hLater
      · rcases (step_tables op hTables).mem_breakpoints hHere
          with hOld | hNew
        · exact .inl hOld
        · rw [hNew]
          exact .inr (List.mem_cons_self)
      · exact .inr (List.mem_append_right _ hLater)

end BreakpointManager

end AnDbg

------------------------------------------------------------
-- The Representation Invariant
------------------------------------------------------------

namespace AnDbg

namespace BreakpointManager

open Run UnorderedMap

variable {m : BreakpointManager}

/- All live breakpoints are listed once. -/
theorem nodup_getBreakpoints
    (hTables : Consistent m) :
    m.getBreakpoints.Nodup :=
  nodup_values Breakpoint.id
    (fun id bp hLookup => (hTables.entry id bp hLookup).keyed)

/- The breakpoints of a thread are the live ones that name it. -/
theorem getBreakpointsOf_eq_filter
    (hTables : Consistent m)
    (tid : Pid) :
    m.getBreakpointsOf tid =
      m.getBreakpoints.filter (fun bp => bp.tid = tid) := by
  have hMem (bp : Breakpoint) :
      bp ∈ m.getBreakpointsOf tid ↔
        ∃ id ∈ index tid m.tidBreakpointsMap,
          m.breakpoints.lookup id = some bp := by
    rw [getBreakpointsOf, index]
    cases m.tidBreakpointsMap.lookup tid with
    | none =>
        change bp ∈ (0 : Multiset Breakpoint) ↔
          ∃ id ∈ (∅ : Finset Int), _
        simp
    | some ids => exact Multiset.mem_filterMap _ ids.val
  have hNodup : (m.getBreakpointsOf tid).Nodup := by
    rw [getBreakpointsOf]
    cases m.tidBreakpointsMap.lookup tid with
    | none => exact Multiset.nodup_zero
    | some ids =>
        apply Multiset.Nodup.filterMap _ _ ids.nodup
        intro id id' bp hFound hFound'
        rw [← (hTables.entry id bp hFound).keyed,
          ← (hTables.entry id' bp hFound').keyed]
  apply (Multiset.Nodup.ext hNodup
    ((nodup_getBreakpoints hTables).filter _)).mpr
  intro bp
  rw [hMem, Multiset.mem_filter, getBreakpoints, mem_values]
  constructor
  · rintro ⟨id, hIndexed, hLookup⟩
    rcases (hTables.indexed tid id).mp hIndexed with
      ⟨found, hFound, hTid⟩
    rw [hLookup] at hFound
    rw [Option.some.inj hFound]
    exact ⟨⟨id, hLookup.trans hFound⟩, hTid⟩
  · rintro ⟨⟨id, hLookup⟩, hTid⟩
    exact ⟨id, (hTables.indexed tid id).mpr ⟨bp, hLookup, hTid⟩,
      hLookup⟩

/-
  In every state that a run of the public operations
  reaches, the tables are consistent, no id was given out
  twice, and the breakpoints of a thread are those among all
  live ones that name it, each once.
-/
theorem representation_invariant
    {κ : Type}
    [MemoryControl κ]
    [Regset κ]
    [HashOrder κ DBRegister]
    (ops : List Op)
    (k : κ) :
    let m := (run step ops (Session.start k)).manager
    Consistent m ∧
      (issued ops (Session.start k)).Nodup ∧
      (∀ id ∈ m.breakpoints,
        id ∈ issued ops (Session.start k)) ∧
      ∀ tid,
        m.getBreakpointsOf tid =
            m.getBreakpoints.filter (fun bp => bp.tid = tid) ∧
          (m.getBreakpointsOf tid).Nodup := by
  have hTables :
      Consistent (run step ops (Session.start k)).manager :=
    run_invariant step_consistent ops consistent_init
  refine ⟨hTables, (issued_bounds ops consistent_init).2, ?_,
    ?_⟩
  · intro id hLive
    rcases mem_issued ops consistent_init hLive with
      hStart | hIssued
    · exact absurd hStart Finmap.notMem_empty
    · exact hIssued
  · intro tid
    have hFilter := getBreakpointsOf_eq_filter hTables tid
    refine ⟨hFilter, ?_⟩
    rw [hFilter]
    exact (nodup_getBreakpoints hTables).filter _

end BreakpointManager

end AnDbg
