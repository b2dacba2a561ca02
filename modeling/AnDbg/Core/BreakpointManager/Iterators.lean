import AnDbg.Core.BreakpointManager.Lookup

/-
  Every read through an iterator or a reference into the
  tables, as a lookup at the moment it is made.

  The operations are written once more with their reads: an
  iterator stands for a key, each use of it looks the key up
  in the table as it is by then, and an operation that uses
  one whose entry is not there has no outcome (`none`).
  Where all reads find their entry, the outcome is the one
  of the operation.

  Main declarations:
    * `AnDbg.BreakpointManager.deref` and `derefAt`
    * `AnDbg.BreakpointManager.checked`
    * `AnDbg.BreakpointManager.ReadsPresent`
    * `AnDbg.BreakpointManager.readsPresent_iff`
-/

------------------------------------------------------------
-- Reads
------------------------------------------------------------

namespace AnDbg

namespace BreakpointManager

open UnorderedMap

/- A read through an iterator into `m_breakpoints_`. -/
def deref
    (breakpointId : Int)
    (m : BreakpointManager) : Option Breakpoint :=
  m.breakpoints.lookup breakpointId

/- A read through one into `m_address_breakpoint_map_`. -/
def derefAt
    (target : Option Addr)
    (m : BreakpointManager) : Option Int :=
  match target with
  -- the iterator is `end()`
  | none => none
  | some address => m.addressBreakpointMap.lookup address

/- `m_address_breakpoint_map_.find(address)`. -/
def findAt
    (address : Addr)
    (m : BreakpointManager) : Option Addr :=
  if address ∈ m.addressBreakpointMap then some address
  else none

/- The values of a walk over `m_breakpoints_`. -/
def walk (m : BreakpointManager) : Option (Multiset Breakpoint) :=
  if ∀ breakpointId ∈ m.breakpoints.keys,
      (deref breakpointId m).isSome = true then
    some (values m.breakpoints)
  else
    none

/- `check_duplicate_breakpoint` with its reads. -/
def checkedDuplicate
    (address : Addr)
    (m : BreakpointManager) : Option Bool := do
  let breakpoints ← walk m
  return decide
    (0 < breakpoints.countP fun bp => bp.address == address)

end BreakpointManager

end AnDbg

------------------------------------------------------------
-- Operations With Their Reads
------------------------------------------------------------

namespace AnDbg

namespace BreakpointManager

open UnorderedMap RegisterControl MemoryControl
open LittleEndian

variable {κ : Type}

/- `set_software_breakpoint` with its reads. -/
def checkedSetSoftware
    [MemoryControl κ]
    (tid : Pid)
    (address : Addr)
    (m : BreakpointManager)
    (k : κ) :
    Option
      (Outcome BreakpointManager κ (Except StdException Int)) :=
  if address &&& 0x3 ≠ 0 then
    some ⟨.error (misaligned address), m, k⟩
  else do
    let duplicate ← checkedDuplicate address m
    if duplicate then
      return ⟨.ok (-1), m, k⟩
    -- what follows reads no entry
    return m.setSoftwareBreakpoint tid address k

/-
  `set_hardware_breakpoint` with its reads; the register is
  filled in through a reference to the entry just made.
-/
def checkedSetHardware
    [Regset κ]
    [HashOrder κ DBRegister]
    (tid : Pid)
    (address : Addr)
    (type : BreakpointType)
    (m : BreakpointManager)
    (k : κ) :
    Option
      (Outcome BreakpointManager κ (Except StdException Int)) :=
  if address &&& 0x3 ≠ 0 then
    some ⟨.error (misaligned address), m, k⟩
  else do
    let duplicate ← checkedDuplicate address m
    if duplicate then
      return ⟨.ok (-1), m, k⟩
    let done := m.setHardwareBreakpoint tid address type k
    match done.result with
    | .error _ => return done
    | .ok id =>
      if id = -1 then
        return done
      else
        let _ ← deref id done.object
        return done

/- `get_breakpoints` of a thread with its reads. -/
def checkedGetBreakpointsOf
    (tid : Pid)
    (m : BreakpointManager) : Option (Multiset Breakpoint) :=
  match m.tidBreakpointsMap.lookup tid with
  | none => some 0
  | some ids =>
    -- an id that is not found is not read
    if ∀ id ∈ ids, id ∈ m.breakpoints →
        (deref id m).isSome = true then
      some (ids.val.filterMap fun id => m.breakpoints.lookup id)
    else
      none

/- `get_breakpoint` by id with its reads. -/
def checkedGetBreakpoint
    (breakpointId : Int)
    (m : BreakpointManager) : Option (Option Breakpoint) :=
  if breakpointId ∈ m.breakpoints then
    (deref breakpointId m).map some
  else
    some none

/- `get_breakpoint` by address with its reads. -/
def checkedGetBreakpointAt
    (address : Addr)
    (m : BreakpointManager) : Option (Option Breakpoint) := do
  let target := findAt address m
  if target = none then
    let breakpointId ← derefAt target m
    checkedGetBreakpoint breakpointId m
  else
    return none

variable [MemoryControl κ] [Regset κ]

/- `remove_breakpoint` with its reads. -/
def checkedRemove
    (breakpointId : Int)
    (m : BreakpointManager)
    (k : κ) : Option (Outcome BreakpointManager κ Status) :=
  if breakpointId ∉ m.breakpoints then
    some ⟨.fail (utf8 "未找到 ID: " ++ dec breakpointId
      ++ utf8 " 的断点"), m, k⟩
  else do
    let breakpoint ← deref breakpointId m
    let done (m : BreakpointManager) (k : κ) :
        Option (Outcome BreakpointManager κ Status) := do
      let breakpoint ← deref breakpointId m
      let m := m.eraseBreakpoint breakpointId breakpoint
      -- the text is made after the entry was erased
      let gone ← deref breakpointId m
      return ⟨.success (removedText breakpointId (some gone)),
        m, k⟩
    if breakpoint.type = .software then
      match writeMemory breakpoint.tid breakpoint.address
          (encode 4 breakpoint.originalInstruction) k with
      | (false, k) =>
        return ⟨.fail (utf8 "恢复软件断点 [ID: "
          ++ dec breakpointId ++ utf8 "] 原指令失败"), m, k⟩
      | (true, k) => done m k
    else if breakpoint.hardwareRegister ≠ .invalid then
      done
        (m.giveRegister breakpoint.tid
          breakpoint.hardwareRegister)
        (disarm breakpoint k)
    else
      done m k

/- What `enable` and `disable` share, with its reads. -/
def checkedToggle
    (on : Bool)
    (texts : ToggleTexts)
    (breakpointId : Int)
    (m : BreakpointManager)
    (k : κ) : Option (Outcome BreakpointManager κ Status) :=
  if breakpointId ∉ m.breakpoints then
    some ⟨.fail texts.absent, m, k⟩
  else do
    let breakpoint ← deref breakpointId m
    let done (k : κ) :
        Option (Outcome BreakpointManager κ Status) := do
      let breakpoint ← deref breakpointId m
      let m := m.setEnabled breakpointId breakpoint on
      let changed ← deref breakpointId m
      return ⟨.success (texts.done changed), m, k⟩
    if breakpoint.enabled = on then
      return ⟨.success texts.already, m, k⟩
    else if breakpoint.type = .software then
      match writeMemory breakpoint.tid breakpoint.address
          (encode 4 (instructionFor on breakpoint)) k with
      | (false, k) => return ⟨.fail texts.writeFailed, m, k⟩
      | (true, k) => done k
    else if breakpoint.hardwareRegister ≠ .invalid then
      match getDbg breakpoint.tid breakpoint.hardwareRegister
          k with
      | (none, k) => return ⟨.fail texts.getFailed, m, k⟩
      | (some (address, control), k) =>
        match setDbg breakpoint.tid breakpoint.hardwareRegister
            (address, controlFor on control) k with
        | (false, k) => return ⟨.fail texts.setFailed, m, k⟩
        | (true, k) => done k
    else
      done k

/- The texts of `enable`. -/
def enableTexts (breakpointId : Int) : ToggleTexts where
  absent :=
    utf8 "启用断点失败: 未找到 ID = " ++ dec breakpointId
      ++ utf8 " 的断点"
  already :=
    utf8 "断点 [ID: " ++ dec breakpointId
      ++ utf8 "] 已处于启用状态, 无需重复操作"
  writeFailed := utf8 "写入断点指令失败"
  getFailed := utf8 "获取调试寄存器失败"
  setFailed := utf8 "更新控制寄存器失败"
  done breakpoint :=
    utf8 "成功启用断点" ++ describe breakpointId breakpoint

/- The texts of `disable`. -/
def disableTexts (breakpointId : Int) : ToggleTexts where
  absent :=
    utf8 "禁用断点失败: 未找到 ID = " ++ dec breakpointId
      ++ utf8 " 的断点"
  already :=
    utf8 "断点 [ID: " ++ dec breakpointId
      ++ utf8 "] 已处于禁用状态, 无需重复操作"
  writeFailed := utf8 "恢复原指令失败"
  getFailed := utf8 "get_dbg 失败"
  setFailed := utf8 "更新控制寄存器失败"
  done breakpoint :=
    utf8 "成功禁用断点" ++ describe breakpointId breakpoint

/- An operation of the manager with its reads. -/
def checked
    [HashOrder κ DBRegister]
    (op : Op)
    (s : Session κ) :
    Option (Outcome BreakpointManager κ Answer) :=
  let answer {α : Type} (wrap : α → Answer)
      (done : Outcome BreakpointManager κ α) :
      Outcome BreakpointManager κ Answer :=
    ⟨wrap done.result, done.object, done.world⟩
  let found {α : Type} (wrap : α → Answer) (value : α) :
      Outcome BreakpointManager κ Answer :=
    ⟨wrap value, s.manager, s.world⟩
  match op with
  -- the probe reads neither of the two tables
  | .getHardwareRegistersCount tid =>
    some (exec (.getHardwareRegistersCount tid) s)
  | .initHardwareRegister tid =>
    some (exec (.initHardwareRegister tid) s)
  | .setSoftwareBreakpoint tid address =>
    (checkedSetSoftware tid address s.manager s.world).map
      (answer .id)
  | .setHardwareBreakpoint tid address type =>
    (checkedSetHardware tid address type s.manager
      s.world).map (answer .id)
  | .removeBreakpoint breakpointId =>
    (checkedRemove breakpointId s.manager s.world).map
      (answer .status)
  | .enable breakpointId =>
    (checkedToggle true (enableTexts breakpointId)
      breakpointId s.manager s.world).map (answer .status)
  | .disable breakpointId =>
    (checkedToggle false (disableTexts breakpointId)
      breakpointId s.manager s.world).map (answer .status)
  | .getBreakpoints => (walk s.manager).map (found .list)
  | .getBreakpointsOf tid =>
    (checkedGetBreakpointsOf tid s.manager).map (found .list)
  | .getBreakpoint breakpointId =>
    (checkedGetBreakpoint breakpointId s.manager).map
      (found .entry)
  | .getBreakpointAt address =>
    (checkedGetBreakpointAt address s.manager).map
      (found fun breakpoint => .entryAt (some breakpoint))

end BreakpointManager

end AnDbg

------------------------------------------------------------
-- Reads That Find Their Entry
------------------------------------------------------------

namespace AnDbg

namespace BreakpointManager

open UnorderedMap RegisterControl MemoryControl
open LittleEndian

variable {κ : Type}
variable {m : BreakpointManager}

/- A walk only comes past entries that are there. -/
theorem walk_eq
    (m : BreakpointManager) :
    walk m = some (values m.breakpoints) := by
  unfold walk
  apply if_pos
  intro id hKey
  exact Finmap.lookup_isSome.mpr (Finmap.mem_keys.mp hKey)

theorem checkedDuplicate_eq
    (address : Addr)
    (m : BreakpointManager) :
    checkedDuplicate address m =
      some (m.checkDuplicateBreakpoint address) := by
  unfold checkedDuplicate
  rw [walk_eq]
  rfl

theorem checkedSetSoftware_eq
    [MemoryControl κ]
    (tid : Pid)
    (address : Addr)
    (m : BreakpointManager)
    (k : κ) :
    checkedSetSoftware tid address m k =
      some (m.setSoftwareBreakpoint tid address k) := by
  unfold checkedSetSoftware
  by_cases hAligned : address &&& 0x3 ≠ 0
  · rw [if_pos hAligned]
    unfold setSoftwareBreakpoint
    rw [if_pos hAligned]
  rw [if_neg hAligned, checkedDuplicate_eq]
  cases hDuplicate : m.checkDuplicateBreakpoint address with
  | true =>
      unfold setSoftwareBreakpoint
      rw [if_neg hAligned, hDuplicate]
      rfl
  | false => rfl

/- A hardware breakpoint that got an id is in the table. -/
theorem SetHardwareExit.entered
    [Regset κ]
    {tid : Pid}
    {address : Addr}
    {type : BreakpointType}
    {id : Int}
    {m' : BreakpointManager}
    {k k' : κ}
    (hExit :
      SetHardwareExit tid address type m k (.ok id) m' k')
    (hId : id ≠ -1) :
    (deref id m').isSome = true := by
  cases hExit with
  | duplicate => exact absurd rfl hId
  | noFree => exact absurd rfl hId
  | initFailed => exact absurd rfl hId
  | wrongType => exact absurd rfl hId
  | setFailed => exact absurd rfl hId
  | created =>
      unfold deref
      rw [lookup_enter]
      exact congrArg Option.isSome (if_pos rfl)

theorem checkedSetHardware_eq
    [Regset κ]
    [HashOrder κ DBRegister]
    (hFresh : m.nextBreakpointId ∉ m.breakpoints)
    (tid : Pid)
    (address : Addr)
    (type : BreakpointType)
    (k : κ) :
    checkedSetHardware tid address type m k =
      some (m.setHardwareBreakpoint tid address type k) := by
  unfold checkedSetHardware
  by_cases hAligned : address &&& 0x3 ≠ 0
  · rw [if_pos hAligned]
    unfold setHardwareBreakpoint
    rw [if_pos hAligned]
  rw [if_neg hAligned, checkedDuplicate_eq]
  cases hDuplicate : m.checkDuplicateBreakpoint address with
  | true =>
      unfold setHardwareBreakpoint
      rw [if_neg hAligned, hDuplicate]
      rfl
  | false =>
      have hExit :=
        setHardwareBreakpoint_exit hFresh tid address type k
      dsimp only [Option.bind_eq_bind, Option.bind_some]
      generalize m.setHardwareBreakpoint tid address type k =
        done at hExit ⊢
      rcases done with ⟨_ | id, m', k'⟩
      · rfl
      by_cases hId : id = -1
      · subst hId
        rfl
      · rcases Option.isSome_iff_exists.mp
          (hExit.entered hId) with ⟨bp, hFound⟩
        simp [hId, hFound]

theorem checkedGetBreakpointsOf_eq
    (tid : Pid)
    (m : BreakpointManager) :
    checkedGetBreakpointsOf tid m =
      some (m.getBreakpointsOf tid) := by
  unfold checkedGetBreakpointsOf getBreakpointsOf
  cases m.tidBreakpointsMap.lookup tid with
  | none => rfl
  | some ids =>
      apply if_pos
      intro id _ hLive
      exact Finmap.lookup_isSome.mpr hLive

theorem checkedGetBreakpoint_eq
    (breakpointId : Int)
    (m : BreakpointManager) :
    checkedGetBreakpoint breakpointId m =
      some (m.getBreakpoint breakpointId) := by
  unfold checkedGetBreakpoint getBreakpoint deref
  by_cases hLive : breakpointId ∈ m.breakpoints
  · rcases Finmap.mem_iff.mp hLive with ⟨bp, hLookup⟩
    rw [if_pos hLive, hLookup]
    rfl
  · rw [if_neg hLive, Finmap.lookup_eq_none.mpr hLive]

/- The lookup by address reads an entry where there is none. -/
theorem checkedGetBreakpointAt_eq
    (address : Addr)
    (m : BreakpointManager) :
    checkedGetBreakpointAt address m =
      m.getBreakpointAt address := by
  unfold checkedGetBreakpointAt getBreakpointAt findAt
  cases hEntry : m.addressBreakpointMap.lookup address with
  | none =>
      rw [if_neg (Finmap.lookup_eq_none.mp hEntry)]
      rfl
  | some id =>
      rw [if_pos (Finmap.mem_of_lookup_eq_some hEntry)]
      rfl

variable [MemoryControl κ] [Regset κ]

theorem enable_eq
    (id : Int)
    (m : BreakpointManager)
    (k : κ) :
    enable id m k = toggle true (enableTexts id) id m k := rfl

theorem disable_eq
    (id : Int)
    (m : BreakpointManager)
    (k : κ) :
    disable id m k = toggle false (disableTexts id) id m k :=
  rfl

/- Switching a breakpoint leaves its entry in the table. -/
theorem checkedToggle_eq
    (on : Bool)
    {texts : ToggleTexts}
    (hDone :
      ∀ bp : Breakpoint,
        texts.done { bp with enabled := on } = texts.done bp)
    (id : Int)
    (m : BreakpointManager)
    (k : κ) :
    checkedToggle on texts id m k =
      some (m.toggle on texts id k) := by
  unfold checkedToggle toggle
  cases hLookup : m.breakpoints.lookup id with
  | none =>
      rw [if_pos (Finmap.lookup_eq_none.mp hLookup)]
  | some bp =>
      have hLive : id ∈ m.breakpoints :=
        Finmap.mem_of_lookup_eq_some hLookup
      have hChanged :
          deref id (m.setEnabled id bp on) =
            some { bp with enabled := on } := by
        unfold deref
        rw [lookup_setEnabled, if_pos rfl]
      have hHere : deref id m = some bp := hLookup
      rw [if_neg (not_not.mpr hLive), hHere]
      simp only [Option.bind_eq_bind, Option.bind_some,
        hChanged, hDone]
      by_cases hAlready : bp.enabled = on
      · rw [if_pos hAlready, if_pos hAlready]
        rfl
      rw [if_neg hAlready, if_neg hAlready]
      by_cases hType : bp.type = .software
      · rw [if_pos hType, if_pos hType]
        rcases writeMemory bp.tid bp.address
          (encode 4 (instructionFor on bp)) k with ⟨_ | _, k₁⟩
        · rfl
        · rfl
      rw [if_neg hType, if_neg hType]
      by_cases hRegister : bp.hardwareRegister ≠ .invalid
      · rw [if_pos hRegister, if_pos hRegister]
        rcases getDbg bp.tid bp.hardwareRegister k with
          ⟨_ | ⟨address, control⟩, k₁⟩
        · rfl
        dsimp only
        rcases setDbg bp.tid bp.hardwareRegister
          (address, controlFor on control) k₁ with ⟨_ | _, k₂⟩
        · rfl
        · rfl
      · rw [if_neg hRegister, if_neg hRegister]
        rfl

/- A removal that goes through reads the entry it erased. -/
theorem checkedRemove_eq
    (id : Int)
    (m : BreakpointManager)
    (k : κ) :
    checkedRemove id m k =
      if (m.removeBreakpoint id k).result.isSuccess then none
      else some (m.removeBreakpoint id k) := by
  unfold checkedRemove removeBreakpoint
  cases hLookup : m.breakpoints.lookup id with
  | none =>
      rw [if_pos (Finmap.lookup_eq_none.mp hLookup)]
      rfl
  | some bp =>
      have hLive : id ∈ m.breakpoints :=
        Finmap.mem_of_lookup_eq_some hLookup
      have hHere : deref id m = some bp := hLookup
      have hGone (m : BreakpointManager) :
          deref id (m.eraseBreakpoint id bp) = none := by
        unfold deref
        rw [lookup_eraseBreakpoint, if_pos rfl]
      have hGiven :
          deref id (m.giveRegister bp.tid
            bp.hardwareRegister) = some bp := hLookup
      rw [if_neg (not_not.mpr hLive), hHere]
      simp only [Option.bind_eq_bind, Option.bind_some, hHere,
        hGiven, hGone, Option.bind_none]
      by_cases hType : bp.type = .software
      · rw [if_pos hType, if_pos hType]
        rcases writeMemory bp.tid bp.address
          (encode 4 bp.originalInstruction) k with ⟨_ | _, k₁⟩
        · rfl
        · rfl
      rw [if_neg hType, if_neg hType]
      by_cases hRegister : bp.hardwareRegister ≠ .invalid
      · rw [if_pos hRegister, if_pos hRegister]
        rfl
      · rw [if_neg hRegister, if_neg hRegister]
        rfl

end BreakpointManager

end AnDbg

------------------------------------------------------------
-- Which Reads Are Safe
------------------------------------------------------------

namespace AnDbg

namespace BreakpointManager

open Run MemoryControl LittleEndian

variable {κ : Type}
variable [MemoryControl κ] [Regset κ]

/- A removal goes through unless its write fails. -/
theorem removeBreakpoint_fails_iff
    (id : Int)
    (m : BreakpointManager)
    (k : κ) :
    (m.removeBreakpoint id k).result.isSuccess = false ↔
      ∀ bp, m.breakpoints.lookup id = some bp →
        bp.type = .software ∧
          (writeMemory bp.tid bp.address
            (encode 4 bp.originalInstruction) k).1 = false := by
  have hExit := removeBreakpoint_exit id m k
  generalize m.removeBreakpoint id k = done at hExit ⊢
  rcases done with ⟨status, m', k'⟩
  dsimp only at hExit ⊢
  generalize status.isSuccess = success at hExit ⊢
  cases hExit with
  | absent hLookup => simp [hLookup]
  | writeFailed hLookup hType hWrite =>
      simp [hLookup, hType, hWrite]
  | restored hLookup _ hWrite => simp [hLookup, hWrite]
  | released hLookup hType => simp [hLookup, hType]
  | dropped hLookup hType => simp [hLookup, hType]

variable [HashOrder κ DBRegister]

/-
  Every read of an operation finds its entry, so that it has
  an outcome; it is the one of the operation.
-/
def ReadsPresent (op : Op) (s : Session κ) : Prop :=
  checked op s = some (exec op s)

/-
  The operation is not a removal that goes through, and not
  a lookup of an address at which nothing was ever set.
-/
def FindsEntries
    (addresses : List Addr)
    (op : Op)
    (s : Session κ) : Prop :=
  match op with
  | .removeBreakpoint id =>
    ∀ bp, s.manager.breakpoints.lookup id = some bp →
      bp.type = .software ∧
        (writeMemory bp.tid bp.address
          (encode 4 bp.originalInstruction) s.world).1 = false
  | .getBreakpointAt address => address ∈ addresses
  | _ => True

/-
  In every reachable state, the reads of an operation all
  find their entries exactly if it is no removal that goes
  through and no lookup of an address that was never set.
-/
theorem readsPresent_iff
    (ops : List Op)
    (k : κ)
    (op : Op) :
    let s := run step ops (Session.start k)
    ReadsPresent op s ↔
      FindsEntries (addressesSet ops (Session.start k)) op
        s := by
  intro s
  have hTables : Consistent s.manager :=
    run_invariant step_consistent ops consistent_init
  unfold ReadsPresent FindsEntries checked
  cases op with
  | getHardwareRegistersCount tid => simp
  | initHardwareRegister tid => simp
  | setSoftwareBreakpoint tid address =>
      dsimp only
      rw [checkedSetSoftware_eq]
      exact iff_true_intro rfl
  | setHardwareBreakpoint tid address type =>
      dsimp only
      rw [checkedSetHardware_eq hTables.fresh]
      exact iff_true_intro rfl
  | removeBreakpoint id =>
      dsimp only
      rw [checkedRemove_eq, ← removeBreakpoint_fails_iff]
      split
      next hSuccess => simp [hSuccess]
      next hFails =>
        rw [Bool.not_eq_true] at hFails
        exact iff_of_true rfl hFails
  | enable id =>
      dsimp only
      rw [checkedToggle_eq true (fun _ => rfl), ← enable_eq]
      exact iff_true_intro rfl
  | disable id =>
      dsimp only
      rw [checkedToggle_eq false (fun _ => rfl), ← disable_eq]
      exact iff_true_intro rfl
  | getBreakpoints =>
      dsimp only
      rw [walk_eq]
      exact iff_true_intro rfl
  | getBreakpointsOf tid =>
      dsimp only
      rw [checkedGetBreakpointsOf_eq]
      exact iff_true_intro rfl
  | getBreakpoint id =>
      dsimp only
      rw [checkedGetBreakpoint_eq]
      exact iff_true_intro rfl
  | getBreakpointAt address =>
      have hIndex :
          address ∈ s.manager.addressBreakpointMap ↔
            address ∈ addressesSet ops (Session.start k) ∨
              address ∈ init.addressBreakpointMap :=
        mem_addressBreakpointMap_run ops consistent_init
          address
      have hStart : address ∉ init.addressBreakpointMap :=
        Finmap.notMem_empty
      rw [or_iff_left hStart] at hIndex
      dsimp only [exec]
      rw [checkedGetBreakpointAt_eq, ← hIndex]
      unfold getBreakpointAt
      cases hEntry :
        s.manager.addressBreakpointMap.lookup address with
      | none =>
          have hAbsent := Finmap.lookup_eq_none.mp hEntry
          simp [hAbsent]
      | some id =>
          have hPresent := Finmap.mem_of_lookup_eq_some hEntry
          simp [hPresent]

/-
  The removal of the one breakpoint reads the entry that it
  has erased, and a lookup in a new manager reads `end()`.
-/
theorem not_readsPresent_removed :
    let start : Session SimulatedTarget :=
      Session.start (.fresh [])
    let s := run step [.setSoftwareBreakpoint 7 0x1000] start
    ¬ ReadsPresent (.removeBreakpoint 1) s ∧
      ¬ ReadsPresent (.getBreakpointAt 0x1000) start := by
  intro start s
  have hRemoved :
      (checked (.removeBreakpoint 1) s).isSome = false := by
    decide +kernel
  have hLookup :
      (checked (.getBreakpointAt 0x1000) start).isSome =
        false := by
    decide +kernel
  constructor
  · intro hPresent
    rw [hPresent] at hRemoved
    cases hRemoved
  · intro hPresent
    rw [hPresent] at hLookup
    cases hLookup

end BreakpointManager

end AnDbg
