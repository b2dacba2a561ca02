import AnDbg.Core.BreakpointManager.Table
import AnDbg.Core.SimulatedTarget

/-
  What the lookup by address answers, against a search of
  the list of all live breakpoints.

  The index of addresses only ever grows: it has an entry
  for each address at which a breakpoint was set.  The
  lookup answers nothing where there is an entry, and is
  undefined where there is none, so it is right only where
  every breakpoint that was set is gone.

  Main declarations:
    * `AnDbg.BreakpointManager.LookupAgrees`
    * `AnDbg.BreakpointManager.addressesSet`
    * `AnDbg.BreakpointManager.mem_addressBreakpointMap_run`
    * `AnDbg.BreakpointManager.lookup_agrees_iff`
-/

------------------------------------------------------------
-- The Index Of Addresses
------------------------------------------------------------

namespace AnDbg

namespace BreakpointManager

open Run

variable {κ : Type}
variable {m m' : BreakpointManager}
variable {tid : Pid} {address : Addr} {k k' : κ}

/- The address that an operation is to set a breakpoint at. -/
def Op.target : Op → Option Addr
| .setSoftwareBreakpoint _ address => some address
| .setHardwareBreakpoint _ address _ => some address
| _ => none

/- The probe leaves the index alone. -/
theorem InitExit.addressBreakpointMap_eq
    [Regset κ]
    {success : Bool}
    (hExit : InitExit tid m k success m' k') :
    m'.addressBreakpointMap = m.addressBreakpointMap := by
  cases hExit <;> rfl

theorem mem_addressBreakpointMap_enter
    (bp : Breakpoint)
    (address : Addr) :
    address ∈ (m.enter bp).addressBreakpointMap ↔
      address = bp.address ∨
        address ∈ m.addressBreakpointMap :=
  Finmap.mem_insert

/- An entry is made when a breakpoint is given its id. -/
theorem SetSoftwareExit.mem_addressBreakpointMap
    [MemoryControl κ]
    {result : Except StdException Int}
    (hTables : Consistent m)
    (hExit : SetSoftwareExit tid address m k result m' k')
    (x : Addr) :
    x ∈ m'.addressBreakpointMap ↔
      ((Answer.id result).issuedId.isSome = true ∧
        x = address) ∨
      x ∈ m.addressBreakpointMap := by
  cases hExit with
  | misaligned => simp [Answer.issuedId]
  | duplicate => simp [Answer.issuedId]
  | readFailed => simp [Answer.issuedId]
  | writeFailed => simp [Answer.issuedId]
  | refused => simp [Answer.issuedId, BreakpointManager.skipId]
  | created =>
      rw [issuedId_next hTables,
        mem_addressBreakpointMap_enter]
      simp [softwareBreakpoint]

theorem SetHardwareExit.mem_addressBreakpointMap
    [Regset κ]
    {type : BreakpointType}
    {result : Except StdException Int}
    (hTables : Consistent m)
    (hExit :
      SetHardwareExit tid address type m k result m' k')
    (x : Addr) :
    x ∈ m'.addressBreakpointMap ↔
      ((Answer.id result).issuedId.isSome = true ∧
        x = address) ∨
      x ∈ m.addressBreakpointMap := by
  cases hExit with
  | misaligned => simp [Answer.issuedId]
  | duplicate => simp [Answer.issuedId]
  | noFree => simp [Answer.issuedId, touchFree]
  | initFailed _ hInit =>
      rw [hInit.addressBreakpointMap_eq]
      simp [Answer.issuedId, touchFree]
  | wrongType _ hInit =>
      have hSame := hInit.addressBreakpointMap_eq
      simp [Answer.issuedId, touchFree, takeRegister, hSame]
  | setFailed _ hInit =>
      have hSame := hInit.addressBreakpointMap_eq
      simp [Answer.issuedId, touchFree, takeRegister,
        giveRegister, hSame]
  | refused _ _ _ hInit =>
      have hSame := hInit.addressBreakpointMap_eq
      simp [Answer.issuedId, touchFree, takeRegister,
        BreakpointManager.skipId, hSame]
  | created _ _ _ _ hInit =>
      have hSame := hInit.addressBreakpointMap_eq
      rw [issuedId_next hTables,
        mem_addressBreakpointMap_enter]
      simp [hardwareBreakpoint, touchFree, takeRegister, hSame]

/- No removal takes an entry out. -/
theorem RemoveExit.addressBreakpointMap_eq
    [MemoryControl κ]
    [Regset κ]
    {id : Int}
    {success : Bool}
    (hExit : RemoveExit id m k success m' k') :
    m'.addressBreakpointMap = m.addressBreakpointMap := by
  cases hExit <;> rfl

theorem ToggleExit.addressBreakpointMap_eq
    [MemoryControl κ]
    [Regset κ]
    {on : Bool}
    {id : Int}
    {success : Bool}
    (hExit : ToggleExit on id m k success m' k') :
    m'.addressBreakpointMap = m.addressBreakpointMap := by
  cases hExit <;> rfl

variable [MemoryControl κ] [Regset κ]
variable [HashOrder κ DBRegister]

/- One operation makes the entry for what it sets, if any. -/
theorem mem_addressBreakpointMap_step
    (op : Op)
    {s : Session κ}
    (hTables : Consistent s.manager)
    (x : Addr) :
    x ∈ (step op s).manager.addressBreakpointMap ↔
      ((exec op s).result.issuedId.isSome = true ∧
        op.target = some x) ∨
      x ∈ s.manager.addressBreakpointMap := by
  cases op with
  | getHardwareRegistersCount tid =>
      have hInit := (initHardwareRegister_exit tid s.manager
        s.world).addressBreakpointMap_eq
      rw [← getHardwareRegistersCount_object] at hInit
      have hSame :
          (step (.getHardwareRegistersCount tid)
              s).manager.addressBreakpointMap =
            s.manager.addressBreakpointMap :=
        hInit
      simp [hSame, Op.target]
  | initHardwareRegister tid =>
      have hSame :
          (step (.initHardwareRegister tid)
              s).manager.addressBreakpointMap =
            s.manager.addressBreakpointMap :=
        (initHardwareRegister_exit tid s.manager
          s.world).addressBreakpointMap_eq
      simp [hSame, Op.target]
  | setSoftwareBreakpoint tid address =>
      rw [Op.target, Option.some.injEq, eq_comm (a := address)]
      exact (setSoftwareBreakpoint_exit hTables.fresh tid
        address s.world).mem_addressBreakpointMap hTables x
  | setHardwareBreakpoint tid address type =>
      rw [Op.target, Option.some.injEq, eq_comm (a := address)]
      exact (setHardwareBreakpoint_exit hTables.fresh tid
        address type s.world).mem_addressBreakpointMap hTables x
  | removeBreakpoint id =>
      have hSame :
          (step (.removeBreakpoint id)
              s).manager.addressBreakpointMap =
            s.manager.addressBreakpointMap :=
        (removeBreakpoint_exit id s.manager
          s.world).addressBreakpointMap_eq
      simp [hSame, Op.target]
  | enable id =>
      have hSame :
          (step (.enable id) s).manager.addressBreakpointMap =
            s.manager.addressBreakpointMap :=
        (enable_exit id s.manager
          s.world).addressBreakpointMap_eq
      simp [hSame, Op.target]
  | disable id =>
      have hSame :
          (step (.disable id) s).manager.addressBreakpointMap =
            s.manager.addressBreakpointMap :=
        (disable_exit id s.manager
          s.world).addressBreakpointMap_eq
      simp [hSame, Op.target]
  | getBreakpoints => simp [step, exec, Op.target]
  | getBreakpointsOf tid => simp [step, exec, Op.target]
  | getBreakpoint id => simp [step, exec, Op.target]
  | getBreakpointAt address => simp [step, exec, Op.target]

/- The addresses at which a run sets breakpoints, in order. -/
def addressesSet : List Op → Session κ → List Addr
| [], _ => []
| op :: ops, s =>
    (if (exec op s).result.issuedId.isSome then
      op.target.toList
    else
      []) ++ addressesSet ops (step op s)

/- The index has the addresses that a run has set. -/
theorem mem_addressBreakpointMap_run
    (ops : List Op)
    {s : Session κ}
    (hTables : Consistent s.manager)
    (x : Addr) :
    x ∈ (run step ops s).manager.addressBreakpointMap ↔
      x ∈ addressesSet ops s ∨
        x ∈ s.manager.addressBreakpointMap := by
  induction ops generalizing s with
  | nil => simp [addressesSet]
  | cons op ops ih =>
      rw [run_cons, ih (step_consistent s op hTables),
        mem_addressBreakpointMap_step op hTables, addressesSet,
        List.mem_append, or_assoc, or_left_comm]
      split
      next hIssued =>
        rw [Option.mem_toList]
        simp [hIssued]
      next hIssued => simp [hIssued]

end BreakpointManager

end AnDbg

------------------------------------------------------------
-- The Lookup
------------------------------------------------------------

namespace AnDbg

namespace BreakpointManager

open Run UnorderedMap

/-
  The lookup is defined, and answers the live breakpoint
  that is at the address, or nothing if none is.
-/
def LookupAgrees
    (m : BreakpointManager)
    (address : Addr) : Prop :=
  ∃ answer, m.getBreakpointAt address = some answer ∧
    ∀ bp, answer = some bp ↔
      bp ∈ m.getBreakpoints ∧ bp.address = address

/- It is so where the index has an entry and no one is live. -/
theorem lookupAgrees_iff_entry
    (m : BreakpointManager)
    (address : Addr) :
    LookupAgrees m address ↔
      address ∈ m.addressBreakpointMap ∧
        ∀ bp ∈ m.getBreakpoints, bp.address ≠ address := by
  unfold LookupAgrees getBreakpointAt
  cases hEntry : m.addressBreakpointMap.lookup address with
  | none =>
      have hAbsent : address ∉ m.addressBreakpointMap :=
        Finmap.lookup_eq_none.mp hEntry
      simp [hAbsent]
  | some id =>
      have hPresent : address ∈ m.addressBreakpointMap :=
        Finmap.mem_of_lookup_eq_some hEntry
      simp [hPresent]

variable {κ : Type}
variable [MemoryControl κ] [Regset κ]
variable [HashOrder κ DBRegister]

/-
  In a reachable state the lookup by address agrees with the
  list of breakpoints exactly where a breakpoint was set in
  the run and none is live.
-/
theorem lookup_agrees_iff
    (ops : List Op)
    (k : κ)
    (address : Addr) :
    let m := (run step ops (Session.start k)).manager
    LookupAgrees m address ↔
      address ∈ addressesSet ops (Session.start k) ∧
        ∀ bp ∈ m.getBreakpoints, bp.address ≠ address := by
  intro m
  have hIndex :
      address ∈ m.addressBreakpointMap ↔
        address ∈ addressesSet ops (Session.start k) ∨
          address ∈ (Session.start k).manager.addressBreakpointMap :=
    mem_addressBreakpointMap_run ops consistent_init address
  have hStart :
      address ∉
        (Session.start k).manager.addressBreakpointMap :=
    Finmap.notMem_empty
  rw [lookupAgrees_iff_entry, hIndex, or_iff_left hStart]

/- A breakpoint that was just set is not found. -/
theorem not_lookupAgrees_set :
    let m :=
      (run step [.setSoftwareBreakpoint 7 0x1000]
        (Session.start (SimulatedTarget.fresh []))).manager
    ¬ LookupAgrees m 0x1000 := by
  intro m hAgrees
  rw [lookupAgrees_iff_entry] at hAgrees
  have hLive : m.breakpoints.lookup 1 =
      some (softwareBreakpoint 1 7 0x1000 0) := by
    decide +kernel
  exact hAgrees.2 _ (mem_values.mpr ⟨1, hLive⟩) rfl

end BreakpointManager

end AnDbg
