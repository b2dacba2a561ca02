import AnDbg.Core.BreakpointManager.Mapped
import AnDbg.Core.BreakpointManager.Table
import AnDbg.Core.Watched

/-
  The breakpoint manager in a world whose calls are watched.

  Watching changes nothing that an operation returns or
  leaves behind, so a run in a watched world is the run in
  the world itself, together with the answer whether every
  call of it went through.

  Main declarations:
    * `AnDbg.BreakpointManager.Session.watched`
    * `AnDbg.BreakpointManager.run_watched`
    * `AnDbg.BreakpointManager.CallsSucceed`
    * `AnDbg.BreakpointManager.clean_of_step` and
      `AnDbg.BreakpointManager.clean_of_run`
-/

------------------------------------------------------------
-- Forgetting The Flag
------------------------------------------------------------

namespace AnDbg

variable {σ κ α : Type}

/- An outcome in a watched world, without the flag. -/
def Outcome.unwatched
    (done : Outcome σ (Watched κ) α) : Outcome σ κ α :=
  ⟨done.result, done.object, done.world.world⟩

namespace Watched

theorem mapsHashOrder
    [HashOrder κ DBRegister] :
    MapsHashOrder DBRegister (Watched.world : Watched κ → κ)
    where
  first _ _ := rfl

end Watched

end AnDbg

------------------------------------------------------------
-- Runs In A Watched World
------------------------------------------------------------

namespace AnDbg

namespace BreakpointManager

open Run

variable {κ : Type}

/- The session with its calls watched from now on. -/
def Session.watched (s : Session κ) : Session (Watched κ) :=
  ⟨s.manager, .start s.world⟩

/- The session of a watched one. -/
def Session.unwatched (s : Session (Watched κ)) : Session κ :=
  ⟨s.manager, s.world.world⟩

variable [MemoryControl κ] [Regset κ]
variable [HashOrder κ DBRegister]

theorem exec_watched
    (op : Op)
    (s : Session (Watched κ)) :
    (exec op s).unwatched = exec op s.unwatched :=
  exec_map Watched.mapsMemory Watched.mapsRegset
    Watched.mapsHashOrder op s

theorem step_watched
    (op : Op)
    (s : Session (Watched κ)) :
    (step op s).unwatched = step op s.unwatched :=
  step_map Watched.mapsMemory Watched.mapsRegset
    Watched.mapsHashOrder op s

/- Watching does not change a run. -/
theorem run_watched
    (ops : List Op)
    (s : Session (Watched κ)) :
    (run step ops s).unwatched = run step ops s.unwatched :=
  map_run Session.unwatched step_watched ops s

/- Every call that a run makes goes through. -/
def CallsSucceed
    (ops : List Op)
    (s : Session κ) : Prop :=
  (run step ops s.watched).world.clean = true

end BreakpointManager

end AnDbg

------------------------------------------------------------
-- The Flag Along A Run
------------------------------------------------------------

namespace AnDbg

namespace BreakpointManager

open Run Watched

variable {κ : Type}

section Exits

variable [Regset κ]
variable {tid : Pid} {address : Addr}
variable {m m' : BreakpointManager}
variable {k k' : Watched κ}

/- If the flag stands after some calls, it stood before. -/
theorem RegisterCalls.clean
    (hCalls : RegisterCalls tid k k')
    (hClean : k'.clean = true) :
    k.clean = true := by
  induction hCalls with
  | refl => exact hClean
  | get _ hGet ih =>
      exact ih (clean_of_getRegset hGet hClean).1
  | set _ hSet ih =>
      exact ih (clean_of_setRegset hSet hClean).1

/- A probe whose calls all go through succeeds. -/
theorem isSuccess_of_clean
    (hClean :
      (initHardwareRegister tid m k).world.clean = true) :
    (initHardwareRegister tid m k).result.isSuccess =
      true := by
  by_cases hProbed : tid ∈ m.hardwareRegistersCount
  · unfold initHardwareRegister
    rw [if_pos hProbed]
    rfl
  unfold initHardwareRegister at hClean ⊢
  rw [if_neg hProbed] at hClean ⊢
  dsimp only at hClean ⊢
  rcases hOrigin : RegisterControl.getAllDbg tid k with
    ⟨_ | originDbg, k₁⟩
  · rw [hOrigin] at hClean
    cases (clean_of_getRegset hOrigin hClean).2
  rw [hOrigin] at hClean
  dsimp only at hClean ⊢
  rcases hTest :
    RegisterControl.setAllDbg tid (testDbg originDbg) k₁ with
    ⟨_ | _, k₂⟩
  · rw [hTest] at hClean
    have hRestored := clean_of_setRegset rfl hClean
    cases (clean_of_setRegset hTest hRestored.1).2
  rw [hTest] at hClean
  dsimp only at hClean ⊢
  rcases hVerify : RegisterControl.getAllDbg tid k₂ with
    ⟨_ | verifyDbg, k₃⟩
  · rw [hVerify] at hClean
    have hRestored := clean_of_setRegset rfl hClean
    cases (clean_of_getRegset hVerify hRestored.1).2
  rw [hVerify] at hClean
  dsimp only at hClean ⊢
  rcases hRestore :
    RegisterControl.setAllDbg tid originDbg k₃ with
    ⟨_ | _, k₄⟩
  · rw [hRestore] at hClean
    cases (clean_of_setRegset hRestore hClean).2
  · rfl

theorem SetHardwareExit.clean
    {type : BreakpointType}
    {result : Except StdException Int}
    (hExit :
      SetHardwareExit tid address type m k result m' k')
    (hClean : k'.clean = true) :
    k.clean = true := by
  cases hExit with
  | misaligned => exact hClean
  | duplicate => exact hClean
  | noFree => exact hClean
  | initFailed _ hInit => exact hInit.calls.clean hClean
  | wrongType _ hInit => exact hInit.calls.clean hClean
  | setFailed _ hInit _ _ hSet =>
      exact hInit.calls.clean
        ((RegisterCalls.of_setDbg hSet).clean hClean)
  | refused _ _ _ hInit _ _ hSet =>
      exact hInit.calls.clean
        ((RegisterCalls.of_setDbg hSet).clean hClean)
  | created _ _ _ _ hInit _ _ hSet =>
      exact hInit.calls.clean
        ((RegisterCalls.of_setDbg hSet).clean hClean)

variable [MemoryControl κ]

omit [Regset κ] in
theorem SetSoftwareExit.clean
    {result : Except StdException Int}
    (hExit : SetSoftwareExit tid address m k result m' k')
    (hClean : k'.clean = true) :
    k.clean = true := by
  cases hExit with
  | misaligned => exact hClean
  | duplicate => exact hClean
  | readFailed _ hRead =>
      exact (clean_of_readMemory hRead hClean).1
  | writeFailed _ hRead hWrite =>
      exact (clean_of_readMemory hRead
        (clean_of_writeMemory hWrite hClean).1).1
  | refused _ _ _ hRead hWrite =>
      exact (clean_of_readMemory hRead
        (clean_of_writeMemory hWrite hClean).1).1
  | created _ _ _ hRead hWrite =>
      exact (clean_of_readMemory hRead
        (clean_of_writeMemory hWrite hClean).1).1

theorem RemoveExit.clean
    {id : Int}
    {success : Bool}
    (hExit : RemoveExit id m k success m' k')
    (hClean : k'.clean = true) :
    k.clean = true := by
  cases hExit with
  | absent => exact hClean
  | writeFailed _ _ hWrite =>
      exact (clean_of_writeMemory hWrite hClean).1
  | restored _ _ hWrite =>
      exact (clean_of_writeMemory hWrite hClean).1
  | released =>
      exact (RegisterCalls.of_disarm _ k).clean hClean
  | dropped => exact hClean

theorem ToggleExit.clean
    {on : Bool}
    {id : Int}
    {success : Bool}
    (hExit : ToggleExit on id m k success m' k')
    (hClean : k'.clean = true) :
    k.clean = true := by
  cases hExit with
  | absent => exact hClean
  | already => exact hClean
  | writeFailed _ _ hWrite =>
      exact (clean_of_writeMemory hWrite hClean).1
  | patched _ _ _ hWrite =>
      exact (clean_of_writeMemory hWrite hClean).1
  | getFailed _ _ hGet =>
      exact (RegisterCalls.of_getDbg hGet).clean hClean
  | setFailed _ _ hGet hSet =>
      exact (RegisterCalls.of_getDbg hGet).clean
        ((RegisterCalls.of_setDbg hSet).clean hClean)
  | switched _ _ _ hGet hSet =>
      exact (RegisterCalls.of_getDbg hGet).clean
        ((RegisterCalls.of_setDbg hSet).clean hClean)
  | flagged => exact hClean

end Exits

variable [MemoryControl κ] [Regset κ]
variable [HashOrder κ DBRegister]
variable {s : Session (Watched κ)}

theorem clean_of_step
    {op : Op}
    (hTables : Consistent s.manager)
    (hClean : (step op s).world.clean = true) :
    s.world.clean = true := by
  cases op with
  | getHardwareRegistersCount tid =>
      have hExit :=
        initHardwareRegister_exit tid s.manager s.world
      apply hExit.calls.clean
      rw [← getHardwareRegistersCount_world]
      exact hClean
  | initHardwareRegister tid =>
      exact (initHardwareRegister_exit tid s.manager
        s.world).calls.clean hClean
  | setSoftwareBreakpoint tid address =>
      exact (setSoftwareBreakpoint_exit hTables.fresh tid
        address s.world).clean hClean
  | setHardwareBreakpoint tid address type =>
      exact (setHardwareBreakpoint_exit hTables.fresh tid
        address type s.world).clean hClean
  | removeBreakpoint id =>
      exact (removeBreakpoint_exit id s.manager
        s.world).clean hClean
  | enable id =>
      exact (enable_exit id s.manager s.world).clean hClean
  | disable id =>
      exact (disable_exit id s.manager s.world).clean hClean
  | getBreakpoints => exact hClean
  | getBreakpointsOf tid => exact hClean
  | getBreakpoint id => exact hClean
  | getBreakpointAt address => exact hClean

/- If a whole run is clean, so is its start. -/
theorem clean_of_run
    {ops : List Op}
    (hTables : Consistent s.manager)
    (hClean : (run step ops s).world.clean = true) :
    s.world.clean = true := by
  induction ops generalizing s with
  | nil => exact hClean
  | cons op ops ih =>
      have hTables₁ := step_consistent s op hTables
      exact clean_of_step hTables (ih hTables₁ hClean)

end BreakpointManager

end AnDbg
