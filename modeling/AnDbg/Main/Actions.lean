import AnDbg.Core.DebuggerCore.Reachable
import AnDbg.Main.Handlers

/-
  What a request asks the debugger to do.

  A request names at most one action, and which one depends
  on its text alone.  Its handler carries the action out and
  does nothing else; parameters that it refuses, and those
  that are no JSON, name no action.

  Main declarations:
    * `AnDbg.Main.Action` and `AnDbg.Main.perform`
    * `AnDbg.Main.asks`
    * `AnDbg.Main.commands_perform`
    * `AnDbg.Main.reachable_perform`
-/

------------------------------------------------------------
-- Actions
------------------------------------------------------------

namespace AnDbg

namespace Main

open DebuggerCore ProcFiles

/- What the debugger can be asked to do. -/
inductive Action
  | op (op : Op)
  | attachPackage (packageName : StdString)
  | launch (packageActivity : StdString)
  | readMaps

variable {κ : Type}

/- The debugger and the world that a method leaves behind. -/
def leftBy
    {α : Type}
    (done : Outcome DebuggerCore κ α) : DebuggerCore × κ :=
  (done.object, done.world)

section

variable [LaunchKernel κ] [MemoryControl κ] [Regset κ]
variable [HashOrder κ DBRegister] [ProcFiles κ]

/-
  An action; there is nothing behind one that is undefined
  or does not return.
-/
def perform
    (dump : Json → StdString)
    (rounds : Nat)
    (action : Action)
    (s : DebuggerCore × κ) : Option (DebuggerCore × κ) :=
  match action with
  | .op op =>
    let done := exec dump op ⟨s.1, s.2⟩
    match done.result with
    | .undefined => none
    | _ => some (leftBy done)
  | .attachPackage packageName =>
    let (table, k) := procTable s.2
    (s.1.attachPackage packageName table k).map leftBy
  | .launch packageActivity =>
    (s.1.launch rounds packageActivity s.2).map leftBy
  | .readMaps => some (s.1, (maps s.1.pid s.2).2)

/- Actions one after the other. -/
def performAll
    (dump : Json → StdString)
    (rounds : Nat)
    (actions : List Action)
    (s : DebuggerCore × κ) : Option (DebuggerCore × κ) :=
  actions.foldlM
    (fun s action => perform dump rounds action s) s

/- An action, if there is one. -/
def performs
    (dump : Json → StdString)
    (rounds : Nat)
    (action : Option Action)
    (s : DebuggerCore × κ) : Option (DebuggerCore × κ) :=
  performAll dump rounds action.toList s

end

end Main

end AnDbg

------------------------------------------------------------
-- The Action Of A Request
------------------------------------------------------------

namespace AnDbg

namespace Main

open RPCServer

variable (lib : Library)

/- The action that parameters in JSON name. -/
def parsedAs
    (action : Json → Option Action)
    (params : StdString) : Option Action :=
  match lib.parse params with
  | .error _ => none
  | .ok jsonData => action jsonData

/- The action on a target that is named. -/
def targetAs
    (action : StdString → Action) :
    StdString → Option Action :=
  parsedAs lib fun jsonData =>
    match jsonData.field (ascii "target") with
    | some (.string target) => some (action target)
    | _ => none

/- The operation on a number, in a field. -/
def intAs
    (field : String)
    (op : Int → DebuggerCore.Op) :
    StdString → Option Action :=
  parsedAs lib fun jsonData =>
    ((jsonData.field (ascii field)).bind lib.int).map
      fun n => .op (op n)

/- The range that `read_memory` reads, if it can be held. -/
def readMemoryAs
    (host : Host) : StdString → Option Action :=
  parsedAs lib fun jsonData =>
    match addressAndSize lib.toNlohmann jsonData with
    | none => none
    | some (address, size) =>
      match allocate host size.toNat with
      | .error _ => none
      | .ok () =>
        some (.op (.readMemory address
          (List.replicate size.toNat 0)))

/- The bytes that `write_memory` writes, if they are ones. -/
def writeMemoryAs : StdString → Option Action :=
  parsedAs lib fun jsonData =>
    match addressAndData lib jsonData with
    | none => none
    | some (address, data) =>
      (data.mapM lib.byte).map
        fun buffer => .op (.writeMemory address buffer)

def setBreakpointAs : StdString → Option Action :=
  parsedAs lib fun jsonData =>
    (typeAndAddress lib jsonData).map
      fun (type, address) =>
        .op (.setBreakpoint (.ofInt type) address)

def getBreakpointsAs : StdString → Option Action :=
  parsedAs lib fun jsonData =>
    match jsonData.field (ascii "tid") with
    | some value =>
      (toPid lib.castInt value).map
        fun tid => .op (.getBreakpointsOf tid)
    | none => some (.op .getBreakpoints)

def getBreakpointAs : StdString → Option Action :=
  parsedAs lib fun jsonData =>
    match jsonData.field (ascii "address") with
    | some value =>
      (lib.number value).map
        fun address => .op (.getBreakpointAt address)
    | none =>
      ((jsonData.field (ascii "breakpoint_id")).bind
        lib.int).map fun n => .op (.getBreakpoint n)

/- What each command asks for, by its parameters. -/
def asks
    (host : Host) :
    List (StdString × (StdString → Option Action)) :=
  [(ascii "attach", targetAs lib .attachPackage),
    (ascii "launch", targetAs lib .launch),
    (ascii "detach", fun _ => some (.op .detach)),
    (ascii "kill", fun _ => some (.op .kill)),
    (ascii "resume", fun _ => some (.op .resume)),
    (ascii "pause", fun _ => some (.op .pause)),
    (ascii "step_into", fun _ => some (.op .stepInto)),
    (ascii "step_over", fun _ => some (.op .stepOver)),
    (ascii "read_memory", readMemoryAs lib host),
    (ascii "write_memory", writeMemoryAs lib),
    (ascii "get_memory_regions", fun _ => some .readMaps),
    (ascii "read_registers",
      parsedAs lib fun jsonData =>
        some (.op (.readRegisters jsonData))),
    (ascii "write_registers",
      parsedAs lib fun jsonData =>
        some (.op (.writeRegisters jsonData))),
    (ascii "set_breakpoint", setBreakpointAs lib),
    (ascii "remove_breakpoint",
      intAs lib "breakpoint_id" .removeBreakpoint),
    (ascii "enable_breakpoint",
      intAs lib "breakpoint_id" .enableBreakpoint),
    (ascii "disable_breakpoint",
      intAs lib "breakpoint_id" .disableBreakpoint),
    (ascii "get_breakpoints", getBreakpointsAs lib),
    (ascii "get_breakpoint", getBreakpointAs lib),
    (ascii "get_threads", fun _ => none),
    (ascii "switch_thread", intAs lib "tid" .switchThread),
    (ascii "get_pid", fun _ => none),
    (ascii "get_current_tid", fun _ => none)]

end Main

end AnDbg

------------------------------------------------------------
-- Handlers Carry Out Actions
------------------------------------------------------------

namespace AnDbg

namespace Main

open DebuggerCore ProcFiles RPCServer

variable {κ : Type}
variable [LaunchKernel κ] [MemoryControl κ] [Regset κ]
variable [HashOrder κ DBRegister] [ProcFiles κ]

/- A handler does what its parameters ask for, no more. -/
structure Performs
    (dump : Json → StdString)
    (rounds : Nat)
    (command : Command κ)
    (ask : StdString → Option Action) : Prop where
  leaves :
    ∀ params s,
      (command params s).map Prod.snd =
        performs dump rounds (ask params) s

/- A command under its name, with what it is asked for. -/
structure Carries
    (dump : Json → StdString)
    (rounds : Nat)
    (entry : StdString × Command κ)
    (ask : StdString × (StdString → Option Action)) :
    Prop where
  name : entry.1 = ask.1
  performs : Performs dump rounds entry.2 ask.2

theorem Performs.cons
    {dump : Json → StdString}
    {rounds : Nat}
    {name : StdString}
    {command : Command κ}
    {ask : StdString → Option Action}
    {commands : List (StdString × Command κ)}
    {asks : List (StdString × (StdString → Option Action))}
    (hHere : Performs dump rounds command ask)
    (hRest :
      List.Forall₂ (Carries dump rounds) commands asks) :
    List.Forall₂ (Carries dump rounds)
      ((name, command) :: commands) ((name, ask) :: asks) :=
  .cons ⟨rfl, hHere⟩ hRest

@[simp] theorem performs_none
    (dump : Json → StdString)
    (rounds : Nat)
    (s : DebuggerCore × κ) :
    performs dump rounds none s = some s := rfl

@[simp] theorem performs_some
    (dump : Json → StdString)
    (rounds : Nat)
    (action : Action)
    (s : DebuggerCore × κ) :
    performs dump rounds (some action) s =
      perform dump rounds action s := by
  simp [performs, performAll]

variable {lib : Library} {rounds : Nat}

/- Handlers that parse do nothing where that fails. -/
theorem performs_parsing
    {body : Json → DebuggerCore × κ →
      Option (Answer × (DebuggerCore × κ))}
    {action : Json → Option Action}
    (hBody : ∀ jsonData s,
      (body jsonData s).map Prod.snd =
        performs lib.dump rounds (action jsonData) s) :
    Performs lib.dump rounds (parsing lib body)
      (parsedAs lib action) := by
  constructor
  intro params s
  rw [parsing, parsedAs]
  cases lib.parse params with
  | error what => rfl
  | ok jsonData => exact hBody jsonData s

theorem performs_targetCommand
    (text : String)
    {act : StdString → DebuggerCore → κ →
      Option
        (Outcome DebuggerCore κ
          (Except ConversionError Status))}
    {action : StdString → Action}
    (hAct : ∀ target c k,
      (act target c k).map leftBy =
        perform lib.dump rounds (action target) (c, k)) :
    Performs lib.dump rounds (targetCommand lib text act)
      (targetAs lib action) := by
  apply performs_parsing
  intro jsonData s
  cases jsonData.field (ascii "target") with
  | none => rfl
  | some value =>
      cases value with
      | string target =>
          rw [performs_some, ← hAct, Option.map_map]
          rfl
      | _ => rfl

/- The operation that a method is. -/
theorem performs_plainCommand
    {act : DebuggerCore → κ → Outcome DebuggerCore κ Ending}
    {op : Op}
    (hAct : ∀ c k,
      exec lib.dump op ⟨c, k⟩ =
        ⟨.ofExcept (act c k).result, (act c k).object,
          (act c k).world⟩) :
    Performs lib.dump rounds (plainCommand lib act)
      (fun _ => some (.op op)) := by
  constructor
  rintro params ⟨c, k⟩
  rw [performs_some, perform, hAct, plainCommand]
  dsimp only [Option.map_some, ended]
  cases (act c k).result <;> rfl

theorem performs_breakpointCommand
    (text : String)
    {act : Int → DebuggerCore → κ →
      Outcome DebuggerCore κ Status}
    {op : Int → Op}
    (hAct : ∀ n c k,
      some (leftBy (act n c k)) =
        perform lib.dump rounds (.op (op n)) (c, k)) :
    Performs lib.dump rounds (breakpointCommand lib text act)
      (intAs lib "breakpoint_id" op) := by
  apply performs_parsing
  intro jsonData s
  cases (jsonData.field (ascii "breakpoint_id")).bind
      lib.int with
  | none => rfl
  | some n =>
      dsimp only [Option.map_some]
      rw [performs_some, ← hAct]
      rfl

theorem performs_queryCommand
    {α : Type}
    (query : DebuggerCore → Status × α)
    (result : α → Json) :
    Performs lib.dump rounds
      (queryCommand lib query result : Command κ)
      (fun _ => none) := by
  constructor
  intro params s
  rw [queryCommand]
  dsimp only
  split <;> rfl

/- The buffer is as it was zeroed, and is given back. -/
theorem performs_readMemoryHandler
    (host : Host) :
    Performs lib.dump rounds
      (.ofHandler (readMemoryHandler lib.toNlohmann host) :
        Command κ)
      (readMemoryAs lib host) := by
  constructor
  intro params s
  rw [Command.ofHandler, readMemoryHandler, readMemoryAs,
    parsedAs]
  cases lib.parse params with
  | error what => rfl
  | ok jsonData =>
      dsimp only
      cases addressAndSize lib.toNlohmann jsonData with
      | none => rfl
      | some range =>
          rcases range with ⟨address, size⟩
          dsimp only
          cases allocate host size.toNat with
          | error e => rfl
          | ok _ =>
              dsimp only
              rw [performs_some]
              split <;> rfl

theorem performs_writeMemoryHandler :
    Performs lib.dump rounds
      (writeMemoryHandler lib : Command κ)
      (writeMemoryAs lib) := by
  apply performs_parsing
  intro jsonData s
  cases addressAndData lib jsonData with
  | none => rfl
  | some parts =>
      rcases parts with ⟨address, data⟩
      dsimp only
      cases data.mapM lib.byte with
      | none => rfl
      | some buffer =>
          dsimp only [Option.map_some]
          rw [performs_some]
          rfl

theorem performs_getMemoryRegionsHandler
    (std : RegionSort) :
    Performs lib.dump rounds
      (getMemoryRegionsHandler lib std : Command κ)
      (fun _ => some .readMaps) := by
  constructor
  intro params s
  rw [performs_some]
  rfl

theorem performs_readRegistersHandler :
    Performs lib.dump rounds
      (readRegistersHandler lib : Command κ)
      (parsedAs lib fun jsonData =>
        some (.op (.readRegisters jsonData))) := by
  apply performs_parsing
  intro jsonData s
  rw [performs_some]
  dsimp only
  split <;> rfl

theorem performs_writeRegistersHandler :
    Performs lib.dump rounds
      (writeRegistersHandler lib : Command κ)
      (parsedAs lib fun jsonData =>
        some (.op (.writeRegisters jsonData))) := by
  apply performs_parsing
  intro jsonData s
  rw [performs_some, perform]
  dsimp only [exec]
  cases (s.1.writeRegisters jsonData s.2).1 <;> rfl

theorem performs_setBreakpointHandler :
    Performs lib.dump rounds
      (setBreakpointHandler lib : Command κ)
      (setBreakpointAs lib) := by
  apply performs_parsing
  intro jsonData s
  cases typeAndAddress lib jsonData with
  | none => rfl
  | some parts =>
      rcases parts with ⟨type, address⟩
      dsimp only [Option.map_some]
      rw [performs_some, perform]
      dsimp only [exec]
      cases (s.1.setBreakpoint (.ofInt type) address s.2).result
        <;> rfl

theorem performs_getBreakpointHandler :
    Performs lib.dump rounds
      (getBreakpointHandler lib : Command κ)
      (getBreakpointAs lib) := by
  apply performs_parsing
  intro jsonData s
  cases jsonData.field (ascii "address") with
  | some value =>
      dsimp only
      cases lib.number value with
      | none => rfl
      | some address =>
          dsimp only [Option.map_some]
          rw [performs_some, perform, Option.map_map]
          dsimp only [exec]
          cases s.1.getBreakpointAt address <;> rfl
  | none =>
      dsimp only
      cases jsonData.field (ascii "breakpoint_id") with
      | none => rfl
      | some value =>
          dsimp only [Option.bind_some]
          cases lib.int value with
          | none => rfl
          | some n =>
              dsimp only [Option.map_some]
              rw [performs_some]
              rfl

theorem performs_switchThreadHandler :
    Performs lib.dump rounds
      (switchThreadHandler lib : Command κ)
      (intAs lib "tid" .switchThread) := by
  apply performs_parsing
  intro jsonData s
  cases (jsonData.field (ascii "tid")).bind lib.int with
  | none => rfl
  | some tid =>
      dsimp only [Option.map_some]
      rw [performs_some]
      rfl

section

variable [WalkOrder κ Breakpoint]

theorem performs_getBreakpointsHandler :
    Performs lib.dump rounds
      (.ofHandler
        (getBreakpointsHandler lib.toNlohmann lib.castInt) :
        Command κ)
      (getBreakpointsAs lib) := by
  constructor
  intro params s
  rw [Command.ofHandler, getBreakpointsHandler,
    getBreakpointsAs, parsedAs]
  cases lib.parse params with
  | error what => rfl
  | ok jsonData =>
      dsimp only
      cases jsonData.field (ascii "tid") with
      | none =>
          dsimp only
          rw [performs_some]
          rfl
      | some value =>
          dsimp only
          cases toPid lib.castInt value with
          | none => rfl
          | some tid =>
              dsimp only [Option.map_some]
              rw [performs_some]
              rfl

/- Every command does what it is asked, and no more. -/
theorem commands_perform
    (lib : Library)
    (host : Host)
    (std : RegionSort)
    (rounds : Nat) :
    List.Forall₂ (Carries lib.dump rounds)
      (commands lib host std rounds : List (_ × Command κ))
      (asks lib host) := by
  refine (performs_targetCommand _ fun _ _ _ =>
    Option.map_map _ _ _).cons ?_
  refine (performs_targetCommand _ fun _ _ _ => rfl).cons ?_
  refine (performs_plainCommand fun _ _ => rfl).cons ?_
  refine (performs_plainCommand fun _ _ => rfl).cons ?_
  refine (performs_plainCommand fun _ _ => rfl).cons ?_
  refine (performs_plainCommand fun _ _ => rfl).cons ?_
  refine (performs_plainCommand fun _ _ => rfl).cons ?_
  refine (performs_plainCommand fun _ _ => rfl).cons ?_
  refine (performs_readMemoryHandler host).cons ?_
  refine performs_writeMemoryHandler.cons ?_
  refine (performs_getMemoryRegionsHandler std).cons ?_
  refine performs_readRegistersHandler.cons ?_
  refine performs_writeRegistersHandler.cons ?_
  refine performs_setBreakpointHandler.cons ?_
  refine (performs_breakpointCommand _ fun _ _ _ => rfl).cons ?_
  refine (performs_breakpointCommand _ fun _ _ _ => rfl).cons ?_
  refine (performs_breakpointCommand _ fun _ _ _ => rfl).cons ?_
  refine performs_getBreakpointsHandler.cons ?_
  refine performs_getBreakpointHandler.cons ?_
  refine (performs_queryCommand _ _).cons ?_
  refine performs_switchThreadHandler.cons ?_
  refine (performs_queryCommand _ _).cons ?_
  exact (performs_queryCommand _ _).cons .nil

end

/- An action leads from a reachable debugger to another. -/
theorem reachable_perform
    {dump : Json → StdString}
    {rounds : Nat}
    {action : Action}
    {c c' : DebuggerCore}
    {k k' : κ}
    (hBefore : Reachable κ dump c)
    (hPerform :
      perform dump rounds action (c, k) = some (c', k')) :
    Reachable κ dump c' := by
  cases action with
  | op op =>
      rw [perform] at hPerform
      dsimp only at hPerform
      split at hPerform
      next => cases hPerform
      next =>
        cases hPerform
        exact hBefore.step op k
  | attachPackage packageName =>
      rcases Option.map_eq_some_iff.mp hPerform with
        ⟨done, hDone, hLeft⟩
      cases hLeft
      exact hBefore.attachPackage hDone
  | launch packageActivity =>
      rcases Option.map_eq_some_iff.mp hPerform with
        ⟨done, hDone, hLeft⟩
      cases hLeft
      exact hBefore.launch hDone
  | readMaps =>
      cases hPerform
      exact hBefore

theorem reachable_performAll
    {dump : Json → StdString}
    {rounds : Nat}
    {actions : List Action}
    {s s' : DebuggerCore × κ}
    (hBefore : Reachable κ dump s.1)
    (hPerform :
      performAll dump rounds actions s = some s') :
    Reachable κ dump s'.1 := by
  induction actions generalizing s with
  | nil => cases hPerform; exact hBefore
  | cons action actions ih =>
      rw [performAll, List.foldlM_cons] at hPerform
      rcases Option.bind_eq_some_iff.mp hPerform with
        ⟨mid, hHere, hRest⟩
      exact ih (reachable_perform hBefore hHere) hRest

end Main

end AnDbg
