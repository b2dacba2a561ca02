import AnDbg.Base.RPCServer.Carried
import AnDbg.Client.Answers
import AnDbg.Core.DebuggerCore.Managed
import AnDbg.Core.SimulatedTarget
import AnDbg.Main.Actions

/-
  The program: the debugger behind its server.

  Whatever clients send and however their connections end,
  the debugger has performed the actions of the requests
  that are carried out, one after the other, and nothing
  else; which ones these are depends on the streams, the
  sending of the replies and the state alone.  It is thus a
  debugger that operations lead to, with what is known of
  those.

  Main declarations:
    * `AnDbg.Main.server` and `AnDbg.Main.asked`
    * `AnDbg.Main.carryOutAll_server`
    * `AnDbg.Main.server_performs`
    * `AnDbg.Main.server_sound`
-/

------------------------------------------------------------
-- Registered Commands
------------------------------------------------------------

namespace AnDbg

namespace Main

open RPCServer

variable {κ : Type}

/- The handler of a command, where names are given once. -/
theorem lookup_registered
    {entries : List (StdString × Command κ)}
    (hNodup : (entries.map Prod.fst).Nodup)
    (server : RPCServer (Option (DebuggerCore × κ)))
    (name : StdString) :
    (entries.foldl
        (fun server entry =>
          server.registerHandler entry.1 entry.2.handler)
        server).handlers.lookup name =
      match entries.lookup name with
      | some command => some command.handler
      | none => server.handlers.lookup name := by
  induction entries generalizing server with
  | nil => rfl
  | cons entry entries ih =>
      rcases entry with ⟨name', command⟩
      rw [List.map_cons, List.nodup_cons] at hNodup
      rcases hNodup with ⟨hFresh, hNodup⟩
      rw [List.foldl_cons, ih hNodup, registerHandler,
        List.lookup_cons]
      dsimp only
      by_cases hName : name = name'
      · subst hName
        have hNone : entries.lookup name = none := by
          rw [List.lookup_eq_none_iff]
          intro entry hEntry
          have hMem : entry.1 ∈ entries.map Prod.fst :=
            List.mem_map.mpr ⟨entry, hEntry, rfl⟩
          have hNe : name ≠ entry.1 :=
            fun hEq => hFresh (hEq ▸ hMem)
          simpa using hNe
        rw [hNone, beq_self_eq_true]
        exact Finmap.lookup_insert _
      · have hBeq : (name == name') = false := by simpa using hName
        rw [hBeq]
        dsimp only
        rw [Finmap.lookup_insert_of_ne _ hName]

variable [LaunchKernel κ] [MemoryControl κ] [Regset κ]
variable [HashOrder κ DBRegister] [ProcFiles κ]

/- A command is found exactly where its action is. -/
theorem lookup_carries
    {dump : Json → StdString}
    {rounds : Nat}
    {commands : List (StdString × Command κ)}
    {asks : List (StdString × (StdString → Option Action))}
    (hAll : List.Forall₂ (Carries dump rounds) commands asks)
    (name : StdString) :
    match commands.lookup name, asks.lookup name with
    | some command, some ask =>
      Performs dump rounds command ask
    | none, none => True
    | _, _ => False := by
  induction hAll with
  | nil => trivial
  | cons hHere hRest ih =>
      rename_i entry ask commands asks
      rcases entry with ⟨name', command⟩
      rcases ask with ⟨name'', ask⟩
      rcases hHere with ⟨rfl, hHere⟩
      rw [List.lookup_cons, List.lookup_cons]
      dsimp only
      cases name == name' with
      | true => exact hHere
      | false => exact ih

end Main

end AnDbg

------------------------------------------------------------
-- The State Behind Requests
------------------------------------------------------------

namespace AnDbg

namespace Main

open RPCServer

/- The names of the commands. -/
def names : List StdString :=
  [ascii "attach", ascii "launch", ascii "detach",
    ascii "kill", ascii "resume", ascii "pause",
    ascii "step_into", ascii "step_over",
    ascii "read_memory", ascii "write_memory",
    ascii "get_memory_regions", ascii "read_registers",
    ascii "write_registers", ascii "set_breakpoint",
    ascii "remove_breakpoint", ascii "enable_breakpoint",
    ascii "disable_breakpoint", ascii "get_breakpoints",
    ascii "get_breakpoint", ascii "get_threads",
    ascii "switch_thread", ascii "get_pid",
    ascii "get_current_tid"]

theorem names_nodup : names.Nodup := by
  decide

/- The action that a payload asks for. -/
def asked
    (lib : Library)
    (host : Host)
    (p : List Byte) : Option Action :=
  let message := deserializeMessage p
  match (asks lib host).lookup message.command with
  | none => none
  | some ask => ask message.content

variable {κ : Type}
variable [LaunchKernel κ] [MemoryControl κ] [Regset κ]
variable [HashOrder κ DBRegister] [ProcFiles κ]

/- A handler performs what its content asks for. -/
theorem handler_performs
    {dump : Json → StdString}
    {rounds : Nat}
    {command : Command κ}
    {ask : StdString → Option Action}
    (hPerforms : Performs dump rounds command ask)
    (content : StdString)
    (s : Option (DebuggerCore × κ)) :
    (command.handler content s).2 =
      s.bind (performs dump rounds (ask content)) := by
  cases s with
  | none => rfl
  | some s =>
      have hLeaves := hPerforms.leaves content s
      rw [Option.bind_some, ← hLeaves, Command.handler,
        Option.bind_some]
      cases command content s with
      | none => rfl
      | some done => rfl

variable [WalkOrder κ Breakpoint]
variable (lib : Library)
variable (host : Host)
variable (std : RegionSort)
variable (rounds : Nat)
variable (quote : StdString → Except StdString StdString)

/- The server of `main`, as `server_loop` finds it. -/
def server : RPCServer (Option (DebuggerCore × κ)) :=
  { acpInit lib host std rounds (new quote) with
    running := true }

theorem names_commands :
    (commands lib host std rounds :
      List (StdString × Command κ)).map Prod.fst = names := rfl

omit [LaunchKernel κ] [MemoryControl κ] [Regset κ]
  [HashOrder κ DBRegister] [ProcFiles κ]
  [WalkOrder κ Breakpoint] in
/- A new server has only `ping`, which changes nothing. -/
theorem state_ping
    (message : Message)
    (s : Option (DebuggerCore × κ)) :
    (respond (new quote).handlers message s).2.2 = s := by
  rw [state_respond]
  by_cases hPing : message.command = ascii "ping"
  · rw [hPing]
    rfl
  · have hNone :
        (new quote).handlers.lookup message.command =
          (none : Option (Handler (Option
            (DebuggerCore × κ)))) := by
      rw [new, Finmap.lookup_eq_none]
      simpa using hPing
    rw [hNone]

/- A payload leads to what its action leads to. -/
theorem answer_server
    (p : List Byte)
    (s : Option (DebuggerCore × κ)) :
    (answer (server lib host std rounds quote).handlers
        p s).2.2 =
      s.bind (performs lib.dump rounds (asked lib host p)) := by
  have hNodup :
      ((commands lib host std rounds :
        List (StdString × Command κ)).map Prod.fst).Nodup := by
    rw [names_commands]
    exact names_nodup
  have hLookup :
      (server lib host std rounds quote).handlers.lookup
          (deserializeMessage p).command =
        _ :=
    lookup_registered hNodup (new quote)
      (deserializeMessage p).command
  have hAll :
      List.Forall₂ (Carries lib.dump rounds)
        (commands lib host std rounds :
          List (StdString × Command κ)) (asks lib host) :=
    commands_perform lib host std rounds
  have hCarries :=
    lookup_carries hAll (deserializeMessage p).command
  rw [answer, state_respond, hLookup, asked]
  generalize (commands lib host std rounds :
    List (StdString × Command κ)).lookup
      (deserializeMessage p).command = command at hCarries
  generalize (asks lib host).lookup
    (deserializeMessage p).command = ask at hCarries
  match command, ask, hCarries with
  | some command, some ask, hPerforms =>
      exact handler_performs hPerforms _ s
  | none, none, _ =>
      have hKept := state_ping quote (deserializeMessage p) s
      rw [state_respond] at hKept
      cases s with
      | none => exact hKept
      | some s => exact hKept

/- Payloads lead to what their actions lead to. -/
theorem carryOutAll_server
    (ps : List (List Byte))
    (s : Option (DebuggerCore × κ)) :
    carryOutAll (server lib host std rounds quote).handlers
        ps s =
      s.bind (performAll lib.dump rounds
        (ps.filterMap (asked lib host))) := by
  induction ps generalizing s with
  | nil =>
      cases s with
      | none => rfl
      | some s => rfl
  | cons p ps ih =>
      have hStep :
          carryOutAll (server lib host std rounds quote).handlers
              (p :: ps) s =
            carryOutAll
              (server lib host std rounds quote).handlers ps
              (s.bind (performs lib.dump rounds
                (asked lib host p))) :=
        congrArg (carryOutAll _ ps)
          (answer_server lib host std rounds quote p s)
      rw [hStep, ih, Option.bind_assoc]
      congr 1
      funext s
      rw [List.filterMap_cons]
      cases asked lib host p with
      | none => rfl
      | some action =>
          rw [performs_some, performAll, List.foldlM_cons]
          rfl

end Main

end AnDbg

------------------------------------------------------------
-- A Simulated Program
------------------------------------------------------------

namespace AnDbg

open DebuggerCore

/- A system with one app, and no way to start others. -/
instance : LaunchKernel SimulatedTarget where
  setForkOptions _ t := (false, t)
  syscall _ t := (false, t)
  getEventMsg _ t := (none, t)
  waitAny t := ((-1, 0), t)
  system _ t := (-1, t)
  now t := (0, t)
  findPidByProcessName _ t := (.ok [], t)
  findPackageNameByPid _ t := (none, t)

instance : ProcFiles SimulatedTarget where
  procTable t :=
    (⟨some [ascii "7"], fun _ => some (ascii "com.app")⟩, t)
  maps _ t := (none, t)

namespace Main

open DebuggerCore RPCServer

/- The parameters that attach to the app. -/
def attachParams : StdString :=
  ascii "\x7b\"target\": \"com.app\"\x7d"

/- The parameters that set a breakpoint in it. -/
def breakpointParams : StdString :=
  ascii "\x7b\"type\": 1, \"address\": 4096\x7d"

/- The library, for these texts. -/
def appRequest : Library where
  parse text :=
    if text = attachParams then
      .ok (.object
        [(ascii "target", .string (ascii "com.app"))])
    else if text = breakpointParams then
      .ok (.object
        [(ascii "address", .integer 0x1000),
          (ascii "type", .integer 1)])
    else
      .error (ascii "parse error")
  dump := rowsText
  castFloat _ := 0
  what _ := []
  castInt _ := 0
  castByte _ := 0
  tryDump json := .ok (rowsText json)
  whatConversion _ := []

/- What a client sends for the two. -/
def appPayloads : List (List Byte) :=
  [ascii "attach|" ++ attachParams,
    ascii "set_breakpoint|" ++ breakpointParams]

/- A client that attaches, sets a breakpoint and leaves. -/
def appClient : Client where
  fd := 4
  incoming :=
    (appPayloads.map (Framing.frame lengthHeader)).flatten
  outcomes := []

/- The server with the debugger behind it, before it runs. -/
noncomputable def appLoop :
    Loop (Option (DebuggerCore × SimulatedTarget)) where
  server := server appRequest ⟨true, 128⟩ .merge 0 .ok
  debugger := some (DebuggerCore.init, .fresh [])
  accepts := []

/- After the client the debugger has the app, with one id. -/
theorem serverLoop_app :
    ∃ progress l c k,
      serverLoop ⟨true, 128⟩ 100 [.client appClient] appLoop =
          some (progress, l) ∧
        l.debugger = some (c, k) ∧
        c.pid = 7 ∧ c.breakpointManager.nextBreakpointId = 2 := by
  have hRun :
      (serverLoop ⟨true, 128⟩ 100 [.client appClient]
        appLoop).bind (fun run => run.2.debugger.map fun s =>
          (s.1.pid, s.1.breakpointManager.nextBreakpointId)) =
        some (7, 2) := by decide +kernel
  rcases Option.bind_eq_some_iff.mp hRun with
    ⟨⟨progress, l⟩, hLoop, hMap⟩
  rcases Option.map_eq_some_iff.mp hMap with
    ⟨⟨c, k⟩, hDefined, hEq⟩
  rcases Prod.mk.inj hEq with ⟨hPid, hNext⟩
  exact ⟨progress, l, c, k, hLoop, hDefined, hPid, hNext⟩

end Main

end AnDbg

------------------------------------------------------------
-- Runs Of The Program
------------------------------------------------------------

namespace AnDbg

namespace Main

open BreakpointManager DebuggerCore RPCServer

variable {κ : Type}
variable [LaunchKernel κ] [MemoryControl κ] [Regset κ]
variable [HashOrder κ DBRegister] [WalkOrder κ Breakpoint]
variable [ProcFiles κ]
variable {lib : Library} {host : Host} {std : RegionSort}
variable {quote : StdString → Except StdString StdString}
variable {turns rounds : Nat} {accepts : List Accept}
variable {progress : Progress}
variable {l : Loop (Option (DebuggerCore × κ))}

/-
  In every run the debugger performs the actions of the
  requests that are carried out, in order, and does nothing
  else; they are the first requests of each client.
-/
theorem server_performs
    {s : DebuggerCore × κ}
    (hLoop :
      serverLoop host turns accepts
          ⟨server lib host std rounds quote, some s, []⟩ =
        some (progress, l)) :
    let handlers :=
      (server lib host std rounds quote).handlers
    let dones := carriedBy host handlers accepts (some s)
    List.Forall₂
        (fun done c => done <+: requests c.incoming) dones
        (clients accepts) ∧
      l.debugger =
        performAll lib.dump rounds
          (dones.flatten.filterMap (asked lib host)) s := by
  refine ⟨carriedBy_firsts _ _ _ _, ?_⟩
  rw [serverLoop_carries rfl hLoop, carryOutAll_server]
  rfl

/- The app is attached to and the breakpoint is set. -/
theorem server_performs_app :
    ∃ progress l,
      serverLoop ⟨true, 128⟩ 100 [.client appClient] appLoop =
          some (progress, l) ∧
        carriedBy ⟨true, 128⟩ appLoop.server.handlers
            [.client appClient] appLoop.debugger =
          [appPayloads] ∧
        List.Forall₂
          (fun done (c : Client) => done <+: requests c.incoming)
          [appPayloads] [appClient] ∧
        l.debugger =
          performAll appRequest.dump 0
            [.attachPackage (ascii "com.app"),
              .op (.setBreakpoint .software 0x1000)]
            (DebuggerCore.init, SimulatedTarget.fresh []) ∧
        l.debugger.isSome = true := by
  rcases serverLoop_app with
    ⟨progress, l, c, k, hLoop, hDefined, -, -⟩
  have hCarried :
      carriedBy ⟨true, 128⟩ appLoop.server.handlers
          [.client appClient] appLoop.debugger =
        [appPayloads] := by
    decide +kernel
  rcases server_performs hLoop with ⟨hPrefix, hDebugger⟩
  refine ⟨progress, l, hLoop, hCarried, ?_, ?_,
    by rw [hDefined]; rfl⟩
  · exact hCarried ▸ hPrefix
  · rw [hDebugger]
    change performAll appRequest.dump 0
      ((carriedBy ⟨true, 128⟩ appLoop.server.handlers
        [.client appClient]
        appLoop.debugger).flatten.filterMap _) _ = _
    rw [hCarried]
    rfl

/-
  In every run the tables of the debugger agree with each
  other.  No thread is probed, so that there is no free
  register and no live hardware breakpoint, and none can be
  set.
-/
theorem server_sound
    {k k' : κ}
    {c : DebuggerCore}
    (hLoop :
      serverLoop host turns accepts
          ⟨server lib host std rounds quote,
            some (DebuggerCore.init, k), []⟩ =
        some (progress, l))
    (hDefined : l.debugger = some (c, k')) :
    Reachable κ lib.dump c ∧
      Consistent c.breakpointManager ∧
      Unarmed c.breakpointManager ∧
      ∀ type ≠ BreakpointType.software,
        ∀ (address : Addr) (k : κ) (status : Status) (id : Int),
          (c.setBreakpoint type address k).result =
              .ok (status, id) →
            status.isFail = true := by
  rw [serverLoop_carries rfl hLoop, carryOutAll_server]
    at hDefined
  have hReachable : Reachable κ lib.dump c :=
    reachable_performAll .init hDefined
  have hTables := hReachable.consistent
  have hUnarmed := hReachable.unarmed
  exact ⟨hReachable, hTables, hUnarmed,
    fun type hType address k status id =>
      setBreakpoint_refused hTables hUnarmed hType⟩

/- With the app attached to and the breakpoint in it. -/
theorem server_sound_app :
    ∃ progress l c k,
      serverLoop ⟨true, 128⟩ 100 [.client appClient] appLoop =
          some (progress, l) ∧
        l.debugger = some (c, k) ∧
        c.pid = 7 ∧
        c.breakpointManager.nextBreakpointId = 2 ∧
        Reachable SimulatedTarget appRequest.dump c ∧
        Consistent c.breakpointManager ∧
        Unarmed c.breakpointManager ∧
        ∀ type ≠ BreakpointType.software,
          ∀ (address : Addr) (k : SimulatedTarget)
            (status : Status) (id : Int),
            (c.setBreakpoint type address k).result =
                .ok (status, id) →
              status.isFail = true := by
  rcases serverLoop_app with
    ⟨progress, l, c, k, hLoop, hDefined, hPid, hNext⟩
  exact ⟨progress, l, c, k, hLoop, hDefined, hPid, hNext,
    server_sound hLoop hDefined⟩

end Main

end AnDbg
