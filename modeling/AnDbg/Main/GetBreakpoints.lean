import AnDbg.Core.DebuggerCore.Reachable
import AnDbg.Main.ReadMemory

/-
  The `get_breakpoints` command.

  Its handler lists the live breakpoints, all of them or the
  ones of a thread.  An empty list has the status of a
  failure in the debugger, which the handler passes on, so
  that a list is never empty where it is sent.

  Main declarations:
    * `AnDbg.Main.getBreakpointsHandler`
    * `AnDbg.Main.Asks`
    * `AnDbg.Main.Lists`
    * `AnDbg.Main.get_breakpoints_lists`
-/

------------------------------------------------------------
-- The Handler
------------------------------------------------------------

namespace AnDbg

/-
  The order in which a container of its values is walked; it
  is left open which one it is.
-/
class WalkOrder (κ α : Type) where
  walk : Multiset α → κ → List α
  coe_walk :
    ∀ (values : Multiset α) (k : κ),
      (walk values k : Multiset α) = values

/- `static_cast<int>` of a type. -/
def BreakpointType.toInt : BreakpointType → Int
| .software => 1
| .hardwareExecution => 2
| .hardwareWrite => 3
| .hardwareReadwrite => 4
| .other value => value

/- `push_back`; a null becomes an array. -/
def Json.pushBack (value : Json) : Json → Json
| .null => .array [value]
| .array items => .array (items ++ [value])
| other => other

namespace Main

open RPCServer WalkOrder

/-
  `get` of a `pid_t`, given the cast of a floating-point
  number to it; no number and no boolean is a type error.
-/
def toPid (castInt : StdString → Pid) : Json → Option Pid
| .integer n => some (BitVec.ofInt 32 n).toInt
| .float text => some (castInt text)
| .boolean b => some b.toInt
| _ => none

/- The object that is sent for a breakpoint. -/
def breakpointEntry (bp : Breakpoint) : Json :=
  .object
    [(ascii "address", .integer bp.address.toNat),
      (ascii "enabled", .boolean bp.enabled),
      (ascii "id", .integer bp.id),
      (ascii "tid", .integer bp.tid),
      (ascii "type", .integer bp.type.toInt)]

variable {κ : Type}
variable [WalkOrder κ Breakpoint]

/- What the handler makes of what the debugger answers. -/
def breakpointsReply
    (lib : Nlohmann)
    (k : κ)
    (answer : Status × Multiset Breakpoint) : Status :=
  if answer.1.isFail then
    answer.1
  else
    let result :=
      (walk answer.2 k).foldl
        (fun result bp =>
          Json.pushBack (breakpointEntry bp) result)
        .null
    .success (lib.dump result)

/- The handler of `get_breakpoints`. -/
def getBreakpointsHandler
    (lib : Nlohmann)
    (castInt : StdString → Pid) : Handler (DebuggerCore × κ) :=
  fun params s =>
    match lib.parse params with
    | .error what => (.error what, s)
    | .ok jsonData =>
      match jsonData.field (ascii "tid") with
      | some value =>
        match toPid castInt value with
        | none => (.error (lib.what .typeError), s)
        | some tid =>
          (.ok (breakpointsReply lib s.2
            (s.1.getBreakpointsOf tid)), s)
      | none =>
        (.ok (breakpointsReply lib s.2 s.1.getBreakpoints), s)

end Main

end AnDbg

------------------------------------------------------------
-- Lists Of Breakpoints
------------------------------------------------------------

namespace AnDbg

namespace Main

open BreakpointManager DebuggerCore RPCServer UnorderedMap

/- A breakpoint is in the table, under its id. -/
def Live (c : DebuggerCore) (bp : Breakpoint) : Prop :=
  c.breakpointManager.breakpoints.lookup bp.id = some bp

/- A JSON object says of a breakpoint what a client needs. -/
structure Describes
    (item : Json)
    (bp : Breakpoint) : Prop where
  id : item.field (ascii "id") = some (.integer bp.id)
  tid : item.field (ascii "tid") = some (.integer bp.tid)
  address :
    item.field (ascii "address") =
      some (.integer bp.address.toNat)
  type :
    item.field (ascii "type") = some (.integer bp.type.toInt)
  enabled :
    item.field (ascii "enabled") = some (.boolean bp.enabled)

/-
  A success with one entry for each breakpoint that is live
  and wanted, and with no other entry.
-/
def Lists
    (lib : Nlohmann)
    (c : DebuggerCore)
    (wanted : Breakpoint → Prop)
    (reply : Except StdString Status) : Prop :=
  ∃ (items : List Json) (bps : List Breakpoint),
    reply = .ok (.success (lib.dump (.array items))) ∧
      List.Forall₂ Describes items bps ∧
      (bps.map Breakpoint.id).Nodup ∧
      ∀ bp, bp ∈ bps ↔ Live c bp ∧ wanted bp

/- The breakpoints that a request asks for. -/
inductive Asks
    (castInt : StdString → Pid)
    (jsonData : Json) : (Breakpoint → Prop) → Prop
  | all
      (hTid : jsonData.field (ascii "tid") = none) :
      Asks castInt jsonData fun _ => True
  | ofThread
      {value : Json}
      {tid : Pid}
      (hField : jsonData.field (ascii "tid") = some value)
      (hTid : toPid castInt value = some tid) :
      Asks castInt jsonData fun bp => bp.tid = tid

theorem describes_breakpointEntry
    (bp : Breakpoint) :
    Describes (breakpointEntry bp) bp where
  id := rfl
  tid := rfl
  address := rfl
  type := rfl
  enabled := rfl

/- Values are pushed behind the ones that are there. -/
theorem foldl_pushBack_array
    {α : Type}
    (f : α → Json)
    (list : List α)
    (items : List Json) :
    list.foldl (fun result a => Json.pushBack (f a) result)
        (.array items) =
      .array (items ++ list.map f) := by
  induction list generalizing items with
  | nil => rw [List.foldl_nil, List.map_nil, List.append_nil]
  | cons a list ih =>
      rw [List.foldl_cons, Json.pushBack, ih,
        List.append_assoc]
      rfl

theorem foldl_pushBack
    {α : Type}
    {list : List α}
    (hList : list ≠ [])
    (f : α → Json) :
    list.foldl (fun result a => Json.pushBack (f a) result)
        .null =
      .array (list.map f) := by
  rcases List.exists_cons_of_ne_nil hList with ⟨a, rest, rfl⟩
  rw [List.foldl_cons, Json.pushBack, foldl_pushBack_array]
  rfl

section Replies

variable {κ : Type}
variable [WalkOrder κ Breakpoint]

theorem breakpointsReply_empty
    (lib : Nlohmann)
    (k : κ) :
    breakpointsReply lib k (breakpointList 0) =
      .fail (utf8 "get_breakpoints 失败") := by
  rfl

theorem breakpointsReply_nonempty
    {bps : Multiset Breakpoint}
    (hSome : bps ≠ 0)
    (lib : Nlohmann)
    (k : κ) :
    breakpointsReply lib k (breakpointList bps) =
      .success (lib.dump
        (.array ((WalkOrder.walk bps k).map
          breakpointEntry))) := by
  have hWalk : WalkOrder.walk bps k ≠ [] := by
    intro hNil
    apply hSome
    rw [← WalkOrder.coe_walk bps k, hNil]
    rfl
  rw [breakpointList, if_neg hSome, ← foldl_pushBack hWalk]
  rfl

/- What is sent for some of the live breakpoints. -/
theorem lists_breakpointsReply
    {c : DebuggerCore}
    {wanted : Breakpoint → Prop}
    {bps : Multiset Breakpoint}
    (hSome : bps ≠ 0)
    (hMem : ∀ bp, bp ∈ bps ↔ Live c bp ∧ wanted bp)
    (hIds : (bps.map Breakpoint.id).Nodup)
    (lib : Nlohmann)
    (k : κ) :
    Lists lib c wanted
      (.ok (breakpointsReply lib k (breakpointList bps))) := by
  have hWalk := WalkOrder.coe_walk bps k
  refine ⟨(WalkOrder.walk bps k).map breakpointEntry,
    WalkOrder.walk bps k, ?_, ?_, ?_, ?_⟩
  · rw [breakpointsReply_nonempty hSome]
  · rw [List.forall₂_map_left_iff, List.forall₂_same]
    intro bp _
    exact describes_breakpointEntry bp
  · rwa [← hWalk, Multiset.map_coe, Multiset.coe_nodup] at hIds
  · intro bp
    rw [← hMem, ← Multiset.mem_coe, hWalk]

end Replies

end Main

end AnDbg

------------------------------------------------------------
-- What Is Listed
------------------------------------------------------------

namespace AnDbg

namespace Main

open BreakpointManager DebuggerCore RPCServer UnorderedMap

variable {c : DebuggerCore} {bps : Multiset Breakpoint}

theorem mem_getBreakpoints_iff
    (hTables : Consistent c.breakpointManager)
    (bp : Breakpoint) :
    bp ∈ c.breakpointManager.getBreakpoints ↔ Live c bp := by
  rw [BreakpointManager.getBreakpoints, mem_values]
  constructor
  · rintro ⟨id, hLookup⟩
    unfold Live
    rwa [(hTables.entry id bp hLookup).keyed]
  · intro hLive
    exact ⟨bp.id, hLive⟩

/- Breakpoints that are live are told apart by their ids. -/
theorem nodup_ids
    (hNodup : bps.Nodup)
    (hLive : ∀ bp ∈ bps, Live c bp) :
    (bps.map Breakpoint.id).Nodup := by
  apply Multiset.Nodup.map_on _ hNodup
  intro bp hbp bp' hbp' hId
  have hLookup := hLive bp hbp
  have hLookup' := hLive bp' hbp'
  unfold Live at hLookup hLookup'
  rw [hId, hLookup'] at hLookup
  exact (Option.some.inj hLookup).symm

variable {κ : Type}
variable [WalkOrder κ Breakpoint]
variable {lib : Nlohmann} {castInt : StdString → Pid}
variable {params : StdString} {jsonData : Json}
variable {wanted : Breakpoint → Prop}

/- The handler sends the breakpoints that it was asked for. -/
theorem getBreakpointsHandler_of_asks
    (hTables : Consistent c.breakpointManager)
    (hParse : lib.parse params = .ok jsonData)
    (hAsks : Asks castInt jsonData wanted)
    (k : κ) :
    ∃ bps : Multiset Breakpoint,
      getBreakpointsHandler lib castInt params (c, k) =
          (.ok (breakpointsReply lib k (breakpointList bps)),
            (c, k)) ∧
        bps.Nodup ∧
        ∀ bp, bp ∈ bps ↔ Live c bp ∧ wanted bp := by
  unfold getBreakpointsHandler
  rw [hParse]
  dsimp only
  cases hAsks with
  | all hTid =>
      rw [hTid]
      refine ⟨c.breakpointManager.getBreakpoints, rfl,
        nodup_getBreakpoints hTables, ?_⟩
      intro bp
      rw [mem_getBreakpoints_iff hTables, and_true]
  | ofThread hField hTid =>
      rename_i value tid
      rw [hField]
      dsimp only
      rw [hTid]
      refine ⟨c.breakpointManager.getBreakpointsOf tid, rfl,
        ?_, ?_⟩
      · rw [getBreakpointsOf_eq_filter hTables]
        exact (nodup_getBreakpoints hTables).filter _
      · intro bp
        rw [getBreakpointsOf_eq_filter hTables,
          Multiset.mem_filter, mem_getBreakpoints_iff hTables]

/-
  In every reachable debugger the breakpoints that a request
  asks for are listed, and it fails if there are none.
-/
theorem get_breakpoints_lists
    [Kernel κ]
    [MemoryControl κ]
    [Regset κ]
    [HashOrder κ DBRegister]
    {dump : Json → StdString}
    (hReachable : Reachable κ dump c)
    (hParse : lib.parse params = .ok jsonData)
    (hAsks : Asks castInt jsonData wanted)
    (k : κ) :
    let done := getBreakpointsHandler lib castInt params (c, k)
    done.2 = (c, k) ∧
      ((∃ bp, Live c bp ∧ wanted bp) →
        Lists lib c wanted done.1) ∧
      ((¬ ∃ bp, Live c bp ∧ wanted bp) →
        done.1 =
          .ok (.fail (utf8 "get_breakpoints 失败"))) := by
  intro done
  rcases getBreakpointsHandler_of_asks hReachable.consistent
    hParse hAsks k with ⟨bps, hDone, hNodup, hMem⟩
  have hReply :
      done = (.ok (breakpointsReply lib k
        (breakpointList bps)), (c, k)) := hDone
  rw [hReply]
  refine ⟨rfl, ?_, ?_⟩
  · rintro ⟨bp, hWanted⟩
    have hSome : bps ≠ 0 := by
      intro hNone
      rw [hNone] at hMem
      exact Multiset.notMem_zero bp ((hMem bp).mpr hWanted)
    exact lists_breakpointsReply hSome hMem
      (nodup_ids hNodup fun bp hbp => ((hMem bp).mp hbp).1)
      lib k
  · intro hNone
    have hZero : bps = 0 := by
      apply Multiset.eq_zero_of_forall_notMem
      intro bp hbp
      exact hNone ⟨bp, (hMem bp).mp hbp⟩
    rw [hZero, breakpointsReply_empty]

end Main

noncomputable instance : WalkOrder SimulatedTarget Breakpoint
    where
  walk bps _ := bps.toList
  coe_walk bps _ := bps.coe_toList

namespace Main

open DebuggerCore Run

/- The text of a value that has no others in it. -/
def scalarText : Json → StdString
| .boolean b => ascii (if b then "true" else "false")
| .integer n => dec n
| .string s => ascii "\"" ++ s ++ ascii "\""
| _ => ascii "null"

/- The text of an object of such values. -/
def rowText : Json → StdString
| .object fields =>
    ascii "\x7b"
      ++ (ascii ",").intercalate
        (fields.map fun (key, value) =>
          scalarText (.string key) ++ ascii ":"
            ++ scalarText value)
      ++ ascii "\x7d"
| value => scalarText value

/- The text of a list of such objects. -/
def rowsText : Json → StdString
| .array items =>
    ascii "[" ++ (ascii ",").intercalate (items.map rowText)
      ++ ascii "]"
| value => rowText value

/- The library, for requests without a thread. -/
def emptyRequest : Nlohmann where
  parse text :=
    if text = ascii "\x7b\x7d" then
      .ok (.object [])
    else
      .error (ascii "parse error")
  dump := rowsText
  castFloat _ := 0
  what _ := []

/- A breakpoint that was set as the first. -/
def firstBreakpoint : Breakpoint where
  id := 1
  tid := 7
  address := 0x1000
  type := .software
  enabled := true
  originalInstruction := 0
  hardwareRegister := .invalid

/- A list with the one breakpoint that was set. -/
theorem get_breakpoints_lists_one :
    let ops : List Op :=
      [.attach 7, .setBreakpoint .software 0x1000]
    let s := run (step fun _ => []) ops
      (Session.start (SimulatedTarget.fresh []))
    let reply :=
      (getBreakpointsHandler emptyRequest (fun _ => 0)
        (ascii "\x7b\x7d") (s.core, s.world)).1
    Lists emptyRequest s.core (fun _ => True) reply ∧
      reply =
        .ok (.success (ascii ("[\x7b\"address\":4096,"
          ++ "\"enabled\":true,\"id\":1,\"tid\":7,"
          ++ "\"type\":1\x7d]"))) := by
  intro ops s reply
  have hReachable :
      Reachable SimulatedTarget (fun _ => []) s.core :=
    reachable_run (fun _ => []) ops (SimulatedTarget.fresh [])
  have hParse :
      emptyRequest.parse (ascii "\x7b\x7d") =
        .ok (.object []) := rfl
  have hAsks :
      Asks (fun _ => 0) (.object []) fun _ => True :=
    .all rfl
  have hReply :=
    get_breakpoints_lists hReachable hParse hAsks s.world
  have hLive : Live s.core firstBreakpoint := by
    unfold Live
    decide +kernel
  refine ⟨hReply.2.1 ⟨firstBreakpoint, hLive, trivial⟩, ?_⟩
  have hOne :
      s.core.getBreakpoints =
        breakpointList {firstBreakpoint} := by
    decide +kernel
  have hText :
      reply =
        .ok (breakpointsReply emptyRequest s.world
          s.core.getBreakpoints) := rfl
  rw [hText, hOne,
    breakpointsReply_nonempty (Multiset.singleton_ne_zero _)]
  change
    Except.ok (Status.success (rowsText
      (.array ((Multiset.toList {firstBreakpoint}).map
        breakpointEntry)))) = _
  rw [Multiset.toList_singleton]
  rfl

/-
  Where there is no breakpoint the request fails, and it
  throws where there are no parameters.
-/
theorem not_lists_empty :
    let reply (params : StdString) :=
      (getBreakpointsHandler emptyRequest (fun _ => 0) params
        (init, SimulatedTarget.fresh [])).1
    Reachable SimulatedTarget (fun _ => []) init ∧
      Asks (fun _ => 0) (.object []) (fun _ => True) ∧
      emptyRequest.parse (ascii "\x7b\x7d") =
        .ok (.object []) ∧
      ¬ Lists emptyRequest init (fun _ => True)
        (reply (ascii "\x7b\x7d")) ∧
      ¬ Lists emptyRequest init (fun _ => True) (reply []) := by
  intro reply
  refine ⟨.init, .all rfl, rfl, ?_, ?_⟩
  · rintro ⟨items, bps, hReply, -⟩
    cases hReply
  · rintro ⟨items, bps, hReply, -⟩
    cases hReply

end Main

end AnDbg
