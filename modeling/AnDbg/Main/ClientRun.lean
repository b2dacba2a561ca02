import AnDbg.Main.ServerRun

/-
  A client and the program.

  What a client asks for is calls in a row, and what the
  program makes of calls in a row is actions of the debugger
  in a row.  So in every interleaving of the client's steps,
  the bytes on their way and the server's rounds, the
  debugger has performed what the first requests ask for.

  Main declarations:
    * `AnDbg.Main.client_drives`
-/

------------------------------------------------------------
-- From The Client To The Debugger
------------------------------------------------------------

namespace AnDbg

namespace Main

open BreakpointManager Conversation DebuggerCore Interleaving
open RPCClient RPCServer

variable {κ : Type}
variable [LaunchKernel κ] [MemoryControl κ] [Regset κ]
variable [HashOrder κ DBRegister] [WalkOrder κ Breakpoint]
variable [ProcFiles κ]
variable {lib : Library} {host : Host} {std : RegionSort}
variable {quote : StdString → Except StdString StdString}
variable {rounds : Nat}
variable {isUtf8 : List Byte → Bool}
variable {requests : List Request}

/- Calls in a row are actions in a row. -/
theorem final_server
    (ps : List (List Byte))
    (s : Option (DebuggerCore × κ)) :
    RemoteCalls.final
        (carryOut (server lib host std rounds quote).handlers)
        ps s =
      s.bind (performAll lib.dump rounds
        (ps.filterMap (asked lib host))) :=
  carryOutAll_server lib host std rounds quote ps s

/-
  In every state that a client and the program can reach,
  the debugger has performed, in order and each once, the
  actions of the first requests.  As long as no action was
  undefined, the client has the answers of these but for the
  last one, the tables agree, and no hardware breakpoint is
  live.
-/
theorem client_drives
    (hBound : ∀ q ∈ requests, (message q).length < 2 ^ 64)
    {k : κ}
    {c : Conversation (Option (DebuggerCore × κ))}
    (hReaches :
      Reaches
        (Step host (server lib host std rounds quote) isUtf8)
        (start requests (some (DebuggerCore.init, k))) c) :
    ∃ done lost,
      done <+: requests.map message ∧
        c.debugger =
          performAll lib.dump rounds
            (done.filterMap (asked lib host))
            (DebuggerCore.init, k) ∧
        ∀ core k', c.debugger = some (core, k') →
          AnswersOf isUtf8 c
              (RemoteCalls.resultsOf
                (carryOut
                  (server lib host std rounds quote).handlers)
                done (some (DebuggerCore.init, k))) lost ∧
            Reachable κ lib.dump core ∧
            Consistent core.breakpointManager ∧
            Unarmed core.breakpointManager := by
  rcases (refines rfl isUtf8).reaches
    (follows_start hBound isUtf8 _) hReaches with
    ⟨a, hRemote, hFollows⟩
  rcases RemoteCalls.carried_of_reaches _ hRemote with
    ⟨done, hCarried⟩
  rcases hFollows.standsFor.answersOf with
    ⟨hDebugger, lost, hAnswers⟩
  have hPerformed :
      c.debugger =
        performAll lib.dump rounds
          (done.filterMap (asked lib host))
          (DebuggerCore.init, k) := by
    rw [hDebugger, hCarried.state, final_server]
    rfl
  refine ⟨done, lost, ⟨a.pending, hCarried.calls.symm⟩,
    hPerformed, ?_⟩
  intro core k' hDefined
  have hReachable : Reachable κ lib.dump core :=
    reachable_performAll .init (hPerformed.symm.trans hDefined)
  exact ⟨hCarried.results ▸ hAnswers, hReachable,
    hReachable.consistent, hReachable.unarmed⟩

/- The request that attaches to the app. -/
def attachRequest : Request where
  command := ascii "attach"
  params := .dict attachParams

/- A client that waits for the reply to its `attach`. -/
def attaching :
    Conversation (Option (DebuggerCore × SimulatedTarget)) where
  client := ⟨.recvLength [], [], []⟩
  up := Framing.frame lengthHeader (message attachRequest)
  down := []
  serving := true
  debugger := some (DebuggerCore.init, .fresh [])

/- The program takes the request that has come whole. -/
theorem client_drives_attach :
    let host : Host := ⟨true, 128⟩
    let program := server appRequest host .merge 0 .ok
    let c := attaching.served host program
    c.debugger.map (fun s => s.1.pid) = some 7 ∧
      ∃ done lost,
        done <+: [message attachRequest] ∧
          c.debugger =
            performAll appRequest.dump 0
              (done.filterMap (asked appRequest host))
              (DebuggerCore.init, SimulatedTarget.fresh []) ∧
          ∀ core k', c.debugger = some (core, k') →
            AnswersOf (fun _ => true) c
                (RemoteCalls.resultsOf
                  (carryOut program.handlers) done
                  (some (DebuggerCore.init, .fresh []))) lost ∧
              Reachable SimulatedTarget appRequest.dump core ∧
              Consistent core.breakpointManager ∧
              Unarmed core.breakpointManager := by
  intro host program c
  have hReady :
      ¬ Waits host
        (Framing.frame lengthHeader
          (message attachRequest)) := by
    rw [Waits]
    decide
  have hReaches :
      Reaches (Step host program fun _ => true)
        (start [attachRequest]
          (some (DebuggerCore.init, .fresh []))) c := by
    refine .head (.request rfl rfl) ?_
    refine .head (.send (n := 36) rfl (by decide)
      (by decide)) ?_
    exact .single (.serve rfl hReady)
  exact ⟨by decide +kernel,
    client_drives (by decide) hReaches⟩

end Main

end AnDbg
