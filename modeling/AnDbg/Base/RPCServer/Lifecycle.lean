import AnDbg.Base.RPCServer.Survival
import AnDbg.Lib.Handles

/-
  The server from its constructor to its destructor.

  `start` listens and serves until `accept` fails, `stop`
  takes everything back, and both may be called again and
  again.  The sockets are opened and closed on the way; what
  the server holds between two calls is its listening socket
  exactly while it counts as running.

  Main declarations:
    * `AnDbg.RPCServer.serve` and `serverLoop_of_serve`
    * `AnDbg.RPCServer.Service`
    * `AnDbg.RPCServer.start`, `stop` and `live`
    * `AnDbg.RPCServer.Settled`
    * `AnDbg.RPCServer.sockets_accounted`
-/

------------------------------------------------------------
-- Sockets Of The Loop
------------------------------------------------------------

namespace AnDbg

namespace RPCServer

open Handles

variable {σ : Type}
variable (host : Host)

/- The calls of `close` in `safe_close_fd`. -/
def closes (fd : Int) : List (Change Int) :=
  if fd ≥ 0 then [.closed fd] else []

/- The calls for sockets before `handle_client`. -/
def connectEvents
    (fd : Int)
    (r : RPCServer σ) : List (Change Int) :=
  .opened fd ::
    if r.connected then closes r.currentClientFd else []

/- `server_loop` with the sockets it opens and closes. -/
def serve
    (rounds : Nat)
    (accepts : List Accept)
    (l : Loop σ)
    (events : List (Change Int)) :
    Option ((Progress × Loop σ) × List (Change Int)) :=
  if !l.server.running then
    some ((.ended, l), events)
  else
    let l := { l with
      accepts := l.accepts ++
        [(l.server.connected, l.server.currentClientFd)] }
    match accepts with
    | [] => some ((.waiting, l), events)
    | .interrupted :: accepts => serve rounds accepts l events
    | .failed :: _ => some ((.ended, l), events)
    | .client c :: accepts =>
        let r := connect c.fd l.server
        let events := events ++ connectEvents c.fd l.server
        match handleClient host r rounds
            ⟨c.incoming, c.outcomes, l.debugger, []⟩ with
        | none => none
        | some (.error d, k) =>
            some ((.died d,
              { l with server := r, debugger := k.debugger }),
              events)
        | some (.ok (), k) =>
            serve rounds accepts
              { l with
                server := disconnect r
                debugger := k.debugger }
              (events ++ closes r.currentClientFd)

/- It is the loop, whatever was opened before. -/
theorem serverLoop_of_serve
    (rounds : Nat)
    (accepts : List Accept)
    (l : Loop σ)
    (events : List (Change Int)) :
    (serve host rounds accepts l events).map Prod.fst =
      serverLoop host rounds accepts l := by
  induction accepts generalizing l events with
  | nil =>
      rw [serve, serverLoop]
      split <;> rfl
  | cons accept accepts ih =>
      rw [serve, serverLoop]
      split
      next => rfl
      next =>
        cases accept with
        | interrupted => exact ih _ _
        | failed => rfl
        | client c =>
            dsimp only
            generalize handleClient host _ rounds _ = served
            rcases served with _ | ⟨d | ⟨⟩, k⟩
            · rfl
            · rfl
            · exact ih _ _

end RPCServer

end AnDbg

------------------------------------------------------------
-- Starting And Stopping
------------------------------------------------------------

namespace AnDbg

namespace RPCServer

open Handles

variable {σ : Type}

/-
  How the calls go by which `start` comes to a listening
  socket.
-/
inductive Setup
  | noSocket
  | noOption (fd : Nat)
  | notBound (fd : Nat)
  | notListening (fd : Nat)
  | listening (fd : Nat)

/-
  The server with `server_fd_` and `port_`, the handlers'
  state, and the sockets opened and closed so far.
-/
structure Service (σ : Type) where
  server : RPCServer σ
  serverFd : Int
  port : Int
  debugger : σ
  events : List (Change Int)

/- The server as it is constructed. -/
def Service.new
    (dump : StdString → Except StdString StdString)
    (s : σ) : Service σ where
  server := RPCServer.new dump
  serverFd := -1
  port := 0
  debugger := s
  events := []

/- Why a call does not return. -/
inductive Stuck
  | waiting
  | died (d : Death)
deriving DecidableEq, Repr

/- A way of `start` to close the socket that it has opened. -/
def giveUp
    (fd : Nat)
    (w : Service σ) : Service σ :=
  { w with
    serverFd := safeCloseFd fd
    events := w.events ++ .opened (fd : Int) :: closes fd }

/-
  `start`, with what it returns unless it never returns.
  There is no result when the rounds are not enough.
-/
def start
    (host : Host)
    (rounds : Nat)
    (port : BitVec 16)
    (setup : Setup)
    (accepts : List Accept)
    (w : Service σ) : Option (Except Stuck Bool × Service σ) :=
  if w.server.running then
    some (.ok true, w)
  else
    match setup with
    | .noSocket => some (.ok false, { w with serverFd := -1 })
    | .noOption fd => some (.ok false, giveUp fd w)
    | .notBound fd => some (.ok false, giveUp fd w)
    | .notListening fd => some (.ok false, giveUp fd w)
    | .listening fd =>
        let r := { w.server with running := true }
        match serve host rounds accepts ⟨r, w.debugger, []⟩
            (w.events ++ [.opened (fd : Int)]) with
        | none => none
        | some ((progress, l), events) =>
            let w : Service σ :=
              { server := l.server
                serverFd := fd
                port := port.toNat
                debugger := l.debugger
                events := events }
            match progress with
            | .ended => some (.ok true, w)
            | .waiting => some (.error .waiting, w)
            | .died d => some (.error (.died d), w)

/- `stop`; there is no thread to wait for. -/
def stop (w : Service σ) : Service σ :=
  if !w.server.running then
    w
  else
    let w :=
      { w with
        events := w.events ++ closes w.serverFd
        serverFd := safeCloseFd w.serverFd
        server := { w.server with running := false } }
    if w.server.connected then
      { w with
        events := w.events ++ closes w.server.currentClientFd
        server :=
          { w.server with
            currentClientFd :=
              safeCloseFd w.server.currentClientFd
            connected := false } }
    else
      w

/- The calls of a program that uses the server. -/
inductive Use (σ : Type)
  | registerHandler (command : StdString) (handler : Handler σ)
  | start
      (port : BitVec 16)
      (setup : Setup)
      (accepts : List Accept)
  | stop

/- A call, with what it returns if it does return. -/
def Use.perform
    (host : Host)
    (rounds : Nat)
    (use : Use σ)
    (w : Service σ) : Option (Except Stuck Bool × Service σ) :=
  match use with
  | .registerHandler command handler =>
      some (.ok true, { w with
        server := RPCServer.registerHandler command handler
          w.server })
  | .start port setup accepts =>
      RPCServer.start host rounds port setup accepts w
  | .stop => some (.ok true, RPCServer.stop w)

/- The clients that a call may come to serve. -/
def Use.accepts : Use σ → List Accept
| .registerHandler _ _ => []
| .start _ _ accepts => accepts
| .stop => []

/- `~RPCServer`. -/
def destroy (w : Service σ) : Service σ := stop w

/-
  The calls, one after the other, up to one that does not
  return.
-/
def live
    (host : Host)
    (rounds : Nat) :
    List (Use σ) → Service σ →
      Option (Except Stuck Unit × Service σ)
| [], w => some (.ok (), w)
| use :: uses, w =>
    match use.perform host rounds w with
    | none => none
    | some (.error stuck, w) => some (.error stuck, w)
    | some (.ok _, w) => live host rounds uses w

end RPCServer

end AnDbg

------------------------------------------------------------
-- Accounts Of The Loop
------------------------------------------------------------

namespace AnDbg

namespace RPCServer

open Handles

variable {σ : Type}
variable {host : Host}
variable {r : RPCServer σ}

/- The sockets in the fields of the server. -/
def sockets
    (serverFd : Int)
    (r : RPCServer σ) : Finset Int :=
  ({serverFd, r.currentClientFd} : Finset Int).filter (0 ≤ ·)

theorem sockets_idle
    {serverFd : Int}
    (hFd : 0 ≤ serverFd)
    (hIdle : Idle r) :
    sockets serverFd r = {serverFd} := by
  unfold sockets
  rw [hIdle.currentClientFd]
  ext fd
  simp only [Finset.mem_filter, Finset.mem_insert,
    Finset.mem_singleton]
  omega

theorem sockets_connect
    {serverFd : Int}
    (hFd : 0 ≤ serverFd)
    (hIdle : Idle r)
    (fd : Nat) :
    sockets serverFd (connect fd r) =
      insert (fd : Int) {serverFd} := by
  unfold sockets connect
  rw [hIdle.connected]
  ext other
  simp only [Finset.mem_filter, Finset.mem_insert,
    Finset.mem_singleton]
  omega

/- A client that has gone leaves nothing open. -/
theorem connectEvents_closes
    (hIdle : Idle r)
    (fd : Nat) :
    connectEvents fd r = [.opened (fd : Int)] ∧
      closes (connect fd r).currentClientFd =
        [.closed (fd : Int)] := by
  unfold connectEvents closes connect
  rw [hIdle.connected]
  simp

/- With a round for each byte, a client comes to an end. -/
theorem handleClient_ends
    {rounds : Nat}
    {k : Connection σ}
    (hRounds : k.incoming.length < rounds) :
    ∃ done, handleClient host r rounds k = some done := by
  by_cases hRunning : r.running = true
  · by_cases hSafe :
        Safe host r.handlers (remainder k.incoming)
          (requests k.incoming) k.outcomes k.debugger
    · rcases handleClient_of_safe hRunning hRounds hSafe with
        ⟨k', hClient, _⟩
      exact ⟨_, hClient⟩
    · rcases handleClient_of_not_safe hRunning hRounds hSafe
        with ⟨d, k', hClient⟩
      exact ⟨_, hClient⟩
  · cases rounds with
    | zero => exact absurd hRounds (Nat.not_lt_zero _)
    | succ rounds =>
        have hLeave :
            handleRequest host r k = (.leave, k) := by
          rw [handleRequest, if_pos (by simpa using hRunning)]
        rw [handleClient, hLeave]
        exact ⟨_, rfl⟩

/- How a run of the loop accounts for its sockets. -/
structure Serves
    (serverFd : Int)
    (progress : Progress)
    (r : RPCServer σ)
    (events : List (Change Int)) : Prop where
  accounts : Accounts {serverFd} events (sockets serverFd r)
  running : r.running = true
  idle : (∀ d, progress ≠ .died d) → Idle r

variable {serverFd : Int} {progress : Progress}
variable {events : List (Change Int)}

/- Where nothing has been opened yet. -/
theorem serves_nothing
    (hFd : 0 ≤ serverFd)
    (hIdle : Idle r)
    (progress : Progress) :
    Serves serverFd progress r [] := by
  refine ⟨?_, hIdle.running, fun _ => hIdle⟩
  rw [sockets_idle hFd hIdle]
  exact .nil _

/- Where a client is being served. -/
theorem serves_client
    (hFd : 0 ≤ serverFd)
    (hIdle : Idle r)
    (fd : Nat)
    (d : Death) :
    Serves serverFd (.died d) (connect fd r)
      [.opened (fd : Int)] := by
  refine ⟨?_, running_connect hIdle fd, ?_⟩
  · rw [sockets_connect hFd hIdle]
    exact .opened _ _
  · exact fun hNever => absurd rfl (hNever d)

/- Before, a client may have come and gone. -/
theorem Serves.after_client
    (hServes : Serves serverFd progress r events)
    (fd : Int) :
    Serves serverFd progress r
      ([.opened fd, .closed fd] ++ events) :=
  ⟨(Accounts.opened_closed _ fd).append hServes.accounts,
    hServes.running, hServes.idle⟩

variable {rounds : Nat} {accepts : List Accept} {l : Loop σ}

/- The loop has noted its fields and calls `accept`. -/
def noted (l : Loop σ) : Loop σ :=
  { l with
    accepts := l.accepts ++
      [(l.server.connected, l.server.currentClientFd)] }

theorem serve_waiting
    (hRunning : l.server.running = true) :
    serve host rounds [] l events =
      some ((.waiting, noted l), events) := by
  rw [serve, hRunning]
  rfl

theorem serve_interrupted
    (hRunning : l.server.running = true) :
    serve host rounds (.interrupted :: accepts) l events =
      serve host rounds accepts (noted l) events := by
  rw [serve, hRunning]
  rfl

theorem serve_failed
    (hRunning : l.server.running = true) :
    serve host rounds (.failed :: accepts) l events =
      some ((.ended, noted l), events) := by
  rw [serve, hRunning]
  rfl

/- A client that brings the process down. -/
theorem serve_died
    {c : Client}
    {d : Death}
    {k : Connection σ}
    (hIdle : Idle l.server)
    (hClient :
      handleClient host (connect c.fd l.server) rounds
          ⟨c.incoming, c.outcomes, l.debugger, []⟩ =
        some (.error d, k)) :
    serve host rounds (.client c :: accepts) l events =
      some ((.died d,
        { noted l with
          server := connect c.fd l.server
          debugger := k.debugger }),
        events ++ [.opened (c.fd : Int)]) := by
  rw [serve, hIdle.running,
    ← (connectEvents_closes hIdle c.fd).1]
  simp only [Bool.not_true, Bool.false_eq_true, if_false,
    hClient]
  rfl

/- A client that is left. -/
theorem serve_left
    {c : Client}
    {k : Connection σ}
    (hIdle : Idle l.server)
    (hClient :
      handleClient host (connect c.fd l.server) rounds
          ⟨c.incoming, c.outcomes, l.debugger, []⟩ =
        some (.ok (), k)) :
    serve host rounds (.client c :: accepts) l events =
      serve host rounds accepts
        { noted l with debugger := k.debugger }
        (events ++
          [.opened (c.fd : Int), .closed (c.fd : Int)]) := by
  rcases connectEvents_closes hIdle c.fd with
    ⟨hOpened, hClosed⟩
  rw [serve, hIdle.running]
  simp only [Bool.not_true, Bool.false_eq_true, if_false,
    hClient, hOpened, hClosed, disconnect_connect hIdle,
    List.append_assoc]
  rfl

/- The loop, from where it waits for its first client. -/
theorem serve_spec
    (hFd : 0 ≤ serverFd)
    (hIdle : Idle l.server)
    (hRounds :
      ∀ c, .client c ∈ accepts → c.incoming.length < rounds)
    (events : List (Change Int)) :
    ∃ progress l' events',
      serve host rounds accepts l events =
          some ((progress, l'), events ++ events') ∧
        Serves serverFd progress l'.server events' := by
  have hEmpty (events : List (Change Int)) :
      events = events ++ [] :=
    (List.append_nil events).symm
  induction accepts generalizing l events with
  | nil =>
      refine ⟨.waiting, noted l, [], ?_,
        serves_nothing hFd hIdle _⟩
      rw [serve_waiting hIdle.running, ← hEmpty]
  | cons accept accepts ih =>
      have hLater :
          ∀ c, .client c ∈ accepts →
            c.incoming.length < rounds :=
        fun c hMem => hRounds c (List.mem_cons_of_mem _ hMem)
      cases accept with
      | interrupted =>
          rw [serve_interrupted hIdle.running]
          exact ih (l := noted l) hIdle hLater events
      | failed =>
          refine ⟨.ended, noted l, [], ?_,
            serves_nothing hFd hIdle _⟩
          rw [serve_failed hIdle.running, ← hEmpty]
      | client c =>
          have hEnds :
              ∃ done,
                handleClient host (connect c.fd l.server) rounds
                    ⟨c.incoming, c.outcomes, l.debugger, []⟩ =
                  some done :=
            handleClient_ends (hRounds c List.mem_cons_self)
          rcases hEnds with ⟨⟨d | ⟨⟩, k⟩, hClient⟩
          · exact ⟨.died d, _, _, serve_died hIdle hClient,
              serves_client hFd hIdle c.fd d⟩
          · rw [serve_left hIdle hClient]
            rcases ih
                (l := { noted l with debugger := k.debugger })
                hIdle hLater
                (events ++
                  [.opened (c.fd : Int), .closed (c.fd : Int)])
              with ⟨progress, l', events', hServe, hServes⟩
            refine ⟨progress, l', _, ?_,
              hServes.after_client c.fd⟩
            rw [← List.append_assoc]
            exact hServe

end RPCServer

end AnDbg

------------------------------------------------------------
-- Accounts Of The Calls
------------------------------------------------------------

namespace AnDbg

namespace RPCServer

open Handles

variable {σ : Type}
variable {host : Host}
variable {w w' : Service σ}

/- The sockets that the server holds. -/
def Service.sockets (w : Service σ) : Finset Int :=
  RPCServer.sockets w.serverFd w.server

/-
  Between two calls there is no client, and the server has a
  listening socket exactly if it counts as running.
-/
structure Settled (w : Service σ) : Prop where
  connected : w.server.connected = false
  currentClientFd : w.server.currentClientFd = -1
  serverFd_nonneg_iff :
    0 ≤ w.serverFd ↔ w.server.running = true

theorem Settled.idle
    (hSettled : Settled w)
    (hRunning : w.server.running = true) :
    Idle w.server :=
  ⟨hRunning, hSettled.connected, hSettled.currentClientFd⟩

theorem Settled.sockets_of_running
    (hSettled : Settled w)
    (hRunning : w.server.running = true) :
    w.sockets = {w.serverFd} :=
  sockets_idle (hSettled.serverFd_nonneg_iff.mpr hRunning)
    (hSettled.idle hRunning)

theorem Settled.sockets_of_not_running
    (hSettled : Settled w)
    (hRunning : w.server.running = false) :
    w.sockets = ∅ := by
  have hFd : ¬ 0 ≤ w.serverFd := by
    rw [hSettled.serverFd_nonneg_iff, hRunning]
    exact Bool.false_ne_true
  unfold Service.sockets RPCServer.sockets
  rw [hSettled.currentClientFd]
  ext fd
  simp only [Finset.mem_filter, Finset.mem_insert,
    Finset.mem_singleton, Finset.notMem_empty, iff_false]
  omega

theorem settled_new
    (dump : StdString → Except StdString StdString)
    (s : σ) :
    Settled (Service.new dump s) where
  connected := rfl
  currentClientFd := rfl
  serverFd_nonneg_iff := by
    simp [Service.new, RPCServer.new]

/- What calls do to the sockets, whether they return. -/
structure Accounted
    {α : Type}
    (w : Service σ)
    (ending : Except Stuck α)
    (w' : Service σ) : Prop where
  accounts :
    ∃ events, w'.events = w.events ++ events ∧
      Accounts w.sockets events w'.sockets
  settled : ∀ a, ending = .ok a → Settled w'

/- Calls that have nothing to do with sockets. -/
theorem accounted_of_same
    {α : Type}
    (ending : Except Stuck α)
    (hEvents : w'.events = w.events)
    (hSockets : w'.sockets = w.sockets)
    (hSettled : Settled w') :
    Accounted w ending w' := by
  refine ⟨⟨[], ?_, ?_⟩, fun _ _ => hSettled⟩
  · rw [hEvents, List.append_nil]
  · rw [hSockets]
    exact .nil _

theorem Accounted.trans
    {α β : Type}
    {a : α}
    {ending : Except Stuck β}
    {w'' : Service σ}
    (hFirst : Accounted w (.ok a) w')
    (hThen : Accounted w' ending w'') :
    Accounted w ending w'' := by
  rcases hFirst.accounts with ⟨events, hEvents, hHere⟩
  rcases hThen.accounts with ⟨events', hEvents', hLater⟩
  refine ⟨⟨events ++ events', ?_, hHere.append hLater⟩,
    hThen.settled⟩
  rw [hEvents', hEvents, List.append_assoc]

/- What `stop` does between two calls. -/
theorem stop_of_running
    (hSettled : Settled w)
    (hRunning : w.server.running = true) :
    stop w =
      { w with
        events := w.events ++ [.closed w.serverFd]
        serverFd := -1
        server := { w.server with running := false } } := by
  have hFd := hSettled.serverFd_nonneg_iff.mpr hRunning
  simp [stop, hRunning, hSettled.connected, closes,
    safeCloseFd, hFd]

/- Afterwards no socket is left. -/
theorem stop_accounted
    (hSettled : Settled w) :
    Accounted w (.ok true) (stop w) ∧
      (stop w).sockets = ∅ := by
  cases hRunning : w.server.running with
  | false =>
      have hSame : stop w = w := by
        rw [stop, hRunning]
        rfl
      rw [hSame]
      exact ⟨accounted_of_same _ rfl rfl hSettled,
        hSettled.sockets_of_not_running hRunning⟩
  | true =>
      rw [stop_of_running hSettled hRunning]
      have hStopped :
          Settled
            { w with
              events := w.events ++ [.closed w.serverFd]
              serverFd := -1
              server := { w.server with running := false } } :=
        { connected := hSettled.connected
          currentClientFd := hSettled.currentClientFd
          serverFd_nonneg_iff := by simp }
      have hNone := hStopped.sockets_of_not_running rfl
      refine ⟨⟨⟨_, rfl, ?_⟩, fun _ _ => hStopped⟩, hNone⟩
      rw [hNone, hSettled.sockets_of_running hRunning,
        ← Finset.erase_singleton w.serverFd]
      exact .closed (Finset.mem_singleton_self w.serverFd)

/- A socket that is opened and closed by `start` itself. -/
theorem giveUp_accounted
    (hSettled : Settled w)
    (hRunning : w.server.running = false)
    (fd : Nat) :
    Accounted w (.ok false) (giveUp fd w) := by
  have hStill : Settled (giveUp fd w) :=
    { connected := hSettled.connected
      currentClientFd := hSettled.currentClientFd
      serverFd_nonneg_iff := by
        simp [giveUp, safeCloseFd, hRunning] }
  refine ⟨⟨[.opened (fd : Int), .closed (fd : Int)], ?_, ?_⟩,
    fun _ _ => hStill⟩
  · simp [giveUp, closes]
  · rw [hStill.sockets_of_not_running hRunning,
      hSettled.sockets_of_not_running hRunning]
    exact .opened_closed ∅ _

/- A socket that `start` listens on while it serves. -/
theorem served_accounted
    {α : Type}
    {fd : Nat}
    {progress : Progress}
    {r : RPCServer σ}
    {events : List (Change Int)}
    (hSettled : Settled w)
    (hRunning : w.server.running = false)
    (hServes : Serves fd progress r events)
    (ending : Except Stuck α)
    (hEnding : ∀ a, ending = .ok a → progress = .ended)
    (port : Int)
    (s : σ) :
    Accounted w ending
      ⟨r, fd, port, s,
        (w.events ++ [.opened (fd : Int)]) ++ events⟩ := by
  constructor
  · refine ⟨[.opened (fd : Int)] ++ events, ?_, ?_⟩
    · exact List.append_assoc _ _ _
    · rw [hSettled.sockets_of_not_running hRunning]
      exact (Accounts.opened ∅ (fd : Int)).append
        hServes.accounts
  · intro a hDone
    have hIdle : Idle r := by
      apply hServes.idle
      rw [hEnding a hDone]
      exact fun d hDied => Progress.noConfusion hDied
    exact {
      connected := hIdle.connected
      currentClientFd := hIdle.currentClientFd
      serverFd_nonneg_iff := by simp [hIdle.running] }

/- `start`, from between two calls. -/
theorem start_accounted
    {rounds : Nat}
    {setup : Setup}
    {accepts : List Accept}
    (hSettled : Settled w)
    (hRounds :
      ∀ c, .client c ∈ accepts → c.incoming.length < rounds)
    (port : BitVec 16) :
    ∃ ending w',
      start host rounds port setup accepts w =
          some (ending, w') ∧
        Accounted w ending w' := by
  cases hRunning : w.server.running with
  | true =>
      refine ⟨.ok true, w, ?_,
        accounted_of_same _ rfl rfl hSettled⟩
      unfold start
      rw [hRunning]
      rfl
  | false =>
      unfold start
      simp only [hRunning, Bool.false_eq_true, if_false]
      cases setup with
      | noSocket =>
          have hStill : Settled { w with serverFd := -1 } :=
            { connected := hSettled.connected
              currentClientFd := hSettled.currentClientFd
              serverFd_nonneg_iff := by simp [hRunning] }
          refine ⟨_, _, rfl,
            accounted_of_same _ rfl ?_ hStill⟩
          rw [hStill.sockets_of_not_running hRunning,
            hSettled.sockets_of_not_running hRunning]
      | noOption fd =>
          exact ⟨_, _, rfl,
            giveUp_accounted hSettled hRunning fd⟩
      | notBound fd =>
          exact ⟨_, _, rfl,
            giveUp_accounted hSettled hRunning fd⟩
      | notListening fd =>
          exact ⟨_, _, rfl,
            giveUp_accounted hSettled hRunning fd⟩
      | listening fd =>
          have hIdle : Idle { w.server with running := true } :=
            ⟨rfl, hSettled.connected, hSettled.currentClientFd⟩
          have hServed :
              ∃ progress l events,
                serve host rounds accepts
                    ⟨{ w.server with running := true },
                      w.debugger, []⟩
                    (w.events ++ [.opened (fd : Int)]) =
                  some ((progress, l),
                    (w.events ++ [.opened (fd : Int)]) ++
                      events) ∧
                  Serves fd progress l.server events :=
            serve_spec (Int.natCast_nonneg fd) hIdle hRounds _
          rcases hServed with
            ⟨progress, l, events, hServe, hServes⟩
          simp only [hServe]
          cases progress with
          | ended =>
              exact ⟨_, _, rfl,
                served_accounted hSettled hRunning hServes _
                  (fun _ _ => rfl) _ _⟩
          | waiting =>
              exact ⟨_, _, rfl,
                served_accounted hSettled hRunning hServes _
                  (fun _ hDone => by cases hDone) _ _⟩
          | died d =>
              exact ⟨_, _, rfl,
                served_accounted hSettled hRunning hServes _
                  (fun _ hDone => by cases hDone) _ _⟩

theorem Use.perform_accounted
    {rounds : Nat}
    {use : Use σ}
    (hSettled : Settled w)
    (hRounds :
      ∀ c, .client c ∈ use.accepts →
        c.incoming.length < rounds) :
    ∃ ending w',
      use.perform host rounds w = some (ending, w') ∧
        Accounted w ending w' := by
  cases use with
  | registerHandler command handler =>
      refine ⟨_, _, rfl, accounted_of_same _ rfl rfl ?_⟩
      exact ⟨hSettled.connected, hSettled.currentClientFd,
        hSettled.serverFd_nonneg_iff⟩
  | start port setup accepts =>
      exact start_accounted hSettled hRounds port
  | stop => exact ⟨_, _, rfl, (stop_accounted hSettled).1⟩

/- Any calls, one after the other. -/
theorem live_accounted
    {rounds : Nat}
    {uses : List (Use σ)}
    (hSettled : Settled w)
    (hRounds :
      ∀ use ∈ uses, ∀ c, .client c ∈ use.accepts →
        c.incoming.length < rounds) :
    ∃ ending w',
      live host rounds uses w = some (ending, w') ∧
        Accounted w ending w' := by
  induction uses generalizing w with
  | nil =>
      exact ⟨_, _, rfl, accounted_of_same _ rfl rfl hSettled⟩
  | cons use uses ih =>
      rcases List.forall_mem_cons.mp hRounds with
        ⟨hHere, hLater⟩
      have hUse :
          ∃ ending w',
            use.perform host rounds w = some (ending, w') ∧
              Accounted w ending w' :=
        use.perform_accounted hSettled hHere
      rcases hUse with ⟨stuck | a, w₁, hPerform, hUse⟩
      · refine ⟨.error stuck, w₁, ?_, hUse.accounts, ?_⟩
        · rw [live, hPerform]
        · exact fun _ hDone => by cases hDone
      · rcases ih (hUse.settled a rfl) hLater with
          ⟨ending, w₂, hLive, hLater⟩
        refine ⟨ending, w₂, ?_, hUse.trans hLater⟩
        rw [live, hPerform]
        exact hLive

/-
  However the server is used and however the calls into the
  sockets go: as long as the kernel gives out fresh ones,
  only sockets that the server holds are closed, so none is
  closed twice, and what it holds is what its fields say.
  Once all calls have returned it listens exactly while it
  counts as running, and the destructor leaves no socket.
-/
theorem sockets_accounted
    (host : Host)
    (dump : StdString → Except StdString StdString)
    (s : σ)
    (rounds : Nat)
    (uses : List (Use σ))
    (hRounds :
      ∀ use ∈ uses, ∀ c, .client c ∈ use.accepts →
        c.incoming.length < rounds) :
    ∃ ending w,
      live host rounds uses (Service.new dump s) =
          some (ending, w) ∧
        Accounts ∅ w.events w.sockets ∧
        (ending = .ok () →
          Settled w ∧ Accounts ∅ (destroy w).events ∅) := by
  have hNew := settled_new dump s
  have hNone : (Service.new dump s).sockets = ∅ :=
    hNew.sockets_of_not_running rfl
  have hRun :
      ∃ ending w,
        live host rounds uses (Service.new dump s) =
            some (ending, w) ∧
          Accounted (Service.new dump s) ending w :=
    live_accounted hNew hRounds
  rcases hRun with ⟨ending, w, hLive, hAccounted⟩
  refine ⟨ending, w, hLive, ?_, ?_⟩
  · rcases hAccounted.accounts with ⟨events, hEvents, hFor⟩
    rw [hNone] at hFor
    rw [hEvents]
    exact hFor
  · intro hDone
    have hSettled := hAccounted.settled () hDone
    subst hDone
    rcases stop_accounted hSettled with ⟨hStop, hLeft⟩
    rcases (hAccounted.trans hStop).accounts with
      ⟨events, hEvents, hFor⟩
    rw [hNone, hLeft] at hFor
    refine ⟨hSettled, ?_⟩
    unfold destroy
    rw [hEvents]
    exact hFor

/-
  A client comes and goes, `accept` fails, the server is
  stopped and started once more with the same descriptors,
  and destroyed while it counts as running.
-/
theorem sockets_accounted_again :
    let uses : List (Use Unit) :=
      [.start 5073 (.listening 3)
          [.client ⟨4, [], []⟩, .failed],
        .stop, .start 5073 (.notBound 3) [],
        .start 5074 (.listening 3) [.failed]]
    ∃ w,
      live ⟨true, 0⟩ 1 uses (Service.new .ok ()) =
          some (.ok (), w) ∧
        w.sockets = {3} ∧
        w.server.running = true ∧
        (destroy w).events =
          [.opened 3, .opened 4, .closed 4, .closed 3,
            .opened 3, .closed 3, .opened 3, .closed 3] ∧
        ClosesHeld ∅ (destroy w).events ∧
        heldAfter ∅ (destroy w).events = ∅ := by
  intro uses
  have hRounds :
      ∀ use ∈ uses, ∀ c, .client c ∈ use.accepts →
        c.incoming.length < 1 := by
    simp [uses, Use.accepts]
  rcases sockets_accounted ⟨true, 0⟩ .ok () 1 uses hRounds with
    ⟨ending, w, hLive, -, hDestroyed⟩
  have hRun :
      (live ⟨true, 0⟩ 1 uses (Service.new .ok ())).map
          (fun (ending, w) =>
            (ending, w.sockets, w.server.running,
              (destroy w).events)) =
        some (.ok (), {3}, true,
          [.opened 3, .opened 4, .closed 4, .closed 3,
            .opened 3, .closed 3, .opened 3, .closed 3]) := rfl
  rw [hLive] at hRun
  simp only [Option.map_some, Option.some.injEq,
    Prod.mk.injEq] at hRun
  rcases hRun with ⟨rfl, hSockets, hRunning, hEvents⟩
  refine ⟨w, hLive, hSockets, hRunning, hEvents, ?_⟩
  apply (hDestroyed rfl).2
  rw [hEvents]
  simp [OpensFresh]

end RPCServer

end AnDbg
