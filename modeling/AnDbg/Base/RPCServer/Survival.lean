import AnDbg.Base.RPCServer.Serving

/-
  Whether a client can bring the server down.

  The loop goes from client to client with its connection
  fields reset, as long as every client is safe; the first
  client that is not safe ends the process.

  Main declarations:
    * `AnDbg.RPCServer.AllSafe`
    * `AnDbg.RPCServer.serverLoop_of_safe`
    * `AnDbg.RPCServer.serverLoop_of_not_safe`
    * `AnDbg.RPCServer.survives_iff`
-/

------------------------------------------------------------
-- Client After Client
------------------------------------------------------------

namespace AnDbg

namespace RPCServer

variable {σ : Type}

/- Every client is safe when its turn comes. -/
def AllSafe
    (host : Host)
    (handlers : UnorderedMap StdString (Handler σ)) :
    List Client → σ → Prop
| [], _ => True
| c :: cs, s =>
    Safe host handlers (remainder c.incoming)
        (requests c.incoming) c.outcomes s ∧
      AllSafe host handlers cs
        (after handlers (requests c.incoming) c.outcomes s)

/- A running server without a client. -/
structure Idle (r : RPCServer σ) : Prop where
  running : r.running = true
  connected : r.connected = false
  currentClientFd : r.currentClientFd = -1

variable {host : Host}
variable {r : RPCServer σ}

/- Leaving a client resets the connection fields. -/
theorem disconnect_connect
    (hIdle : Idle r)
    (fd : Nat) :
    disconnect (connect fd r) = r := by
  rcases r with
    ⟨running, connected, currentClientFd, handlers⟩
  rcases hIdle with ⟨rfl, rfl, rfl⟩
  rfl

theorem running_connect
    (hIdle : Idle r)
    (fd : Int) :
    (connect fd r).running = true := by
  rw [connect, hIdle.connected]
  exact hIdle.running

theorem handlers_connect
    (hIdle : Idle r)
    (fd : Int) :
    (connect fd r).handlers = r.handlers := by
  rw [connect, hIdle.connected]
  rfl

variable {rounds : Nat}
variable {clients : List Client}
variable {s : σ}

/- Safe clients are all served. -/
theorem serverLoop_of_safe
    (hIdle : Idle r)
    (hRounds : ∀ c ∈ clients, c.incoming.length < rounds)
    (hSafe : AllSafe host r.handlers clients s)
    (accepts : List (Bool × Int)) :
    ∃ l,
      serverLoop host rounds (clients.map .client)
          ⟨r, s, accepts⟩ =
        some (.waiting, l) ∧
        l.accepts =
          accepts ++
            List.replicate (clients.length + 1) (false, -1) := by
  induction clients generalizing s accepts with
  | nil =>
      rw [List.map_nil, serverLoop, hIdle.running,
        hIdle.connected, hIdle.currentClientFd]
      exact ⟨_, rfl, rfl⟩
  | cons c cs ih =>
      rcases hSafe with ⟨hHere, hRest⟩
      rcases List.forall_mem_cons.mp hRounds with
        ⟨hHereRounds, hRestRounds⟩
      rw [← handlers_connect hIdle c.fd] at hHere
      rcases
          handleClient_of_safe
            (k := (⟨c.incoming, c.outcomes, s, []⟩ :
              Connection σ))
            (running_connect hIdle c.fd) hHereRounds hHere
          with ⟨k, hClient, hDebugger⟩
      rw [handlers_connect hIdle c.fd] at hDebugger
      rw [← hDebugger] at hRest
      rcases
          ih hRestRounds hRest (accepts ++ [(false, -1)])
          with ⟨l, hLoop, hAccepts⟩
      refine ⟨l, ?_, ?_⟩
      · rw [List.map_cons, serverLoop, hIdle.running]
        simp only [Bool.not_true, Bool.false_eq_true, if_false,
          hClient, disconnect_connect hIdle, hIdle.connected,
          hIdle.currentClientFd, hLoop]
      · rw [hAccepts, List.append_assoc, List.length_cons,
          List.replicate_succ]
        rfl

/- The first client that is not safe ends the process. -/
theorem serverLoop_of_not_safe
    (hIdle : Idle r)
    (hRounds : ∀ c ∈ clients, c.incoming.length < rounds)
    (hSafe : ¬ AllSafe host r.handlers clients s)
    (accepts : List (Bool × Int)) :
    ∃ d l,
      serverLoop host rounds (clients.map .client)
          ⟨r, s, accepts⟩ =
        some (.died d, l) := by
  induction clients generalizing s accepts with
  | nil => exact absurd trivial hSafe
  | cons c cs ih =>
      rcases List.forall_mem_cons.mp hRounds with
        ⟨hHereRounds, hRestRounds⟩
      by_cases hHere :
          Safe host (connect c.fd r).handlers
            (remainder c.incoming) (requests c.incoming)
            c.outcomes s
      · rcases
            handleClient_of_safe
              (k := (⟨c.incoming, c.outcomes, s, []⟩ :
                Connection σ))
              (running_connect hIdle c.fd) hHereRounds hHere
            with ⟨k, hClient, hDebugger⟩
        rw [handlers_connect hIdle c.fd] at hHere hDebugger
        have hLater :
            ¬ AllSafe host r.handlers cs k.debugger := by
          rw [hDebugger]
          exact fun hRest => hSafe ⟨hHere, hRest⟩
        rcases
            ih hRestRounds hLater (accepts ++ [(false, -1)])
            with ⟨d, l, hLoop⟩
        refine ⟨d, l, ?_⟩
        rw [List.map_cons, serverLoop, hIdle.running]
        simp only [Bool.not_true, Bool.false_eq_true, if_false,
          hClient, disconnect_connect hIdle, hIdle.connected,
          hIdle.currentClientFd, hLoop]
      · rcases
            handleClient_of_not_safe
              (k := (⟨c.incoming, c.outcomes, s, []⟩ :
                Connection σ))
              (running_connect hIdle c.fd) hHereRounds hHere
            with ⟨d, k, hClient⟩
        rw [List.map_cons, serverLoop, hIdle.running]
        simp only [Bool.not_true, Bool.false_eq_true, if_false,
          hClient]
        exact ⟨d, _, rfl⟩

end RPCServer

end AnDbg

------------------------------------------------------------
-- Bringing The Server Down
------------------------------------------------------------

namespace AnDbg

namespace RPCServer

variable {σ : Type}

/-
  After a sequence of clients the server waits for another
  one, with its connection fields reset before each of them,
  exactly if every client is safe when its turn comes.
-/
theorem survives_iff
    (host : Host)
    {r : RPCServer σ}
    (hIdle : Idle r)
    {rounds : Nat}
    {clients : List Client}
    (hRounds : ∀ c ∈ clients, c.incoming.length < rounds)
    (s : σ) :
    (∃ l,
      serverLoop host rounds (clients.map .client) ⟨r, s, []⟩ =
          some (.waiting, l) ∧
        l.accepts =
          List.replicate (clients.length + 1) (false, -1)) ↔
      AllSafe host r.handlers clients s := by
  constructor
  · rintro ⟨l, hLoop, -⟩
    by_contra hUnsafe
    rcases
        serverLoop_of_not_safe hIdle hRounds hUnsafe [] with
      ⟨d, l', hDied⟩
    rw [hDied] at hLoop
    cases hLoop
  · intro hSafe
    rcases serverLoop_of_safe hIdle hRounds hSafe [] with
      ⟨l, hLoop, hAccepts⟩
    exact ⟨l, hLoop, by rw [hAccepts, List.nil_append]⟩

/- A client that asks once, and one that breaks off. -/
theorem survives_iff_ping :
    let dump : StdString → Except StdString StdString := .ok
    let r : RPCServer Unit := { new dump with running := true }
    let clients : List Client :=
      [⟨4, Framing.frame lengthHeader (ascii "ping|"), []⟩,
        ⟨4, [0#8, 0#8, 1#8], []⟩]
    ∃ l,
      serverLoop ⟨true, 64⟩ 20 (clients.map .client)
          ⟨r, (), []⟩ =
        some (.waiting, l) ∧
        l.accepts = List.replicate 3 (false, -1) := by
  intro dump r clients
  have hIdle : Idle r := ⟨rfl, rfl, rfl⟩
  have hRounds : ∀ c ∈ clients, c.incoming.length < 20 := by
    decide
  apply (survives_iff ⟨true, 64⟩ hIdle hRounds ()).mpr
  refine ⟨?_, ?_, trivial⟩
  · have hRequests :
        requests (Framing.frame lengthHeader (ascii "ping|")) =
          [ascii "ping|"] := by decide
    change Safe _ _ _ (requests (Framing.frame lengthHeader
      (ascii "ping|"))) _ _
    rw [hRequests]
    exact ⟨by decide, by decide, by decide,
      fun _ hHeader => absurd hHeader (by decide)⟩
  · intro hHeader
    exact absurd hHeader (by decide)

/-
  A length that no vector can have, and a client that is
  gone before its reply is sent.
-/
theorem brought_down :
    let dump : StdString → Except StdString StdString := .ok
    let r : RPCServer Unit := { new dump with running := true }
    let host : Host := ⟨true, 2 ^ 33⟩
    (serverLoop host 20
        [.client ⟨4, List.replicate 8 0xFF#8, []⟩]
        ⟨r, (), []⟩).map Prod.fst =
      some (.died (.uncaught .lengthError)) ∧
      (serverLoop host 20
          [.client ⟨4, Framing.frame lengthHeader
            (ascii "ping|"), [.peerGone]⟩]
          ⟨r, (), []⟩).map Prod.fst =
        some (.died .sigpipe) := by
  decide

end RPCServer

end AnDbg
