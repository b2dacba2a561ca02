import AnDbg.Base.RPCServer.Serving

/-
  Which requests a run of the server carries out.

  The stream of a client, how the sending of the replies
  ends and the state that its turn finds say which: one
  request after the other, until the reply to one is not
  sent whole or the length of one cannot be allocated.
  Whatever the clients do, the handlers' state is what these
  requests make of it, client after client.

  Main declarations:
    * `AnDbg.RPCServer.carryOutAll`
    * `AnDbg.RPCServer.carriedOut`
    * `AnDbg.RPCServer.Carries`
    * `AnDbg.RPCServer.handleClient_carries`
    * `AnDbg.RPCServer.carriedBy`
    * `AnDbg.RPCServer.serverLoop_carries`
-/

------------------------------------------------------------
-- The Requests Of A Client
------------------------------------------------------------

namespace AnDbg

namespace RPCServer

variable {σ : Type}
variable {handlers : UnorderedMap StdString (Handler σ)}
variable {p : List Byte} {outcomes : List SendOutcome} {s : σ}

/- The handlers' state behind some requests. -/
def carryOutAll
    (handlers : UnorderedMap StdString (Handler σ))
    (ps : List (List Byte))
    (s : σ) : σ :=
  ps.foldl (fun s p => (answer handlers p s).2.2) s

/- The state is what the handler that is found leaves. -/
theorem state_respond
    (handlers : UnorderedMap StdString (Handler σ))
    (message : Message)
    (s : σ) :
    (respond handlers message s).2.2 =
      match handlers.lookup message.command with
      | none => s
      | some handler => (handler message.content s).2 := by
  rw [respond]
  cases handlers.lookup message.command with
  | none => rfl
  | some handler =>
      dsimp only
      rcases handler message.content s with
        ⟨what | status, s'⟩
      · rfl
      · rfl

/- The server goes on to read the request after this one. -/
def GoesOn
    (host : Host)
    (handlers : UnorderedMap StdString (Handler σ))
    (p : List Byte)
    (outcomes : List SendOutcome)
    (s : σ) : Prop :=
  Fits host (8 + (replyTo handlers p s).length) ∧
    delivered handlers p outcomes s = true

instance
    (host : Host)
    (handlers : UnorderedMap StdString (Handler σ))
    (p : List Byte)
    (outcomes : List SendOutcome)
    (s : σ) :
    Decidable (GoesOn host handlers p outcomes s) :=
  inferInstanceAs (Decidable (_ ∧ _))

/- The requests that are carried out, of those that come. -/
def carriedOut
    (host : Host)
    (handlers : UnorderedMap StdString (Handler σ)) :
    List (List Byte) → List SendOutcome → σ → List (List Byte)
| [], _, _ => []
| p :: ps, outcomes, s =>
    if Fits host p.length then
      p ::
        (if GoesOn host handlers p outcomes s then
          carriedOut host handlers ps outcomes.tail
            (answer handlers p s).2.2
        else
          [])
    else
      []

/- They are the first ones. -/
theorem carriedOut_firsts
    (host : Host)
    (handlers : UnorderedMap StdString (Handler σ))
    (ps : List (List Byte))
    (outcomes : List SendOutcome)
    (s : σ) :
    carriedOut host handlers ps outcomes s <+: ps := by
  induction ps generalizing outcomes s with
  | nil => exact List.nil_prefix
  | cons p ps ih =>
      rw [carriedOut]
      split
      next =>
        rw [List.prefix_cons_inj]
        split
        next => exact ih _ _
        next => exact List.nil_prefix
      next => exact List.nil_prefix

/- A peer that is gone gets no reply. -/
theorem not_delivered_of_peerGone
    (hPeer : outcomes.headD .delivered = .peerGone) :
    delivered handlers p outcomes s = false := by
  rw [delivered, hPeer]
  rfl

end RPCServer

end AnDbg

------------------------------------------------------------
-- The Turn Of A Client
------------------------------------------------------------

namespace AnDbg

namespace RPCServer

variable {σ : Type}

/-
  What a client's turn comes to: the state is what its
  requests make of it, and the process is there behind it if
  the client is safe.
-/
structure Carries
    (host : Host)
    (handlers : UnorderedMap StdString (Handler σ))
    (k : Connection σ)
    (ending : Except Death Unit)
    (k' : Connection σ) : Prop where
  state :
    k'.debugger =
      carryOutAll handlers
        (carriedOut host handlers (requests k.incoming)
          k.outcomes k.debugger)
        k.debugger
  ends :
    ending = .ok () ↔
      Safe host handlers (remainder k.incoming)
        (requests k.incoming) k.outcomes k.debugger

variable {host : Host}
variable {handlers : UnorderedMap StdString (Handler σ)}
variable {k k' : Connection σ}
variable {p rest : List Byte}

theorem died_ne_ok
    (d : Death) : Except.error d ≠ Except.ok () := by
  intro hEq
  cases hEq

/- There is no further request. -/
theorem Carries.last
    (hNext : Framing.nextFrame lengthHeader k.incoming = none)
    (hFits :
      8 ≤ k.incoming.length →
        Fits host (Framing.announced lengthHeader k.incoming))
    (hDebugger : k'.debugger = k.debugger) :
    Carries host handlers k (.ok ()) k' := by
  rcases requests_of_none hNext with ⟨hRequests, hRemainder⟩
  constructor
  · rw [hRequests]
    exact hDebugger
  · rw [hRequests, hRemainder]
    exact iff_of_true rfl hFits

/- The announced length of the next one is too much. -/
theorem Carries.unfit
    (hHeader : 8 ≤ k.incoming.length)
    (hUnfit :
      ¬ Fits host (Framing.announced lengthHeader k.incoming))
    (d : Death)
    (hDebugger : k'.debugger = k.debugger) :
    Carries host handlers k (.error d) k' := by
  cases hNext : Framing.nextFrame lengthHeader k.incoming with
  | none =>
      rcases requests_of_none hNext with
        ⟨hRequests, hRemainder⟩
      constructor
      · rw [hRequests]
        exact hDebugger
      · rw [hRequests, hRemainder]
        exact iff_of_false (died_ne_ok d)
          fun hSafe => hUnfit (hSafe hHeader)
  | some front =>
      rcases front with ⟨p, rest⟩
      rcases requests_of_some hNext with
        ⟨hRequests, hRemainder⟩
      rw [(announced_of_nextFrame hNext).2] at hUnfit
      constructor
      · rw [hRequests, carriedOut, if_neg hUnfit]
        exact hDebugger
      · rw [hRequests, hRemainder, Safe]
        exact iff_of_false (died_ne_ok d)
          fun hSafe => hUnfit hSafe.1

section

variable
  (hNext :
    Framing.nextFrame lengthHeader k.incoming =
      some (p, rest))
variable (hFits : Fits host p.length)

include hNext hFits

/- The request is the last that is carried out. -/
theorem Carries.state_stops
    (hStops :
      ¬ GoesOn host handlers p k.outcomes k.debugger)
    (hDebugger :
      k'.debugger = (answer handlers p k.debugger).2.2) :
    k'.debugger =
      carryOutAll handlers
        (carriedOut host handlers (requests k.incoming)
          k.outcomes k.debugger)
        k.debugger := by
  rw [(requests_of_some hNext).1, carriedOut, if_pos hFits,
    if_neg hStops]
  exact hDebugger

/- The process dies of the reply. -/
theorem Carries.dies
    (hDies :
      ¬ Fits host
          (8 + (replyTo handlers p k.debugger).length) ∨
        k.outcomes.headD .delivered = .peerGone)
    (d : Death)
    (hDebugger :
      k'.debugger = (answer handlers p k.debugger).2.2) :
    Carries host handlers k (.error d) k' := by
  rcases requests_of_some hNext with ⟨hRequests, hRemainder⟩
  constructor
  · refine Carries.state_stops hNext hFits ?_ hDebugger
    rintro ⟨hReply, hDelivered⟩
    rcases hDies with hUnfit | hPeer
    · exact hUnfit hReply
    · rw [not_delivered_of_peerGone hPeer] at hDelivered
      cases hDelivered
  · rw [hRequests, hRemainder, Safe]
    refine iff_of_false (died_ne_ok d) ?_
    rintro ⟨-, hReply, hPeer, -⟩
    exact hDies.elim (· hReply) hPeer

variable
  (hReply :
    Fits host (8 + (replyTo handlers p k.debugger).length))
variable (hPeer : k.outcomes.headD .delivered ≠ .peerGone)

include hReply hPeer

/- The reply is not sent whole, and the client is left. -/
theorem Carries.left
    (hDelivered :
      delivered handlers p k.outcomes k.debugger = false)
    (hDebugger :
      k'.debugger = (answer handlers p k.debugger).2.2) :
    Carries host handlers k (.ok ()) k' := by
  rcases requests_of_some hNext with ⟨hRequests, hRemainder⟩
  constructor
  · refine Carries.state_stops hNext hFits ?_ hDebugger
    rintro ⟨-, hSent⟩
    rw [hDelivered] at hSent
    cases hSent
  · rw [hRequests, hRemainder, Safe]
    refine iff_of_true rfl ⟨hFits, hReply, hPeer, ?_⟩
    intro hSent
    rw [hDelivered] at hSent
    cases hSent

/- The reply is sent, and the turn goes on. -/
theorem Carries.again
    {k₁ : Connection σ}
    {ending : Except Death Unit}
    (hDelivered :
      delivered handlers p k.outcomes k.debugger = true)
    (hIncoming : k₁.incoming = rest)
    (hOutcomes : k₁.outcomes = k.outcomes.tail)
    (hDebugger :
      k₁.debugger = (answer handlers p k.debugger).2.2)
    (hRest : Carries host handlers k₁ ending k') :
    Carries host handlers k ending k' := by
  rcases requests_of_some hNext with ⟨hRequests, hRemainder⟩
  have hState := hRest.state
  have hEnds := hRest.ends
  rw [hIncoming, hOutcomes, hDebugger] at hState hEnds
  constructor
  · rw [hRequests, carriedOut, if_pos hFits,
      if_pos ⟨hReply, hDelivered⟩]
    exact hState
  · rw [hRequests, hRemainder, Safe]
    refine hEnds.trans ?_
    exact ⟨fun hSafe => ⟨hFits, hReply, hPeer, fun _ => hSafe⟩,
      fun hSafe => hSafe.2.2.2 hDelivered⟩

end

/- Every turn comes to this. -/
theorem handleClient_carries
    {r : RPCServer σ}
    (hRunning : r.running = true)
    {rounds : Nat}
    {ending : Except Death Unit}
    (hClient :
      handleClient host r rounds k = some (ending, k')) :
    Carries host r.handlers k ending k' := by
  induction rounds generalizing k with
  | zero => cases hClient
  | succ rounds ih =>
      rw [handleClient] at hClient
      by_cases hUnfit :
          8 ≤ k.incoming.length ∧
            ¬ Fits host
              (Framing.announced lengthHeader k.incoming)
      · rcases handleRequest_of_not_fits hRunning hUnfit.1
          hUnfit.2 with ⟨d, k₁, hRound, hDebugger⟩
        rw [hRound] at hClient
        cases hClient
        exact .unfit hUnfit.1 hUnfit.2 d hDebugger
      have hFits := not_and_not_right.mp hUnfit
      cases hNext :
          Framing.nextFrame lengthHeader k.incoming with
      | none =>
          rcases handleRequest_of_none hRunning hNext hFits
            with ⟨rest, hRound⟩
          rw [hRound] at hClient
          cases hClient
          exact .last hNext hFits rfl
      | some front =>
          rcases front with ⟨p, rest⟩
          rcases announced_of_nextFrame hNext with
            ⟨hHeader, hAnnounced⟩
          have hFits := hFits hHeader
          rw [hAnnounced] at hFits
          by_cases hDies :
              ¬ Fits host (8 +
                  (replyTo r.handlers p k.debugger).length) ∨
                k.outcomes.headD .delivered = .peerGone
          · rcases handleRequest_dies hRunning hNext hFits
              hDies with ⟨d, k₁, hRound, hDebugger⟩
            rw [hRound] at hClient
            cases hClient
            exact .dies hNext hFits hDies d hDebugger
          rcases not_or.mp hDies with ⟨hReply, hPeer⟩
          have hReply := not_not.mp hReply
          cases hDelivered :
              delivered r.handlers p k.outcomes
                k.debugger with
          | true =>
              rw [handleRequest_of_delivered hRunning hNext
                hFits hReply hDelivered] at hClient
              exact .again hNext hFits hReply hPeer hDelivered
                rfl rfl rfl (ih hClient)
          | false =>
              rcases handleRequest_of_not_delivered hRunning
                hNext hFits hReply hPeer hDelivered with
                ⟨k₁, hRound, hDebugger⟩
              rw [hRound] at hClient
              cases hClient
              exact .left hNext hFits hReply hPeer hDelivered
                hDebugger

end RPCServer

end AnDbg

------------------------------------------------------------
-- Client After Client
------------------------------------------------------------

namespace AnDbg

namespace RPCServer

variable {σ : Type}

/- The clients that are accepted, in order. -/
def clients : List Accept → List Client
| [] => []
| .client c :: accepts => c :: clients accepts
| .interrupted :: accepts => clients accepts
| .failed :: _ => []

/-
  The requests of each client that are carried out.  One
  that is not safe brings the process down, and nothing of
  those behind it is carried out.
-/
def carriedBy
    (host : Host)
    (handlers : UnorderedMap StdString (Handler σ)) :
    List Accept → σ → List (List (List Byte))
| [], _ => []
| .client c :: accepts, s =>
    let done :=
      carriedOut host handlers (requests c.incoming) c.outcomes
        s
    done ::
      (if
        Safe host handlers (remainder c.incoming)
          (requests c.incoming) c.outcomes s
      then
        carriedBy host handlers accepts
          (carryOutAll handlers done s)
      else
        (clients accepts).map fun _ => [])
| .interrupted :: accepts, s =>
    carriedBy host handlers accepts s
| .failed :: _, _ => []

/- They are the first requests of each client. -/
theorem carriedBy_firsts
    (host : Host)
    (handlers : UnorderedMap StdString (Handler σ))
    (accepts : List Accept)
    (s : σ) :
    List.Forall₂ (fun done c => done <+: requests c.incoming)
      (carriedBy host handlers accepts s) (clients accepts) := by
  induction accepts generalizing s with
  | nil => exact .nil
  | cons accept accepts ih =>
      cases accept with
      | interrupted => exact ih s
      | failed => exact .nil
      | client c =>
          rw [carriedBy, clients]
          refine .cons (carriedOut_firsts _ _ _ _ _) ?_
          split
          next => exact ih _
          next =>
            rw [List.forall₂_map_left_iff]
            exact List.forall₂_same.mpr
              fun _ _ => List.nil_prefix

variable {host : Host}

/- Clients come and go; the rest of the server stays. -/
theorem served_keeps
    (fd : Int)
    (r : RPCServer σ) :
    (connect fd r).handlers = r.handlers ∧
      (connect fd r).running = r.running := by
  rw [connect]
  split <;> exact ⟨rfl, rfl⟩

/-
  A run of the server leaves what the requests of its
  clients make of the state.
-/
theorem serverLoop_carries
    {rounds : Nat}
    {accepts : List Accept}
    {l l' : Loop σ}
    {progress : Progress}
    (hRunning : l.server.running = true)
    (hLoop :
      serverLoop host rounds accepts l = some (progress, l')) :
    l'.debugger =
      carryOutAll l.server.handlers
        (carriedBy host l.server.handlers accepts
          l.debugger).flatten
        l.debugger := by
  induction accepts generalizing l with
  | nil =>
      rw [serverLoop, hRunning] at hLoop
      cases hLoop
      rfl
  | cons accept accepts ih =>
      rw [serverLoop, hRunning, Bool.not_true,
        if_neg Bool.false_ne_true] at hLoop
      cases accept with
      | interrupted =>
          dsimp only at hLoop
          have hRest := ih (by exact hRunning) hLoop
          exact hRest
      | failed => cases hLoop; rfl
      | client c =>
          rcases served_keeps c.fd l.server with
            ⟨hHandlers, hServing⟩
          rw [hRunning] at hServing
          dsimp only at hLoop
          split at hLoop
          next => cases hLoop
          next d k hClient =>
            cases hLoop
            rcases handleClient_carries hServing hClient with
              ⟨hDebugger, hEnding⟩
            rw [hHandlers] at hDebugger hEnding
            rw [carriedBy, if_neg]
            · simpa using hDebugger
            · intro hSafe
              cases hEnding.mpr hSafe
          next k hClient =>
            rcases handleClient_carries hServing hClient with
              ⟨hDebugger, hEnding⟩
            rw [hHandlers] at hDebugger hEnding
            have hRest := ih hServing hLoop
            change l'.debugger =
              carryOutAll (connect c.fd l.server).handlers
                (carriedBy host (connect c.fd l.server).handlers
                  accepts k.debugger).flatten
                k.debugger at hRest
            rw [hHandlers, hDebugger] at hRest
            rw [carriedBy, if_pos (hEnding.mp rfl),
              List.flatten_cons, carryOutAll, List.foldl_append]
            exact hRest

end RPCServer

end AnDbg
