import AnDbg.Base.RPCServer.WireFormat

/-
  What a round of `handle_client` does, and what becomes of
  a client's whole stream.

  A request is the payload of the next frame.  `Safe` asks
  of the requests that the server gets to see that nothing
  the client controls ends the process: the announced
  lengths and the replies can be allocated, and nobody is
  gone when a reply is sent.  `transcript` and `after` are
  the trace and the handlers' state that answering the
  requests leaves behind.

  Main declarations:
    * `AnDbg.RPCServer.answer`
    * `AnDbg.RPCServer.Safe`
    * `AnDbg.RPCServer.handleClient_of_safe`
    * `AnDbg.RPCServer.handleClient_of_not_safe`
    * `AnDbg.RPCServer.handleClient_transcript`
-/

------------------------------------------------------------
-- Requests
------------------------------------------------------------

namespace AnDbg

namespace RPCServer

variable {σ : Type}
variable (host : Host)
variable (handlers : UnorderedMap StdString (Handler σ))

/- The response to a payload, with the calls made for it. -/
def answer
    (p : List Byte)
    (s : σ) : Message × List Event × σ :=
  respond handlers (deserializeMessage p) s

/- The payload of the reply. -/
def replyTo
    (p : List Byte)
    (s : σ) : List Byte :=
  serializeMessage (answer handlers p s).1

/- The frame of the reply, as it is written to the trace. -/
def replied
    (p : List Byte)
    (s : σ) : Event :=
  .sent (Framing.frame lengthHeader (replyTo handlers p s))

/- How the sending of a reply ends. -/
def delivered
    (p : List Byte)
    (outcomes : List SendOutcome)
    (s : σ) : Bool :=
  (outcomes.headD .delivered).delivers
    (8 + (replyTo handlers p s).length)

/- Nothing that the client controls ends the process. -/
def Safe
    (tail : List Byte) :
    List (List Byte) → List SendOutcome → σ → Prop
| [], _, _ =>
    8 ≤ tail.length →
      Fits host (Framing.announced lengthHeader tail)
| p :: ps, outcomes, s =>
    Fits host p.length ∧
      Fits host (8 + (replyTo handlers p s).length) ∧
      outcomes.headD .delivered ≠ .peerGone ∧
      (delivered handlers p outcomes s = true →
        Safe tail ps outcomes.tail (answer handlers p s).2.2)

/- Whether a client is safe can be computed. -/
instance decidableSafe
    (tail : List Byte) :
    (ps : List (List Byte)) → (outcomes : List SendOutcome) →
      (s : σ) →
        Decidable (Safe host handlers tail ps outcomes s)
| [], _, _ => inferInstanceAs (Decidable (_ → _))
| p :: ps, outcomes, s =>
    have :=
      decidableSafe tail ps outcomes.tail
        (answer handlers p s).2.2
    inferInstanceAs (Decidable (_ ∧ _ ∧ _ ∧ (_ → _)))

/- The handlers' state when the client is left. -/
def after :
    List (List Byte) → List SendOutcome → σ → σ
| [], _, s => s
| p :: ps, outcomes, s =>
    if delivered handlers p outcomes s then
      after ps outcomes.tail (answer handlers p s).2.2
    else
      (answer handlers p s).2.2

/- The trace that answering every request leaves behind. -/
def transcript : List (List Byte) → σ → List Event
| [], _ => []
| p :: ps, s =>
    (answer handlers p s).2.1 ++ [replied handlers p s] ++
      transcript ps (answer handlers p s).2.2

end RPCServer

end AnDbg

------------------------------------------------------------
-- One Round
------------------------------------------------------------

namespace AnDbg

namespace RPCServer

variable {σ : Type}
variable {host : Host}
variable {r : RPCServer σ}
variable {k : Connection σ}
variable {p rest : List Byte}

theorem handleRequest_of_none
    (hRunning : r.running = true)
    (hNone :
      Framing.nextFrame lengthHeader k.incoming = none)
    (hFits :
      8 ≤ k.incoming.length →
        Fits host
          (Framing.announced lengthHeader k.incoming)) :
    ∃ rest,
      handleRequest host r k =
        (.leave, { k with incoming := rest }) := by
  rcases readMessage_of_none hNone hFits with ⟨rest, hRead⟩
  refine ⟨rest, ?_⟩
  rw [handleRequest, hRunning, hRead]
  rfl

theorem handleRequest_of_not_fits
    (hRunning : r.running = true)
    (hHeader : 8 ≤ k.incoming.length)
    (hFits :
      ¬ Fits host
        (Framing.announced lengthHeader k.incoming)) :
    ∃ d k',
      handleRequest host r k = (.die d, k') ∧
        k'.debugger = k.debugger := by
  rcases readMessage_of_not_fits hHeader hFits with
    ⟨e, rest, hRead⟩
  refine ⟨.uncaught e, { k with incoming := rest }, ?_, rfl⟩
  rw [handleRequest, hRunning, hRead]
  rfl

/- The connection when the response to a request is found. -/
def called
    (handlers : UnorderedMap StdString (Handler σ))
    (p rest : List Byte)
    (k : Connection σ) : Connection σ where
  incoming := rest
  outcomes := k.outcomes
  debugger := (answer handlers p k.debugger).2.2
  trace := k.trace ++ (answer handlers p k.debugger).2.1

/- A request is answered before its reply is sent. -/
theorem handleRequest_of_nextFrame
    (hRunning : r.running = true)
    (hNext :
      Framing.nextFrame lengthHeader k.incoming =
        some (p, rest))
    (hFits : Fits host p.length) :
    handleRequest host r k =
      match sendMessage host
          (replyTo r.handlers p k.debugger)
          (called r.handlers p rest k) with
      | (.error d, k) => (.die d, k)
      | (.ok sent, k) =>
          if !sent then
            (.leave, k)
          else
            (.again, k) := by
  rcases
      Framing.eq_frame_of_nextFrame lengthHeader hNext with
    ⟨-, hNonempty, -⟩
  have hFull : p.isEmpty = false := by
    simpa using hNonempty
  rw [handleRequest, hRunning, readMessage_of_nextFrame hNext
    hFits]
  simp only [Bool.not_true, Bool.false_eq_true, if_false, hFull]
  rfl

theorem handleRequest_of_delivered
    (hRunning : r.running = true)
    (hNext :
      Framing.nextFrame lengthHeader k.incoming =
        some (p, rest))
    (hFits : Fits host p.length)
    (hReply :
      Fits host (8 + (replyTo r.handlers p k.debugger).length))
    (hDelivered :
      delivered r.handlers p k.outcomes k.debugger = true) :
    handleRequest host r k =
      (.again,
        ⟨rest, k.outcomes.tail,
          (answer r.handlers p k.debugger).2.2,
          k.trace ++ (answer r.handlers p k.debugger).2.1 ++
            [replied r.handlers p k.debugger]⟩) := by
  rw [handleRequest_of_nextFrame hRunning hNext hFits,
    sendMessage_of_delivers (k := called r.handlers p rest k)
      hReply hDelivered]
  rfl

theorem handleRequest_of_not_delivered
    (hRunning : r.running = true)
    (hNext :
      Framing.nextFrame lengthHeader k.incoming =
        some (p, rest))
    (hFits : Fits host p.length)
    (hReply :
      Fits host (8 + (replyTo r.handlers p k.debugger).length))
    (hPeer : k.outcomes.headD .delivered ≠ .peerGone)
    (hDelivered :
      delivered r.handlers p k.outcomes k.debugger = false) :
    ∃ k',
      handleRequest host r k = (.leave, k') ∧
        k'.debugger =
          (answer r.handlers p k.debugger).2.2 := by
  rcases
      sendMessage_of_not_delivers
        (k := called r.handlers p rest k)
        hReply hDelivered hPeer with
    ⟨trace, hSend⟩
  rw [handleRequest_of_nextFrame hRunning hNext hFits, hSend]
  exact ⟨_, rfl, rfl⟩

theorem handleRequest_dies
    (hRunning : r.running = true)
    (hNext :
      Framing.nextFrame lengthHeader k.incoming =
        some (p, rest))
    (hFits : Fits host p.length)
    (hDies :
      ¬ Fits host
          (8 + (replyTo r.handlers p k.debugger).length) ∨
        k.outcomes.headD .delivered = .peerGone) :
    ∃ d k',
      handleRequest host r k = (.die d, k') ∧
        k'.debugger =
          (answer r.handlers p k.debugger).2.2 := by
  rcases
      sendMessage_dies
        (k := called r.handlers p rest k)
        hDies with
    ⟨d, k', hSend, hDebugger⟩
  rw [handleRequest_of_nextFrame hRunning hNext hFits, hSend]
  exact ⟨d, k', rfl, hDebugger⟩

end RPCServer

end AnDbg

------------------------------------------------------------
-- A Client's Whole Stream
------------------------------------------------------------

namespace AnDbg

namespace RPCServer

variable {σ : Type}
variable {host : Host}
variable {r : RPCServer σ}

/- The requests of a stream. -/
def requests (stream : List Byte) : List (List Byte) :=
  (Framing.split lengthHeader stream).1

/- What follows the last request. -/
def remainder (stream : List Byte) : List Byte :=
  (Framing.split lengthHeader stream).2

section

variable {stream p rest : List Byte}

theorem requests_of_none
    (hNone : Framing.nextFrame lengthHeader stream = none) :
    requests stream = [] ∧ remainder stream = stream := by
  rw [requests, remainder, Framing.split_of_none _ hNone]
  exact ⟨rfl, rfl⟩

theorem requests_of_some
    (hNext :
      Framing.nextFrame lengthHeader stream =
        some (p, rest)) :
    requests stream = p :: requests rest ∧
      remainder stream = remainder rest := by
  rw [requests, remainder, Framing.split_of_some _ hNext]
  exact ⟨rfl, rfl⟩

/- A header announces the frame that follows it. -/
theorem announced_of_nextFrame
    (hNext :
      Framing.nextFrame lengthHeader stream =
        some (p, rest)) :
    8 ≤ stream.length ∧
      Framing.announced lengthHeader stream = p.length := by
  rcases
      Framing.eq_frame_of_nextFrame lengthHeader hNext with
    ⟨rfl, hPayload⟩
  constructor
  · rw [List.length_append, Framing.length_frame,
      size_lengthHeader]
    omega
  · exact Framing.announced_frame lengthHeader hPayload.2 rest

end

/- A safe client is served until it is left. -/
theorem handleClient_of_safe
    (hRunning : r.running = true)
    {rounds : Nat}
    {k : Connection σ}
    (hRounds : k.incoming.length < rounds)
    (hSafe :
      Safe host r.handlers (remainder k.incoming)
        (requests k.incoming) k.outcomes k.debugger) :
    ∃ k',
      handleClient host r rounds k = some (.ok (), k') ∧
        k'.debugger =
          after r.handlers (requests k.incoming) k.outcomes
            k.debugger := by
  induction rounds generalizing k with
  | zero => omega
  | succ rounds ih =>
      cases hNext :
          Framing.nextFrame lengthHeader k.incoming with
      | none =>
          rcases requests_of_none hNext with
            ⟨hRequests, hRemainder⟩
          rw [hRequests, hRemainder] at hSafe
          rcases
              handleRequest_of_none hRunning hNext hSafe
              with ⟨rest, hRound⟩
          rw [handleClient, hRound, hRequests]
          exact ⟨_, rfl, rfl⟩
      | some front =>
          rcases front with ⟨p, rest⟩
          rcases requests_of_some hNext with
            ⟨hRequests, hRemainder⟩
          rw [hRequests, hRemainder] at hSafe
          rcases hSafe with ⟨hFits, hReply, hPeer, hRest⟩
          rw [hRequests, after]
          cases hDelivered :
              delivered r.handlers p k.outcomes k.debugger with
          | true =>
              have hLt :=
                Framing.length_lt_of_nextFrame _ hNext
              rw [handleClient, handleRequest_of_delivered
                hRunning hNext hFits hReply hDelivered]
              exact ih
                (show rest.length < rounds by omega)
                (hRest hDelivered)
          | false =>
              rcases
                  handleRequest_of_not_delivered hRunning hNext
                    hFits hReply hPeer hDelivered with
                ⟨k', hRound, hDebugger⟩
              rw [handleClient, hRound]
              exact ⟨k', rfl, hDebugger⟩

/- A client that is not safe brings the process down. -/
theorem handleClient_of_not_safe
    (hRunning : r.running = true)
    {rounds : Nat}
    {k : Connection σ}
    (hRounds : k.incoming.length < rounds)
    (hSafe :
      ¬ Safe host r.handlers (remainder k.incoming)
        (requests k.incoming) k.outcomes k.debugger) :
    ∃ d k',
      handleClient host r rounds k = some (.error d, k') := by
  induction rounds generalizing k with
  | zero => omega
  | succ rounds ih =>
      cases hNext :
          Framing.nextFrame lengthHeader k.incoming with
      | none =>
          rcases requests_of_none hNext with
            ⟨hRequests, hRemainder⟩
          rw [hRequests, hRemainder, Safe,
            Classical.not_imp] at hSafe
          rcases
              handleRequest_of_not_fits hRunning hSafe.1 hSafe.2
              with ⟨d, k', hRound, -⟩
          rw [handleClient, hRound]
          exact ⟨d, k', rfl⟩
      | some front =>
          rcases front with ⟨p, rest⟩
          rcases requests_of_some hNext with
            ⟨hRequests, hRemainder⟩
          rcases announced_of_nextFrame hNext with
            ⟨hHeader, hAnnounced⟩
          rw [hRequests, hRemainder, Safe] at hSafe
          by_cases hFits : Fits host p.length
          · by_cases hDies :
                ¬ Fits host (8 +
                    (replyTo r.handlers p k.debugger).length) ∨
                  k.outcomes.headD .delivered = .peerGone
            · rcases
                  handleRequest_dies hRunning hNext hFits hDies
                  with ⟨d, k', hRound, -⟩
              rw [handleClient, hRound]
              exact ⟨d, k', rfl⟩
            · rcases not_or.mp hDies with ⟨hReply, hPeer⟩
              have hLt :=
                Framing.length_lt_of_nextFrame _ hNext
              have hLater :
                  ¬ (delivered r.handlers p k.outcomes
                        k.debugger = true →
                      Safe host r.handlers (remainder rest)
                        (requests rest) k.outcomes.tail
                        (answer r.handlers p
                          k.debugger).2.2) :=
                fun hRest => hSafe
                  ⟨hFits, not_not.mp hReply, hPeer, hRest⟩
              rcases Classical.not_imp.mp hLater with
                ⟨hDelivered, hUnsafe⟩
              rw [handleClient, handleRequest_of_delivered
                hRunning hNext hFits (not_not.mp hReply)
                hDelivered]
              exact ih (show rest.length < rounds by omega)
                hUnsafe
          · rw [← hAnnounced] at hFits
            rcases
                handleRequest_of_not_fits hRunning hHeader hFits
                with ⟨d, k', hRound, -⟩
            rw [handleClient, hRound]
            exact ⟨d, k', rfl⟩

/- With every reply delivered, every request is answered. -/
theorem handleClient_transcript
    (hRunning : r.running = true)
    {rounds : Nat}
    {stream : List Byte}
    (hRounds : stream.length < rounds)
    {s : σ}
    (hSafe :
      Safe host r.handlers (remainder stream)
        (requests stream) [] s)
    (trace : List Event) :
    ∃ rest,
      handleClient host r rounds ⟨stream, [], s, trace⟩ =
        some (.ok (),
          ⟨rest, [], after r.handlers (requests stream) [] s,
            trace ++
              transcript r.handlers (requests stream) s⟩) := by
  induction rounds generalizing stream s trace with
  | zero => omega
  | succ rounds ih =>
      cases hNext : Framing.nextFrame lengthHeader stream with
      | none =>
          rcases requests_of_none hNext with
            ⟨hRequests, hRemainder⟩
          rw [hRequests, hRemainder] at hSafe
          rcases
              handleRequest_of_none
                (k := (⟨stream, [], s, trace⟩ : Connection σ))
                hRunning hNext hSafe with
            ⟨rest, hRound⟩
          rw [handleClient, hRound, hRequests, transcript,
            List.append_nil]
          exact ⟨rest, rfl⟩
      | some front =>
          rcases front with ⟨p, rest⟩
          rcases requests_of_some hNext with
            ⟨hRequests, hRemainder⟩
          have hLt := Framing.length_lt_of_nextFrame _ hNext
          rw [hRequests, hRemainder] at hSafe
          rcases hSafe with ⟨hFits, hReply, -, hRest⟩
          have hRound :=
            handleRequest_of_delivered
              (k := (⟨stream, [], s, trace⟩ : Connection σ))
              hRunning hNext hFits hReply rfl
          rw [handleClient, hRound, hRequests, transcript,
            ← List.append_assoc, ← List.append_assoc]
          exact ih (by omega) (hRest rfl) _

end RPCServer

end AnDbg
