import AnDbg.Base.RPCServer.Serving
import AnDbg.Client.RPCClient

/-
  A client and the server at the two ends of a connection.

  The bytes of a direction arrive in the order in which they
  were sent, in pieces of any size, and the two parties take
  their steps in any order.  The server is in its loop or
  gone; a round of the loop that waits in `recv` is no step.

  Main declarations:
    * `AnDbg.Conversation` and `AnDbg.Conversation.Step`
    * `AnDbg.Conversation.Round`
    * `AnDbg.Conversation.round_served`
-/

------------------------------------------------------------
-- Both Ends Of A Connection
------------------------------------------------------------

namespace AnDbg

open RPCServer

/-
  The client, the bytes on their way up to the server and
  down to the client, whether the server is in its loop, and
  the state that its handlers share.
-/
structure Conversation (σ : Type) where
  client : RPCClient
  up : List Byte
  down : List Byte
  serving : Bool
  debugger : σ

namespace Conversation

variable {σ : Type}

/- A client has connected and the server has accepted. -/
def start
    (requests : List RPCClient.Request)
    (s : σ) : Conversation σ where
  client := .connected requests
  up := []
  down := []
  serving := true
  debugger := s

variable (host : Host)
variable (r : RPCServer σ)
variable (isUtf8 : List Byte → Bool)

/-
  A call of `recv` in the coming round of `handle_client`
  does not return yet.
-/
def Waits (up : List Byte) : Prop :=
  up.length < 8 ∨
    Fits host (netLength host (up.take 8)) ∧
      up.length < 8 + netLength host (up.take 8)

/- After the coming round of `handle_client`. -/
def served (c : Conversation σ) : Conversation σ :=
  let (turn, k) :=
    handleRequest host r ⟨c.up, [], c.debugger, []⟩
  { c with
    up := k.incoming
    down := c.down ++ wire k.trace
    serving := decide (turn = .again)
    debugger := k.debugger }

/-
  A step of one of the two parties.  What the client sends
  or receives at once is any number of bytes that is not
  zero.  Where the server is gone, any call of the client
  may fail.
-/
inductive Step : Conversation σ → Conversation σ → Prop
  | request
      {c : Conversation σ}
      {request : RPCClient.Request}
      {requests : List RPCClient.Request}
      (hPlace : c.client.place = .idle)
      (hNext : c.client.requests = request :: requests) :
      Step c
        { c with
          client := c.client.sendCommand request requests }
  | send
      {c : Conversation σ}
      {data : List Byte}
      {n : Nat}
      (hPlace : c.client.place = .sendall data)
      (hPos : 0 < n)
      (hLe : n ≤ data.length) :
      Step c
        { c with
          client := c.client.sent n data
          up := c.up ++ data.take n }
  | serve
      {c : Conversation σ}
      (hServing : c.serving = true)
      (hReady : ¬ Waits host c.up) :
      Step c (c.served host r)
  | receive
      {c : Conversation σ}
      {n : Nat}
      (hPos : 0 < n)
      (hDown : n ≤ c.down.length)
      (hAsked : n ≤ c.client.asked) :
      Step c
        { c with
          client := c.client.received isUtf8 (c.down.take n)
          down := c.down.drop n }
  | lose
      {c : Conversation σ}
      (hGone : c.serving = false)
      (hPlace : c.client.place ≠ .idle) :
      Step c { c with client := c.client.gaveUp }

end Conversation

end AnDbg

------------------------------------------------------------
-- A Round Of The Server
------------------------------------------------------------

namespace AnDbg

namespace Conversation

open RPCServer

variable {σ : Type}

/-
  How a round that does not wait ends.  It answers the next
  request, unless the reply cannot be allocated, or it calls
  no handler and the server is gone.
-/
inductive Round
    (host : Host)
    (r : RPCServer σ)
    (c : Conversation σ) : Conversation σ → Prop
  | answered
      {p rest : List Byte}
      (hNext :
        Framing.nextFrame lengthHeader c.up = some (p, rest))
      (hFits : Fits host p.length)
      (hReply :
        Fits host
          (8 + (replyTo r.handlers p c.debugger).length)) :
      Round host r c
        { c with
          up := rest
          down :=
            c.down ++ Framing.frame lengthHeader
              (replyTo r.handlers p c.debugger)
          serving := true
          debugger := (answer r.handlers p c.debugger).2.2 }
  | unanswered
      {p rest : List Byte}
      (hNext :
        Framing.nextFrame lengthHeader c.up = some (p, rest))
      (hFits : Fits host p.length)
      (hReply :
        ¬ Fits host
          (8 + (replyTo r.handlers p c.debugger).length)) :
      Round host r c
        { c with
          up := rest
          serving := false
          debugger := (answer r.handlers p c.debugger).2.2 }
  | refused
      (up : List Byte)
      (hRefused :
        ∀ p rest,
          Framing.nextFrame lengthHeader c.up =
              some (p, rest) →
            ¬ Fits host p.length) :
      Round host r c { c with up := up, serving := false }

variable {host : Host}
variable {r : RPCServer σ}

/- Calling a handler puts nothing on the wire. -/
theorem wire_answer
    (handlers : UnorderedMap StdString (Handler σ))
    (p : List Byte)
    (s : σ) :
    wire (answer handlers p s).2.1 = [] := by
  unfold answer respond
  split
  · rfl
  · dsimp only
    split <;> rfl

theorem wire_append
    (trace more : List Event) :
    wire (trace ++ more) = wire trace ++ wire more := by
  rw [wire, List.map_append, List.flatten_append]
  rfl

theorem round_of_fits
    (hRunning : r.running = true)
    {c : Conversation σ}
    {p rest : List Byte}
    (hNext :
      Framing.nextFrame lengthHeader c.up = some (p, rest))
    (hFits : Fits host p.length) :
    Round host r c (c.served host r) := by
  by_cases hReply :
      Fits host (8 + (replyTo r.handlers p c.debugger).length)
  · have hServed :
        c.served host r = { c with
          up := rest
          down :=
            c.down ++ Framing.frame lengthHeader
              (replyTo r.handlers p c.debugger)
          serving := true
          debugger :=
            (answer r.handlers p c.debugger).2.2 } := by
      rw [served, handleRequest_of_delivered
        (k := (⟨c.up, [], c.debugger, []⟩ : Connection σ))
        hRunning hNext hFits hReply rfl]
      dsimp only
      rw [List.nil_append, wire_append, wire_answer]
      simp [wire, replied]
    rw [hServed]
    exact .answered hNext hFits hReply
  · rcases allocate_of_not_fits hReply with ⟨e, hAllocate⟩
    have hServed :
        c.served host r = { c with
          up := rest
          serving := false
          debugger :=
            (answer r.handlers p c.debugger).2.2 } := by
      rw [served, handleRequest_of_nextFrame
        (k := (⟨c.up, [], c.debugger, []⟩ : Connection σ))
        hRunning hNext hFits, sendMessage, hAllocate]
      dsimp only [called]
      rw [List.nil_append, wire_answer, List.append_nil]
      rfl
    rw [hServed]
    exact .unanswered hNext hFits hReply

/- A round in which no message is read. -/
theorem round_of_refused
    (hRunning : r.running = true)
    {c : Conversation σ}
    (hReady : ¬ Waits host c.up)
    (hRefused :
      ∀ p rest,
        Framing.nextFrame lengthHeader c.up = some (p, rest) →
          ¬ Fits host p.length) :
    Round host r c (c.served host r) := by
  rw [Waits, not_or, Nat.not_lt] at hReady
  have hHeader := hReady.1
  by_cases hFits :
      Fits host (Framing.announced lengthHeader c.up)
  · have hNone :
        Framing.nextFrame lengthHeader c.up = none := by
      cases hNext : Framing.nextFrame lengthHeader c.up with
      | none => rfl
      | some found =>
          have hLength := (announced_of_nextFrame hNext).2
          rw [hLength] at hFits
          exact absurd hFits
            (hRefused found.1 found.2 hNext)
    rcases handleRequest_of_none
        (k := (⟨c.up, [], c.debugger, []⟩ : Connection σ))
        hRunning hNone (fun _ => hFits) with ⟨up, hLeave⟩
    have hServed :
        c.served host r =
          { c with up := up, serving := false } := by
      rw [served, hLeave]
      simp [wire]
    rw [hServed]
    exact .refused up hRefused
  · rcases readMessage_of_not_fits
        (k := (⟨c.up, [], c.debugger, []⟩ : Connection σ))
        hHeader hFits with ⟨e, up, hRead⟩
    have hServed :
        c.served host r =
          { c with up := up, serving := false } := by
      rw [served, handleRequest, hRunning, hRead]
      simp [wire]
    rw [hServed]
    exact .refused up hRefused

theorem round_served
    (hRunning : r.running = true)
    {c : Conversation σ}
    (hReady : ¬ Waits host c.up) :
    Round host r c (c.served host r) := by
  by_cases hFits :
      ∃ p rest,
        Framing.nextFrame lengthHeader c.up = some (p, rest) ∧
          Fits host p.length
  · rcases hFits with ⟨p, rest, hNext, hFits⟩
    exact round_of_fits hRunning hNext hFits
  · apply round_of_refused hRunning hReady
    intro p rest hNext hHere
    exact hFits ⟨p, rest, hNext, hHere⟩

end Conversation

end AnDbg
