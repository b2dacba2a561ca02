import AnDbg.Client.Conversation
import AnDbg.Lib.RemoteCalls

/-
  A conversation as calls that are carried out one by one.

  At any moment at most one request is between the client
  and the server.  The call is carried out when the server
  answers; before that its frame is on the way up, partly
  sent, and afterwards the frame of the reply is on the way
  down, partly received.  Once the server is gone nothing
  more is carried out or answered.

  Main declarations:
    * `AnDbg.Conversation.carryOut`
    * `AnDbg.Conversation.StandsFor`
    * `AnDbg.Conversation.refines` and
      `AnDbg.Conversation.refines_safely`
-/

------------------------------------------------------------
-- What A Conversation Stands For
------------------------------------------------------------

namespace AnDbg

namespace Conversation

open RPCServer RPCClient

variable {σ : Type}

/- A call: the reply to a message, with the handlers' state. -/
def carryOut
    (handlers : UnorderedMap StdString (Handler σ))
    (p : List Byte)
    (s : σ) : List Byte × σ :=
  (replyTo handlers p s, (answer handlers p s).2.2)

/-
  Where the two parties are between two calls or in the
  midst of one.  A call that was carried out has its result,
  though the client may not have its answer yet.
-/
inductive StandsFor
    (isUtf8 : List Byte → Bool) :
    Conversation σ →
      RemoteCalls (List Byte) (List Byte) σ → Prop
  | idle
      (requests : List Request)
      (results : List (List Byte))
      (s : σ) :
      StandsFor isUtf8
        ⟨⟨.idle, requests, results.map (decoded isUtf8)⟩,
          [], [], true, s⟩
        ⟨requests.map message, s, results⟩
  | sending
      (request : Request)
      (requests : List Request)
      (results : List (List Byte))
      (s : σ)
      {up data : List Byte}
      (hFrame :
        up ++ data =
          Framing.frame lengthHeader (message request))
      (hData : data ≠ []) :
      StandsFor isUtf8
        ⟨⟨.sendall data, requests,
            results.map (decoded isUtf8)⟩,
          up, [], true, s⟩
        ⟨message request :: requests.map message, s, results⟩
  | waiting
      (request : Request)
      (requests : List Request)
      (results : List (List Byte))
      (s : σ) :
      StandsFor isUtf8
        ⟨⟨.recvLength [], requests,
            results.map (decoded isUtf8)⟩,
          Framing.frame lengthHeader (message request), [],
          true, s⟩
        ⟨message request :: requests.map message, s, results⟩
  | length
      (requests : List Request)
      (results : List (List Byte))
      (s : σ)
      {reply got down : List Byte}
      (hFrame :
        got ++ down = Framing.frame lengthHeader reply)
      (hGot : got.length < 8)
      (hBound : reply.length < 2 ^ 64) :
      StandsFor isUtf8
        ⟨⟨.recvLength got, requests,
            results.map (decoded isUtf8)⟩,
          [], down, true, s⟩
        ⟨requests.map message, s, results ++ [reply]⟩
  | response
      (requests : List Request)
      (results : List (List Byte))
      (s : σ)
      {got down : List Byte}
      (hDown : down ≠ []) :
      StandsFor isUtf8
        ⟨⟨.recvResponse (got ++ down).length got, requests,
            results.map (decoded isUtf8)⟩,
          [], down, true, s⟩
        ⟨requests.map message, s, results ++ [got ++ down]⟩
  | gone
      (place : Place)
      (requests : List Request)
      (up : List Byte)
      (pending : List (List Byte))
      (s : σ)
      {delivered results : List (List Byte)}
      (lost : Nat)
      (hDelivered : delivered <+: results)
      (hResults : results.length ≤ delivered.length + 1) :
      StandsFor isUtf8
        ⟨⟨place, requests,
            delivered.map (decoded isUtf8) ++
              List.replicate lost none⟩,
          up, [], false, s⟩
        ⟨pending, s, results⟩

/- The server has just gone. -/
theorem standsFor_left
    {isUtf8 : List Byte → Bool}
    (place : Place)
    (requests : List Request)
    (up : List Byte)
    (pending : List (List Byte))
    (s : σ)
    {delivered results : List (List Byte)}
    (hDelivered : delivered <+: results)
    (hResults : results.length ≤ delivered.length + 1) :
    StandsFor isUtf8
      ⟨⟨place, requests, delivered.map (decoded isUtf8)⟩,
        up, [], false, s⟩
      ⟨pending, s, results⟩ := by
  have hGone : StandsFor isUtf8 _ ⟨pending, s, results⟩ :=
    .gone place requests up pending s 0 hDelivered hResults
  rwa [List.replicate_zero, List.append_nil] at hGone

theorem standsFor_start
    (isUtf8 : List Byte → Bool)
    (requests : List Request)
    (s : σ) :
    StandsFor isUtf8 (start requests s)
      ⟨requests.map message, s, []⟩ :=
  .idle requests [] s

end Conversation

end AnDbg

------------------------------------------------------------
-- Steps Of The Client
------------------------------------------------------------

namespace AnDbg

namespace Conversation

open RPCServer RPCClient

variable {σ : Type}
variable {isUtf8 : List Byte → Bool}
variable {c : Conversation σ}
variable {a : RemoteCalls (List Byte) (List Byte) σ}

theorem StandsFor.request
    (hStands : StandsFor isUtf8 c a)
    {request : Request}
    {requests : List Request}
    (hPlace : c.client.place = .idle)
    (hNext : c.client.requests = request :: requests) :
    StandsFor isUtf8
      { c with
        client := c.client.sendCommand request requests }
      a := by
  cases hStands with
  | idle requests' results s =>
      cases hNext
      have hMore :
          Framing.frame lengthHeader (message request) ≠ [] :=
        List.append_ne_nil_of_right_ne_nil _
          (message_ne_nil request)
      exact .sending request requests results s
        (List.nil_append _) hMore
  | gone place requests' up pending s lost hDelivered
      hResults =>
      exact .gone _ requests up pending s lost hDelivered
        hResults
  | sending => cases hPlace
  | waiting => cases hPlace
  | length => cases hPlace
  | response => cases hPlace

theorem StandsFor.send
    (hStands : StandsFor isUtf8 c a)
    {data : List Byte}
    (hPlace : c.client.place = .sendall data)
    (n : Nat) :
    StandsFor isUtf8
      { c with
        client := c.client.sent n data
        up := c.up ++ data.take n }
      a := by
  cases hStands with
  | sending request requests results s hFrame hData =>
      rename_i up data'
      cases hPlace
      have hSplit :
          (up ++ data.take n) ++ data.drop n =
            Framing.frame lengthHeader (message request) := by
        rw [List.append_assoc, List.take_append_drop, hFrame]
      rw [sent]
      by_cases hRest : data.drop n = []
      · rw [hRest, List.append_nil] at hSplit
        rw [hRest, hSplit]
        exact .waiting request requests results s
      · have hMore : (data.drop n).isEmpty = false := by
          simpa using hRest
        dsimp only
        rw [hMore]
        exact .sending request requests results s hSplit hRest
  | gone place requests up pending s lost hDelivered
      hResults =>
      exact .gone _ requests _ pending s lost hDelivered
        hResults
  | idle => cases hPlace
  | waiting => cases hPlace
  | length => cases hPlace
  | response => cases hPlace

theorem StandsFor.lose
    (hStands : StandsFor isUtf8 c a)
    (hGone : c.serving = false) :
    StandsFor isUtf8 { c with client := c.client.gaveUp } a := by
  cases hStands with
  | gone place requests up pending s lost hDelivered
      hResults =>
      rw [gaveUp, returns, List.append_assoc,
        ← List.replicate_succ']
      exact .gone .idle requests up pending s (lost + 1)
        hDelivered hResults
  | idle => cases hGone
  | sending => cases hGone
  | waiting => cases hGone
  | length => cases hGone
  | response => cases hGone

/- The length has come, and the reply is next. -/
theorem standsFor_recvResponse
    (requests : List Request)
    (results : List (List Byte))
    (s : σ)
    (reply : List Byte) :
    StandsFor isUtf8
      ⟨RPCClient.recvResponse isUtf8 reply.length []
          ⟨.recvLength [], requests,
            results.map (decoded isUtf8)⟩,
        [], reply, true, s⟩
      ⟨requests.map message, s, results ++ [reply]⟩ := by
  rw [recvResponse]
  by_cases hReply : reply = []
  · subst hReply
    rw [if_neg (Nat.lt_irrefl _), returns]
    have hAnswers :
        results.map (decoded isUtf8) ++ [decoded isUtf8 []] =
          (results ++ [[]]).map (decoded isUtf8) := by
      rw [List.map_append]
      rfl
    rw [hAnswers]
    exact .idle requests (results ++ [[]]) s
  · have hMore : ([] : List Byte).length < reply.length :=
      List.length_pos_iff.mpr hReply
    rw [if_pos hMore]
    exact @StandsFor.response σ isUtf8 requests results s []
      reply hReply

theorem StandsFor.receive
    (hStands : StandsFor isUtf8 c a)
    {n : Nat}
    (hPos : 0 < n)
    (hDown : n ≤ c.down.length)
    (hAsked : n ≤ c.client.asked) :
    StandsFor isUtf8
      { c with
        client := c.client.received isUtf8 (c.down.take n)
        down := c.down.drop n }
      a := by
  cases hStands with
  | length requests results s hFrame hGot hBound =>
      rename_i reply got down
      change n ≤ 8 - got.length at hAsked
      change n ≤ down.length at hDown
      have hSplit :
          (got ++ down.take n) ++ down.drop n =
            Framing.frame lengthHeader reply := by
        rw [List.append_assoc, List.take_append_drop, hFrame]
      have hLength :
          (got ++ down.take n).length = got.length + n := by
        rw [List.length_append, List.length_take,
          Nat.min_eq_left hDown]
      dsimp only [received]
      rw [recvLength]
      by_cases hMore : (got ++ down.take n).length < 8
      · rw [if_pos hMore]
        exact .length requests results s hSplit hMore hBound
      · rw [if_neg hMore]
        have hHeader :
            (got ++ down.take n).length =
              (lengthHeader.encode reply.length).length := by
          rw [lengthHeader.length_encode, size_lengthHeader]
          omega
        rcases List.append_inj hSplit hHeader with
          ⟨hEncoded, hReply⟩
        rw [hReply, unpack_eq, hEncoded,
          lengthHeader.decode_encode _ hBound]
        exact standsFor_recvResponse requests results s reply
  | response requests results s hMore =>
      rename_i got down
      change n ≤ down.length at hDown
      have hSplit :
          got ++ down = (got ++ down.take n) ++ down.drop n := by
        rw [List.append_assoc, List.take_append_drop]
      dsimp only [received]
      rw [recvResponse, hSplit]
      by_cases hRest : down.drop n = []
      · rw [hRest, List.append_nil, if_neg (Nat.lt_irrefl _),
          returns]
        have hAnswers :
            results.map (decoded isUtf8) ++
                [decoded isUtf8 (got ++ down.take n)] =
              (results ++ [got ++ down.take n]).map
                (decoded isUtf8) := by
          rw [List.map_append]
          rfl
        rw [hAnswers]
        exact .idle requests _ s
      · have hLength :
            ((got ++ down.take n) ++ down.drop n).length =
              (got ++ down.take n).length +
                (down.drop n).length := List.length_append
        have hShort :
            (got ++ down.take n).length <
              ((got ++ down.take n) ++ down.drop n).length := by
          rw [hLength]
          have hPos := List.length_pos_iff.mpr hRest
          omega
        rw [if_pos hShort]
        exact .response requests results s hRest
  | gone => exact absurd hPos (Nat.not_lt.mpr hDown)
  | idle => exact absurd hPos (Nat.not_lt.mpr hDown)
  | sending => exact absurd hPos (Nat.not_lt.mpr hDown)
  | waiting => exact absurd hPos (Nat.not_lt.mpr hDown)

end Conversation

end AnDbg

------------------------------------------------------------
-- Steps Of The Server
------------------------------------------------------------

namespace AnDbg

namespace Conversation

open Interleaving RPCServer RPCClient

variable {σ : Type}
variable {host : Host}
variable {r : RPCServer σ}
variable {isUtf8 : List Byte → Bool}

/- The part of a frame that has come tells its length. -/
theorem announced_part
    {p up data : List Byte}
    (hFrame : up ++ data = Framing.frame lengthHeader p)
    (hBound : p.length < 2 ^ 64)
    (hHeader : 8 ≤ up.length) :
    Framing.announced lengthHeader up = p.length := by
  have hTake : (up ++ data).take 8 = up.take 8 :=
    List.take_append_of_le_length hHeader
  rw [Framing.announced, size_lengthHeader, ← hTake, hFrame,
    ← List.append_nil (Framing.frame lengthHeader p)]
  exact Framing.announced_frame lengthHeader hBound []

/- Only an allocation that fails comes before the rest. -/
theorem not_fits_part
    {p up data : List Byte}
    (hFrame : up ++ data = Framing.frame lengthHeader p)
    (hBound : p.length < 2 ^ 64)
    (hData : data ≠ [])
    (hReady : ¬ Waits host up) :
    ¬ Fits host p.length := by
  rw [Waits, not_or, Nat.not_lt] at hReady
  rcases hReady with ⟨hHeader, hBody⟩
  have hAnnounced := announced_part hFrame hBound hHeader
  have hLength := congrArg List.length hFrame
  rw [List.length_append, Framing.length_frame,
    size_lengthHeader] at hLength
  have hMore := List.length_pos_iff.mpr hData
  rw [netLength_take host hHeader, hAnnounced] at hBody
  intro hFits
  exact hBody ⟨hFits, by omega⟩

/- The frames of a stream that holds one frame. -/
theorem nextFrame_message
    {request : Request}
    (hBound : (message request).length < 2 ^ 64) :
    Framing.nextFrame lengthHeader
        (Framing.frame lengthHeader (message request)) =
      some (message request, []) := by
  have hNext :=
    Framing.nextFrame_frame lengthHeader
      ⟨message_ne_nil request, hBound⟩ []
  rwa [List.append_nil] at hNext

/- No call of a handler can bring the server down. -/
def SafeCalls
    (host : Host)
    (r : RPCServer σ)
    (a : RemoteCalls (List Byte) (List Byte) σ) : Prop :=
  Safe host r.handlers [] a.pending [] a.state

/- A message that has come whole is answered, if it can be. -/
theorem round_waiting
    {request : Request}
    {requests : List Request}
    {results : List (List Byte)}
    {s : σ}
    {c' : Conversation σ}
    (hBound : (message request).length < 2 ^ 64)
    (hRound :
      Round host r
        ⟨⟨.recvLength [], requests,
            results.map (decoded isUtf8)⟩,
          Framing.frame lengthHeader (message request), [],
          true, s⟩
        c') :
    let a : RemoteCalls (List Byte) (List Byte) σ :=
      ⟨message request :: requests.map message, s, results⟩
    ∃ a', Reaches (RemoteCalls.Step (carryOut r.handlers)) a a' ∧
      StandsFor isUtf8 c' a' ∧
      (SafeCalls host r a →
        c'.serving = true ∧ SafeCalls host r a') := by
  intro a
  have hNext := nextFrame_message hBound
  have hCall :
      Reaches (RemoteCalls.Step (carryOut r.handlers)) a
        ⟨requests.map message,
          (carryOut r.handlers (message request) s).2,
          results ++
            [(carryOut r.handlers (message request) s).1]⟩ :=
    .single (.call _ _ _ _)
  cases hRound with
  | answered hHere hFits hReply =>
      rename_i p rest
      rw [hNext] at hHere
      cases hHere
      refine ⟨_, hCall, ?_, fun hSafe => ⟨rfl, ?_⟩⟩
      · have hReplyBound :
            (replyTo r.handlers (message request) s).length <
              2 ^ 64 := by
          have hSize :
              8 + (replyTo r.handlers (message request)
                s).length ≤ maxSize := hReply.1
          rw [maxSize] at hSize
          omega
        exact .length requests results _ (List.nil_append _)
          (by decide) hReplyBound
      · exact hSafe.2.2.2 rfl
  | unanswered hHere hFits hReply =>
      rename_i p rest
      rw [hNext] at hHere
      cases hHere
      refine ⟨_, hCall, ?_, fun hSafe => absurd hSafe.2.1 hReply⟩
      exact standsFor_left _ _ _ _ _
        (List.prefix_append results _) (by simp)
  | refused up hRefused =>
      refine ⟨a, .refl, ?_, fun hSafe =>
        absurd hSafe.1 (hRefused _ _ hNext)⟩
      exact standsFor_left _ _ _ _ _ (List.prefix_refl results)
        (Nat.le_succ _)

/- A message that comes in part is refused or waited for. -/
theorem round_sending
    {request : Request}
    {requests : List Request}
    {results : List (List Byte)}
    {s : σ}
    {up data : List Byte}
    {c' : Conversation σ}
    (hFrame :
      up ++ data =
        Framing.frame lengthHeader (message request))
    (hBound : (message request).length < 2 ^ 64)
    (hFits : ¬ Fits host (message request).length)
    (hRound :
      Round host r
        ⟨⟨.sendall data, requests,
            results.map (decoded isUtf8)⟩,
          up, [], true, s⟩
        c') :
    StandsFor isUtf8 c'
      ⟨message request :: requests.map message, s,
        results⟩ := by
  have hNone :
      ∀ p rest,
        Framing.nextFrame lengthHeader up = some (p, rest) →
          ¬ Fits host p.length := by
    intro p rest hNext
    rcases RPCServer.announced_of_nextFrame hNext with
      ⟨hHeader, hLength⟩
    rwa [← hLength, announced_part hFrame hBound hHeader]
  cases hRound with
  | answered hNext hHere => exact absurd hHere (hNone _ _ hNext)
  | unanswered hNext hHere =>
      exact absurd hHere (hNone _ _ hNext)
  | refused up' hRefused =>
      exact standsFor_left _ _ _ _ _ (List.prefix_refl results)
        (Nat.le_succ _)

theorem StandsFor.serve
    (hRunning : r.running = true)
    {c : Conversation σ}
    {a : RemoteCalls (List Byte) (List Byte) σ}
    (hStands : StandsFor isUtf8 c a)
    (hBound : ∀ p ∈ a.pending, p.length < 2 ^ 64)
    (hServing : c.serving = true)
    (hReady : ¬ Waits host c.up) :
    ∃ a', Reaches (RemoteCalls.Step (carryOut r.handlers)) a a' ∧
      StandsFor isUtf8 (c.served host r) a' ∧
      (SafeCalls host r a →
        (c.served host r).serving = true ∧
          SafeCalls host r a') := by
  have hRound := round_served hRunning hReady
  have hEmpty : c.up ≠ [] := by
    intro hNil
    apply hReady
    rw [hNil]
    exact .inl (by decide)
  cases hStands with
  | waiting request requests results s =>
      exact round_waiting (hBound _ List.mem_cons_self) hRound
  | sending request requests results s hFrame hData =>
      have hHere := hBound _ List.mem_cons_self
      have hFits := not_fits_part hFrame hHere hData hReady
      exact ⟨_, .refl, round_sending hFrame hHere hFits hRound,
        fun hSafe => absurd hSafe.1 hFits⟩
  | gone => cases hServing
  | idle => exact absurd rfl hEmpty
  | length => exact absurd rfl hEmpty
  | response => exact absurd rfl hEmpty

end Conversation

end AnDbg

------------------------------------------------------------
-- The Refinement
------------------------------------------------------------

namespace AnDbg

namespace Conversation

open Interleaving RPCServer RPCClient

variable {σ : Type}
variable {host : Host}
variable {r : RPCServer σ}
variable {isUtf8 : List Byte → Bool}

/-
  A conversation stands for calls whose lengths
  `struct.pack` can write.
-/
structure Follows
    (isUtf8 : List Byte → Bool)
    (c : Conversation σ)
    (a : RemoteCalls (List Byte) (List Byte) σ) : Prop where
  standsFor : StandsFor isUtf8 c a
  bound : ∀ p ∈ a.pending, p.length < 2 ^ 64

theorem Follows.step
    (hRunning : r.running = true)
    {c c' : Conversation σ}
    {a : RemoteCalls (List Byte) (List Byte) σ}
    (hFollows : Follows isUtf8 c a)
    (hStep : Step host r isUtf8 c c') :
    ∃ a', Reaches (RemoteCalls.Step (carryOut r.handlers)) a a' ∧
      Follows isUtf8 c' a' ∧
      (c.serving = true → SafeCalls host r a →
        c'.serving = true ∧ SafeCalls host r a') := by
  rcases hFollows with ⟨hStands, hBound⟩
  cases hStep with
  | request hPlace hNext =>
      exact ⟨a, .refl, ⟨hStands.request hPlace hNext, hBound⟩,
        fun hServing hSafe => ⟨hServing, hSafe⟩⟩
  | send hPlace hPos hLe =>
      exact ⟨a, .refl, ⟨hStands.send hPlace _, hBound⟩,
        fun hServing hSafe => ⟨hServing, hSafe⟩⟩
  | receive hPos hDown hAsked =>
      exact ⟨a, .refl,
        ⟨hStands.receive hPos hDown hAsked, hBound⟩,
        fun hServing hSafe => ⟨hServing, hSafe⟩⟩
  | lose hGone hPlace =>
      exact ⟨a, .refl, ⟨hStands.lose hGone, hBound⟩,
        fun hServing hSafe => ⟨hServing, hSafe⟩⟩
  | serve hServing hReady =>
      rcases hStands.serve hRunning hBound hServing hReady with
        ⟨a', hCalls, hThere, hSafe⟩
      have hPending :=
        RemoteCalls.pending_suffix_of_reaches _ hCalls
      exact ⟨a', hCalls,
        ⟨hThere, fun p hp => hBound p (hPending.subset hp)⟩,
        fun _ => hSafe⟩

/- Every interleaving is one of calls in a row. -/
theorem refines
    (hRunning : r.running = true)
    (isUtf8 : List Byte → Bool) :
    Refines (Step host r isUtf8)
      (RemoteCalls.Step (carryOut r.handlers))
      (Follows isUtf8) := by
  intro c a c' hFollows hStep
  rcases hFollows.step hRunning hStep with
    ⟨a', hCalls, hThere, -⟩
  exact ⟨a', hCalls, hThere⟩

/- Where no call can bring the server down, it stays. -/
theorem refines_safely
    (hRunning : r.running = true)
    (isUtf8 : List Byte → Bool) :
    Refines (Step host r isUtf8)
      (RemoteCalls.Step (carryOut r.handlers))
      (fun c a =>
        Follows isUtf8 c a ∧ c.serving = true ∧
          SafeCalls host r a) := by
  rintro c a c' ⟨hFollows, hServing, hSafe⟩ hStep
  rcases hFollows.step hRunning hStep with
    ⟨a', hCalls, hThere, hStays⟩
  exact ⟨a', hCalls, hThere, hStays hServing hSafe⟩

end Conversation

end AnDbg
