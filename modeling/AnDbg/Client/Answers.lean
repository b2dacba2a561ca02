import AnDbg.Client.AtomicCalls
import Mathlib.Data.Prod.Lex

/-
  What a client gets to know from its conversation.

  In every interleaving the answers are those of the calls
  that were carried out, in the order of the requests, and
  the answers that are missing come last.  No interleaving
  goes on for ever, and none ends before every request has
  an answer.

  Main declarations:
    * `AnDbg.Conversation.answers_in_order`
    * `AnDbg.Conversation.conversation_ends`
-/

------------------------------------------------------------
-- Answers In Order
------------------------------------------------------------

namespace AnDbg

namespace Conversation

open Interleaving RPCServer RPCClient

variable {σ : Type}
variable {host : Host}
variable {r : RPCServer σ}
variable {isUtf8 : List Byte → Bool}
variable {requests : List Request} {s : σ}

/-
  The client has the answers of the first calls, all of them
  or all but the last, and then perhaps some that are lost.
-/
structure AnswersOf
    (isUtf8 : List Byte → Bool)
    (c : Conversation σ)
    (results : List (List Byte))
    (lost : Nat) : Prop where
  answers :
    ∃ delivered, delivered <+: results ∧
      results.length ≤ delivered.length + 1 ∧
      c.client.answers =
        delivered.map (decoded isUtf8) ++
          List.replicate lost none
  serving : c.serving = true → lost = 0

theorem StandsFor.answersOf
    {c : Conversation σ}
    {a : RemoteCalls (List Byte) (List Byte) σ}
    (hStands : StandsFor isUtf8 c a) :
    c.debugger = a.state ∧
      ∃ lost, AnswersOf isUtf8 c a.results lost := by
  cases hStands with
  | idle requests results s =>
      exact ⟨rfl, 0, ⟨results, List.prefix_refl results,
        Nat.le_succ _, (List.append_nil _).symm⟩, fun _ => rfl⟩
  | sending request requests results s =>
      exact ⟨rfl, 0, ⟨results, List.prefix_refl results,
        Nat.le_succ _, (List.append_nil _).symm⟩, fun _ => rfl⟩
  | waiting request requests results s =>
      exact ⟨rfl, 0, ⟨results, List.prefix_refl results,
        Nat.le_succ _, (List.append_nil _).symm⟩, fun _ => rfl⟩
  | length requests results s =>
      exact ⟨rfl, 0, ⟨results, List.prefix_append results _,
        List.length_append.le, (List.append_nil _).symm⟩,
        fun _ => rfl⟩
  | response requests results s =>
      exact ⟨rfl, 0, ⟨results, List.prefix_append results _,
        List.length_append.le, (List.append_nil _).symm⟩,
        fun _ => rfl⟩
  | gone place requests up pending s lost hDelivered
      hResults =>
      exact ⟨rfl, lost, ⟨_, hDelivered, hResults, rfl⟩,
        fun hServing => by cases hServing⟩

theorem follows_start
    (hBound : ∀ q ∈ requests, (message q).length < 2 ^ 64)
    (isUtf8 : List Byte → Bool)
    (s : σ) :
    Follows isUtf8 (start requests s)
      ⟨requests.map message, s, []⟩ where
  standsFor := standsFor_start isUtf8 requests s
  bound := by
    intro p hp
    rcases List.mem_map.mp hp with ⟨q, hq, rfl⟩
    exact hBound q hq

/-
  In every interleaving the first requests were carried out
  in order, each once, and the answers are theirs.
-/
theorem answers_in_order
    (hRunning : r.running = true)
    (hBound : ∀ q ∈ requests, (message q).length < 2 ^ 64)
    {c : Conversation σ}
    (hReaches :
      Reaches (Step host r isUtf8) (start requests s) c) :
    ∃ done lost,
      done <+: requests.map message ∧
        c.debugger =
          RemoteCalls.final (carryOut r.handlers) done s ∧
        AnswersOf isUtf8 c
          (RemoteCalls.resultsOf (carryOut r.handlers) done s)
          lost := by
  rcases (refines hRunning isUtf8).reaches
    (follows_start hBound isUtf8 s) hReaches with
    ⟨a, hCalls, hFollows⟩
  rcases RemoteCalls.carried_of_reaches _ hCalls with
    ⟨done, hCarried⟩
  rcases hFollows.standsFor.answersOf with
    ⟨hDebugger, lost, hAnswers⟩
  refine ⟨done, lost, ⟨a.pending, hCarried.calls.symm⟩, ?_, ?_⟩
  · rw [hDebugger, hCarried.state]
  · rw [← hCarried.results]
    exact hAnswers

/- A client that asks once, and the server that it asks. -/
def pinging : Conversation Unit :=
  start [⟨ascii "ping", .none⟩] ()

def pinged : Conversation Unit where
  client := ⟨.idle, [], [some (ascii "success|pong")]⟩
  up := []
  down := []
  serving := true
  debugger := ()

def pingServer : RPCServer Unit :=
  { new Except.ok with running := true }

/- The request goes up at once, and the reply comes in two. -/
theorem reaches_pinged :
    Reaches (Step ⟨true, 64⟩ pingServer fun _ => true)
      pinging pinged := by
  have hReady :
      ¬ Waits ⟨true, 64⟩
        (Framing.frame lengthHeader (ascii "ping|")) := by
    rw [Waits]
    decide
  refine .head (.request rfl rfl) ?_
  refine .head (.send (n := 13) rfl (by decide) (by decide)) ?_
  refine .head (.serve rfl hReady) ?_
  refine .head (.receive (n := 8) (by decide) (by decide)
    (by decide)) ?_
  exact .single (.receive (n := 12) (by decide) (by decide)
    (by decide))

/- The answer to a request that was made and carried out. -/
theorem answers_in_order_ping :
    ∃ done lost,
      done <+: [ascii "ping|"] ∧
        pinged.debugger =
          RemoteCalls.final (carryOut pingServer.handlers) done
            () ∧
        AnswersOf (fun _ => true) pinged
          (RemoteCalls.resultsOf (carryOut pingServer.handlers)
            done ()) lost :=
  answers_in_order rfl (by decide) reaches_pinged

end Conversation

end AnDbg

------------------------------------------------------------
-- Conversations End
------------------------------------------------------------

namespace AnDbg

namespace Conversation

open Interleaving RPCServer RPCClient

variable {σ : Type}
variable {host : Host}
variable {r : RPCServer σ}
variable {isUtf8 : List Byte → Bool}

/- How much of `send_command` lies ahead. -/
def stage : Place → Nat
| .idle => 0
| .recvResponse _ _ => 1
| .recvLength _ => 2
| .sendall _ => 3

/- What the client has still to send. -/
def unsent : Place → List Byte
| .sendall data => data
| _ => []

/-
  What is left to be done, the weightiest first: requests,
  stages of a request, bytes to be sent, the server's going
  away, and the bytes on their way.
-/
def ahead
    (c : Conversation σ) :
    Nat ×ₗ Nat ×ₗ Nat ×ₗ Nat ×ₗ Nat ×ₗ Nat :=
  toLex (c.client.requests.length,
    toLex (stage c.client.place,
      toLex ((unsent c.client.place).length,
        toLex (c.serving.toNat,
          toLex (c.up.length, c.down.length)))))

theorem ahead_lt_of_stage
    {c c' : Conversation σ}
    (hRequests : c'.client.requests = c.client.requests)
    (hStage : stage c'.client.place < stage c.client.place) :
    ahead c' < ahead c := by
  rw [ahead, ahead, hRequests]
  exact Prod.Lex.right _ (Prod.Lex.left _ _ hStage)

theorem ahead_lt_of_down
    {c : Conversation σ}
    {client : RPCClient}
    {down : List Byte}
    (hRequests : client.requests = c.client.requests)
    (hStage : stage client.place = stage c.client.place)
    (hUnsent : unsent client.place = unsent c.client.place)
    (hDown : down.length < c.down.length) :
    ahead { c with client := client, down := down } <
      ahead c := by
  rw [ahead, ahead]
  dsimp only
  rw [hRequests, hStage, hUnsent]
  exact Prod.Lex.right _ (Prod.Lex.right _ (Prod.Lex.right _
    (Prod.Lex.right _ (Prod.Lex.right _ hDown))))

/- The reply goes on coming, or has come. -/
theorem recvResponse_cases
    (isUtf8 : List Byte → Bool)
    (length : Nat)
    (data : List Byte)
    (client : RPCClient) :
    (client.recvResponse isUtf8 length data).requests =
        client.requests ∧
      ((client.recvResponse isUtf8 length data).place =
          .recvResponse length data ∨
        (client.recvResponse isUtf8 length data).place =
          .idle) := by
  rw [recvResponse]
  split
  · exact ⟨rfl, .inl rfl⟩
  · exact ⟨rfl, .inr rfl⟩

/- A chunk that is received brings the client ahead. -/
theorem ahead_receive
    {c : Conversation σ}
    {n : Nat}
    (hPos : 0 < n)
    (hDown : n ≤ c.down.length)
    (hAsked : n ≤ c.client.asked) :
    ahead
        { c with
          client := c.client.received isUtf8 (c.down.take n)
          down := c.down.drop n } <
      ahead c := by
  have hShorter : (c.down.drop n).length < c.down.length := by
    rw [List.length_drop]
    omega
  cases hPlace : c.client.place with
  | idle =>
      rw [asked, hPlace] at hAsked
      exact absurd hPos (Nat.not_lt.mpr hAsked)
  | sendall data =>
      rw [asked, hPlace] at hAsked
      exact absurd hPos (Nat.not_lt.mpr hAsked)
  | recvLength data =>
      rw [received, hPlace]
      dsimp only
      rw [recvLength]
      split
      · exact ahead_lt_of_down rfl (by rw [hPlace]; rfl)
          (by rw [hPlace]; rfl) hShorter
      · rcases recvResponse_cases isUtf8
          (unpack (data ++ c.down.take n)) [] c.client with
          ⟨hRequests, hThere | hThere⟩
        · apply ahead_lt_of_stage hRequests
          rw [hThere, hPlace]
          exact Nat.lt_succ_self 1
        · apply ahead_lt_of_stage hRequests
          rw [hThere, hPlace]
          exact Nat.succ_pos 1
  | recvResponse length data =>
      rw [received, hPlace]
      dsimp only
      rcases recvResponse_cases isUtf8 length
        (data ++ c.down.take n) c.client with
        ⟨hRequests, hThere | hThere⟩
      · exact ahead_lt_of_down hRequests
          (by rw [hThere, hPlace]; rfl)
          (by rw [hThere, hPlace]; rfl) hShorter
      · apply ahead_lt_of_stage hRequests
        rw [hThere, hPlace]
        exact Nat.succ_pos 0

theorem ahead_serve
    (hRunning : r.running = true)
    {c : Conversation σ}
    (hServing : c.serving = true)
    (hReady : ¬ Waits host c.up) :
    ahead (c.served host r) < ahead c := by
  have hRound := round_served hRunning hReady
  generalize c.served host r = c' at hRound
  cases hRound with
  | answered hNext hFits hReply =>
      have hShorter :=
        Framing.length_lt_of_nextFrame lengthHeader hNext
      rw [ahead, ahead, hServing]
      exact Prod.Lex.right _ (Prod.Lex.right _
        (Prod.Lex.right _ (Prod.Lex.right _
          (Prod.Lex.left _ _ hShorter))))
  | unanswered hNext hFits hReply =>
      rw [ahead, ahead, hServing]
      exact Prod.Lex.right _ (Prod.Lex.right _
        (Prod.Lex.right _ (Prod.Lex.left _ _ Nat.one_pos)))
  | refused up hRefused =>
      rw [ahead, ahead, hServing]
      exact Prod.Lex.right _ (Prod.Lex.right _
        (Prod.Lex.right _ (Prod.Lex.left _ _ Nat.one_pos)))

theorem ahead_send
    {c : Conversation σ}
    {data : List Byte}
    {n : Nat}
    (hPlace : c.client.place = .sendall data)
    (hPos : 0 < n)
    (hLe : n ≤ data.length) :
    ahead
        { c with
          client := c.client.sent n data
          up := c.up ++ data.take n } <
      ahead c := by
  rw [sent]
  split
  · apply ahead_lt_of_stage
    · rfl
    · rw [hPlace]
      exact Nat.lt_succ_self 2
  · have hFewer : (data.drop n).length < data.length := by
      rw [List.length_drop]
      omega
    rw [ahead, ahead, hPlace]
    exact Prod.Lex.right _ (Prod.Lex.right _
      (Prod.Lex.left _ _ hFewer))

/- Every step leaves less to be done. -/
theorem lowers
    (hRunning : r.running = true)
    (isUtf8 : List Byte → Bool) :
    Lowers (Step host r isUtf8)
      (fun c' c => ahead c' < ahead c) where
  wellFounded := InvImage.wf ahead wellFounded_lt
  lowers c c' hStep := by
    cases hStep with
    | request hPlace hNext =>
        rw [ahead, ahead, hNext]
        exact Prod.Lex.left _ _ (Nat.lt_succ_self _)
    | send hPlace hPos hLe => exact ahead_send hPlace hPos hLe
    | serve hServing hReady =>
        exact ahead_serve hRunning hServing hReady
    | receive hPos hDown hAsked =>
        exact ahead_receive hPos hDown hAsked
    | lose hGone hPlace =>
        have hStage : 0 < stage c.client.place := by
          cases hHere : c.client.place with
          | idle => exact absurd hHere hPlace
          | sendall data => exact Nat.succ_pos 2
          | recvLength data => exact Nat.succ_pos 1
          | recvResponse length data => exact Nat.succ_pos 0
        apply ahead_lt_of_stage
        · rfl
        · exact hStage

end Conversation

end AnDbg

------------------------------------------------------------
-- Where Conversations End
------------------------------------------------------------

namespace AnDbg

namespace Conversation

open Interleaving RPCServer RPCClient

variable {σ : Type}
variable {host : Host}
variable {r : RPCServer σ}
variable {isUtf8 : List Byte → Bool}
variable {requests : List Request} {s : σ}

/- The requests with an answer, at work and to come. -/
def counted (client : RPCClient) : Nat :=
  client.answers.length + min 1 (stage client.place) +
    client.requests.length

theorem counted_returns
    {client : RPCClient}
    (answer : Option StdString)
    (hPlace : client.place ≠ .idle) :
    counted (client.returns answer) = counted client := by
  have hStage : min 1 (stage client.place) = 1 := by
    cases hHere : client.place with
    | idle => exact absurd hHere hPlace
    | sendall data => rfl
    | recvLength data => rfl
    | recvResponse length data => rfl
  rw [counted, counted, hStage, returns]
  simp [stage]

theorem counted_recvResponse
    {client : RPCClient}
    (isUtf8 : List Byte → Bool)
    (length : Nat)
    (data : List Byte)
    (hPlace : client.place ≠ .idle) :
    counted (client.recvResponse isUtf8 length data) =
      counted client := by
  rw [recvResponse]
  split
  · cases hHere : client.place with
    | idle => exact absurd hHere hPlace
    | sendall data => rw [counted, counted, hHere]; rfl
    | recvLength data => rw [counted, counted, hHere]; rfl
    | recvResponse length data =>
        rw [counted, counted, hHere]; rfl
  · exact counted_returns _ hPlace

/- No request is dropped and none is made twice. -/
theorem counted_step
    {c c' : Conversation σ}
    (hStep : Step host r isUtf8 c c') :
    counted c'.client = counted c.client := by
  cases hStep with
  | request hPlace hNext =>
      rw [counted, counted, hPlace, hNext]
      simp [sendCommand, stage]
      omega
  | send hPlace hPos hLe =>
      rw [counted, counted, hPlace, sent]
      dsimp only
      split <;> rfl
  | serve hServing hReady => rfl
  | receive hPos hDown hAsked =>
      dsimp only
      cases hPlace : c.client.place with
      | idle => rw [received, hPlace]
      | sendall data => rw [received, hPlace]
      | recvLength data =>
          rw [received, hPlace]
          dsimp only
          rw [recvLength]
          split
          · rw [counted, counted, hPlace]
            rfl
          · apply counted_recvResponse
            rw [hPlace]
            exact fun hIdle => by cases hIdle
      | recvResponse length data =>
          rw [received, hPlace]
          apply counted_recvResponse
          rw [hPlace]
          exact fun hIdle => by cases hIdle
  | lose hGone hPlace => exact counted_returns none hPlace

theorem counted_of_reaches
    {c : Conversation σ}
    (hReaches :
      Reaches (Step host r isUtf8) (start requests s) c) :
    counted c.client = requests.length := by
  have hKept (b c : Conversation σ)
      (hHere : counted b.client = requests.length)
      (hStep : Step host r isUtf8 b c) :
      counted c.client = requests.length := by
    rw [counted_step hStep, hHere]
  exact hReaches.invariant hKept (Nat.zero_add _)

/- Only a client that has nothing to do takes no step. -/
theorem StandsFor.of_stuck
    {c : Conversation σ}
    {a : RemoteCalls (List Byte) (List Byte) σ}
    (hStands : StandsFor isUtf8 c a)
    (hBound : ∀ p ∈ a.pending, p.length < 2 ^ 64)
    (hStuck : Stuck (Step host r isUtf8) c) :
    c.client.place = .idle ∧ c.client.requests = [] := by
  have hNoRequest (hPlace : c.client.place = .idle) :
      c.client.requests = [] := by
    cases hRequests : c.client.requests with
    | nil => rfl
    | cons request requests =>
        exact absurd (.request hPlace hRequests) (hStuck _)
  cases hStands with
  | idle requests results s =>
      exact ⟨rfl, hNoRequest rfl⟩
  | sending request requests results s hFrame hData =>
      exact absurd
        (.send rfl (List.length_pos_iff.mpr hData) (le_refl _))
        (hStuck _)
  | waiting request requests results s =>
      have hReady :
          ¬ Waits host (Framing.frame lengthHeader
            (message request)) := by
        have hNext :=
          nextFrame_message (hBound _ List.mem_cons_self)
        rcases RPCServer.announced_of_nextFrame hNext with
          ⟨hHeader, hLength⟩
        rw [Waits, netLength_take host hHeader, hLength,
          Framing.length_frame, size_lengthHeader]
        omega
      exact absurd (.serve rfl hReady) (hStuck _)
  | length requests results s hFrame hGot hReply =>
      rename_i reply got down
      have hLength := congrArg List.length hFrame
      rw [List.length_append, Framing.length_frame,
        size_lengthHeader] at hLength
      have hDown : 1 ≤ down.length := by omega
      have hAsked : 1 ≤ 8 - got.length := by omega
      exact absurd (.receive Nat.one_pos hDown hAsked)
        (hStuck _)
  | response requests results s hMore =>
      rename_i got down
      have hDown : 1 ≤ down.length := List.length_pos_iff.mpr hMore
      have hAsked : 1 ≤ (got ++ down).length - got.length := by
        rw [List.length_append]
        omega
      exact absurd (.receive Nat.one_pos hDown hAsked)
        (hStuck _)
  | gone place requests up pending s lost =>
      by_cases hPlace : place = .idle
      · exact ⟨hPlace, hNoRequest hPlace⟩
      · exact absurd (.lose rfl hPlace) (hStuck _)

/- Between two requests a client has all of its answers. -/
theorem StandsFor.of_idle
    {c : Conversation σ}
    {a : RemoteCalls (List Byte) (List Byte) σ}
    (hStands : StandsFor isUtf8 c a)
    (hServing : c.serving = true)
    (hPlace : c.client.place = .idle) :
    a.pending = c.client.requests.map message ∧
      c.client.answers = a.results.map (decoded isUtf8) ∧
      c.debugger = a.state := by
  cases hStands with
  | idle requests results s => exact ⟨rfl, rfl, rfl⟩
  | sending => cases hPlace
  | waiting => cases hPlace
  | length => cases hPlace
  | response => cases hPlace
  | gone => cases hServing

/-
  No interleaving goes on for ever, and none ends before
  every request has an answer; where no call can bring the
  server down, these are the answers of all the calls.
-/
theorem conversation_ends
    (hRunning : r.running = true)
    (hBound : ∀ q ∈ requests, (message q).length < 2 ^ 64)
    (host : Host)
    (isUtf8 : List Byte → Bool)
    (s : σ) :
    (∀ run : Nat → Conversation σ,
      ¬ ∀ n, Step host r isUtf8 (run n) (run (n + 1))) ∧
    ∀ c, Reaches (Step host r isUtf8) (start requests s) c →
      Stuck (Step host r isUtf8) c →
        c.client.answers.length = requests.length ∧
        (Safe host r.handlers [] (requests.map message) [] s →
          c.client.answers =
              (RemoteCalls.resultsOf (carryOut r.handlers)
                (requests.map message) s).map
                (decoded isUtf8) ∧
            c.debugger =
              RemoteCalls.final (carryOut r.handlers)
                (requests.map message) s) := by
  refine ⟨(lowers hRunning isUtf8).no_infinite_run, ?_⟩
  intro c hReaches hStuck
  have hStart := follows_start hBound isUtf8 s
  rcases (refines hRunning isUtf8).reaches hStart hReaches with
    ⟨_, -, hFollows⟩
  rcases hFollows.standsFor.of_stuck hFollows.bound hStuck with
    ⟨hPlace, hRequests⟩
  constructor
  · have hCounted := counted_of_reaches hReaches
    rw [counted, hPlace, hRequests] at hCounted
    exact hCounted
  · intro hSafe
    rcases (refines_safely hRunning isUtf8).reaches
      ⟨hStart, rfl, hSafe⟩ hReaches with
      ⟨a, hCalls, hFollows, hServing, -⟩
    rcases hFollows.standsFor.of_idle hServing hPlace with
      ⟨hPending, hAnswers, hDebugger⟩
    rcases RemoteCalls.carried_of_reaches _ hCalls with
      ⟨done, hDone, hState, hResults⟩
    have hAll : done = requests.map message := by
      rw [hPending, hRequests, List.map_nil,
        List.append_nil] at hDone
      exact hDone.symm
    rw [hAnswers, hDebugger, hState, hResults, hAll]
    exact ⟨rfl, rfl⟩

/- Where the server is asked once and answers. -/
theorem conversation_ends_ping :
    let host : Host := ⟨true, 64⟩
    let isUtf8 := fun _ : List Byte => true
    (∀ run : Nat → Conversation Unit,
      ¬ ∀ n, Step host pingServer isUtf8 (run n)
        (run (n + 1))) ∧
    ∀ c, Reaches (Step host pingServer isUtf8) pinging c →
      Stuck (Step host pingServer isUtf8) c →
        c.client.answers = [some (ascii "success|pong")] := by
  intro host isUtf8
  have hRunning : pingServer.running = true := rfl
  have hBound :
      ∀ q ∈ [(⟨ascii "ping", .none⟩ : Request)],
        (message q).length < 2 ^ 64 := by decide
  rcases conversation_ends hRunning hBound host isUtf8 ()
    with ⟨hFinite, hEnd⟩
  refine ⟨hFinite, ?_⟩
  intro c hReaches hStuck
  have hSafe :
      Safe host pingServer.handlers [] [ascii "ping|"] []
        () := by
    refine ⟨by decide, by decide, by decide, fun _ => ?_⟩
    exact fun hHeader => absurd hHeader (by decide)
  exact ((hEnd c hReaches hStuck).2 hSafe).1

end Conversation

end AnDbg
