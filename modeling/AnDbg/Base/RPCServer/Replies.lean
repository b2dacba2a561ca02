import AnDbg.Base.RPCServer.Serving

/-
  One reply per request, in order.

  `Answer` says what a request deserves, independently of
  the server: the handler of its command is called once on
  what follows the first separator, and one reply tells what
  came of it; a payload without a separator is refused with
  an error.  The server agrees with it on every request but
  one kind: a payload without a separator becomes a message
  with an empty command, and a handler may be registered
  under that name.

  Main declarations:
    * `AnDbg.RPCServer.Answer` and `AnDbg.RPCServer.Answers`
    * `AnDbg.RPCServer.answers_transcript_iff`
    * `AnDbg.RPCServer.one_reply_iff`
-/

------------------------------------------------------------
-- What A Request Deserves
------------------------------------------------------------

namespace AnDbg

namespace RPCServer

variable {σ : Type}
variable (handlers : UnorderedMap StdString (Handler σ))

/- A reply with the given first word. -/
def reply
    (word : String)
    (text : StdString) : Event :=
  .sent (Framing.frame lengthHeader
    (serializeMessage ⟨ascii word, text⟩))

/- The word that tells how a handler ended. -/
def verdict (status : Status) : String :=
  match status.type with
  | .success => "success"
  | .fail => "fail"

/-
  A payload takes the handlers' state to another one, with
  the given call and reply.
-/
inductive Answer :
    List Byte → σ → σ → List Event → Prop
  | returned
      {command content : StdString}
      {handler : Handler σ}
      {status : Status}
      {s s' : σ}
      (hCommand : separator ∉ command)
      (hHandler : handlers.lookup command = some handler)
      (hCall : handler content s = (.ok status, s')) :
      Answer (command ++ separator :: content) s s'
        [.called command content,
          reply (verdict status) status.string]
  | threw
      {command content what text : StdString}
      {handler : Handler σ}
      {s s' : σ}
      (hCommand : separator ∉ command)
      (hHandler : handlers.lookup command = some handler)
      (hCall : handler content s = (.error what, s')) :
      Answer (command ++ separator :: content) s s'
        [.called command content, reply "error" text]
  | unknown
      {command content text : StdString}
      {s : σ}
      (hCommand : separator ∉ command)
      (hHandler : handlers.lookup command = none) :
      Answer (command ++ separator :: content) s s
        [reply "error" text]
  | malformed
      {p : List Byte}
      {text : StdString}
      {s : σ}
      (hMalformed : separator ∉ p) :
      Answer p s s [reply "error" text]

/- Payloads that are answered one after the other. -/
inductive Answers :
    List (List Byte) → σ → σ → List Event → Prop
  | nil
      {s : σ} :
      Answers [] s s []
  | cons
      {p : List Byte}
      {ps : List (List Byte)}
      {s s' s'' : σ}
      {es es' : List Event}
      (hHere : Answer handlers p s s' es)
      (hRest : Answers ps s' s'' es') :
      Answers (p :: ps) s s'' (es ++ es')

/- Handlers return texts without a NUL. -/
def TextsFree : Prop :=
  ∀ command handler content s status s',
    handlers.lookup command = some handler →
      handler content s = (.ok status, s') →
        0#8 ∉ status.string

end RPCServer

end AnDbg

------------------------------------------------------------
-- What The Server Does
------------------------------------------------------------

namespace AnDbg

namespace RPCServer

variable {σ : Type}
variable {handlers : UnorderedMap StdString (Handler σ)}

/- The server's reply to a status has its whole text. -/
theorem serialize_statusReply
    {status : Status}
    (hText : 0#8 ∉ status.string) :
    statusReply status =
      ⟨ascii (verdict status), status.string⟩ := by
  rcases status with ⟨text, type⟩
  rw [statusReply, cStr_eq_self hText]
  cases type <;> rfl

/- A request with a known, or no, command is answered. -/
theorem answer_correct
    (hTexts : TextsFree handlers)
    {p : List Byte}
    (hKind :
      handlers.lookup [] = none ∨ separator ∈ p)
    (s : σ) :
    Answer handlers p s (answer handlers p s).2.2
      ((answer handlers p s).2.1 ++
        [replied handlers p s]) := by
  by_cases hSeparator : separator ∈ p
  · rcases List.eq_append_cons_of_mem hSeparator with
      ⟨command, content, rfl, hCommand⟩
    have hMessage := deserializeMessage_split hCommand content
    cases hHandler : handlers.lookup command with
    | none =>
        rw [replied, replyTo, answer, hMessage, respond,
          hHandler]
        exact .unknown hCommand hHandler
    | some handler =>
        rcases hCall : handler content s with ⟨what | status, s'⟩
        · rw [replied, replyTo, answer, hMessage]
          simp only [respond, hHandler, hCall]
          exact .threw hCommand hHandler hCall
        · have hText := hTexts _ _ _ _ _ _ hHandler hCall
          rw [replied, replyTo, answer, hMessage]
          simp only [respond, hHandler, hCall,
            serialize_statusReply hText]
          exact .returned hCommand hHandler hCall
  · have hNone := hKind.resolve_right hSeparator
    rw [replied, replyTo, answer,
      deserializeMessage_of_not_mem hSeparator]
    simp only [respond, hNone]
    exact .malformed hSeparator

/- A well-formed request leaves the server no choice. -/
theorem eq_of_answer
    {p : List Byte}
    {s s' : σ}
    {es : List Event}
    (hAnswer : Answer handlers p s s' es)
    (hSeparator : separator ∈ p) :
    s' = (answer handlers p s).2.2 ∧
      ∃ e, es = (answer handlers p s).2.1 ++ [e] := by
  cases hAnswer with
  | returned hCommand hHandler hCall =>
      rw [answer, deserializeMessage_split hCommand]
      simp only [respond, hHandler, hCall]
      exact ⟨trivial, _, rfl⟩
  | threw hCommand hHandler hCall =>
      rw [answer, deserializeMessage_split hCommand]
      simp only [respond, hHandler, hCall]
      exact ⟨trivial, _, rfl⟩
  | unknown hCommand hHandler =>
      rw [answer, deserializeMessage_split hCommand]
      simp only [respond, hHandler]
      exact ⟨trivial, _, rfl⟩
  | malformed hMalformed => exact absurd hSeparator hMalformed

/- A malformed request deserves nothing but a reply. -/
theorem head_of_answer
    {p : List Byte}
    {s s' : σ}
    {es : List Event}
    (hAnswer : Answer handlers p s s' es)
    (hSeparator : separator ∉ p) :
    ∃ bytes, es = [.sent bytes] := by
  cases hAnswer with
  | returned => simp at hSeparator
  | threw => simp at hSeparator
  | unknown => simp at hSeparator
  | malformed => exact ⟨_, rfl⟩

/- Where an empty command has a handler, it is called. -/
theorem answer_malformed
    {p : List Byte}
    (hSeparator : separator ∉ p)
    {handler : Handler σ}
    (hHandler : handlers.lookup [] = some handler)
    (s : σ) :
    (answer handlers p s).2.1 = [.called [] []] := by
  rw [answer, deserializeMessage_of_not_mem hSeparator]
  simp only [respond, hHandler]
  cases handler [] s with
  | mk outcome s' => cases outcome <;> rfl

/-
  The server's trace is what the requests deserve, unless
  one of them is malformed and the empty command has a
  handler.
-/
theorem answers_transcript_iff
    (hTexts : TextsFree handlers)
    {ps : List (List Byte)}
    {s : σ} :
    Answers handlers ps s (after handlers ps [] s)
        (transcript handlers ps s) ↔
      handlers.lookup [] = none ∨ ∀ p ∈ ps, separator ∈ p := by
  constructor
  · intro hAnswers
    cases hHandler : handlers.lookup [] with
    | none => exact .inl rfl
    | some handler =>
        right
        induction ps generalizing s with
        | nil => simp
        | cons p ps ih =>
            rw [transcript] at hAnswers
            generalize hTrace :
              (answer handlers p s).2.1 ++
                  [replied handlers p s] ++
                transcript handlers ps
                  (answer handlers p s).2.2 = trace at hAnswers
            cases hAnswers with
            | cons hHere hRest =>
                have hSeparator : separator ∈ p := by
                  -- a call cannot stand where a reply must
                  by_contra hMalformed
                  rcases
                      head_of_answer hHere hMalformed with
                    ⟨bytes, rfl⟩
                  rw [answer_malformed hMalformed hHandler]
                    at hTrace
                  cases hTrace
                rcases eq_of_answer hHere hSeparator with
                  ⟨rfl, e, rfl⟩
                have hTail :=
                  List.append_inj_right hTrace (by simp)
                rw [← hTail] at hRest
                intro q hq
                rcases List.mem_cons.mp hq with rfl | hq
                · exact hSeparator
                · exact ih hRest q hq
  · intro hKind
    induction ps generalizing s with
    | nil => exact .nil
    | cons p ps ih =>
        have hHere : handlers.lookup [] = none ∨ separator ∈ p :=
          hKind.imp_right fun hAll => hAll p (by simp)
        have hRest :
            handlers.lookup [] = none ∨
              ∀ q ∈ ps, separator ∈ q :=
          hKind.imp_right fun hAll q hq =>
            hAll q (List.mem_cons_of_mem p hq)
        exact .cons (answer_correct hTexts hHere s) (ih hRest)

end RPCServer

end AnDbg

------------------------------------------------------------
-- Clients That Are Safe
------------------------------------------------------------

namespace AnDbg

namespace RPCServer

variable {σ : Type}
variable (host : Host)

/- Every length that a header announces can be allocated. -/
def LengthsFit (stream : List Byte) : Prop :=
  ∀ (ps : List (List Byte)) (rest : List Byte),
    (∀ p ∈ ps, Framing.IsPayload lengthHeader p) →
      stream =
          (ps.map (Framing.frame lengthHeader)).flatten ++
            rest →
        8 ≤ rest.length →
          Fits host (Framing.announced lengthHeader rest)

/- Every reply can be put into a buffer. -/
def RepliesFit
    (handlers : UnorderedMap StdString (Handler σ)) :
    List (List Byte) → σ → Prop
| [], _ => True
| p :: ps, s =>
    Fits host (8 + (replyTo handlers p s).length) ∧
      RepliesFit handlers ps (answer handlers p s).2.2

variable {host}
variable {stream : List Byte}
variable {ps : List (List Byte)}
variable {s : σ}

/- A client whose lengths and replies fit is safe. -/
theorem safe_of_fit
    {handlers : UnorderedMap StdString (Handler σ)}
    (hFrames : Framing.Frames lengthHeader stream ps)
    (hLengths : LengthsFit host stream)
    (hReplies : RepliesFit host handlers ps s) :
    Safe host handlers (remainder stream) (requests stream) []
      s := by
  induction hFrames generalizing s with
  | stop hNone =>
      rcases requests_of_none hNone with
        ⟨hRequests, hRemainder⟩
      rw [hRequests, hRemainder]
      exact hLengths [] _ (by simp) rfl
  | @more stream p rest ps hNext _ ih =>
      rcases requests_of_some hNext with
        ⟨hRequests, hRemainder⟩
      rcases announced_of_nextFrame hNext with
        ⟨hHeader, hAnnounced⟩
      rcases
          Framing.eq_frame_of_nextFrame lengthHeader hNext
          with ⟨hStream, hPayload⟩
      have hFits : Fits host p.length := by
        rw [← hAnnounced]
        exact hLengths [] stream (by simp) rfl hHeader
      have hLengthsRest : LengthsFit host rest := by
        intro qs rest' hPayloads hRest
        apply hLengths (p :: qs) rest'
          (List.forall_mem_cons.mpr ⟨hPayload, hPayloads⟩)
        rw [hStream, hRest, List.map_cons, List.flatten_cons,
          List.append_assoc]
      rw [hRequests, hRemainder]
      refine ⟨hFits, hReplies.1, ?_, fun _ => ?_⟩
      · intro hPeer
        cases hPeer
      · exact ih hLengthsRest hReplies.2

/- The lengths that are announced are those of requests. -/
theorem lengthsFit_of_requests
    (hRequests : ∀ p ∈ requests stream, Fits host p.length)
    (hRemainder :
      8 ≤ (remainder stream).length →
        Fits host
          (Framing.announced lengthHeader
            (remainder stream))) :
    LengthsFit host stream := by
  intro ps rest hPayloads hStream hHeader
  induction ps generalizing stream with
  | nil =>
      obtain rfl : stream = rest := hStream
      cases hNext :
          Framing.nextFrame lengthHeader stream with
      | none =>
          rw [(requests_of_none hNext).2] at hRemainder
          exact hRemainder hHeader
      | some front =>
          rw [(announced_of_nextFrame hNext).2]
          apply hRequests
          rw [(requests_of_some hNext).1]
          exact List.mem_cons_self
  | cons p ps ih =>
      rcases List.forall_mem_cons.mp hPayloads with
        ⟨hPayload, hTail⟩
      rw [List.map_cons, List.flatten_cons,
        List.append_assoc] at hStream
      have hNext :=
        Framing.nextFrame_frame lengthHeader hPayload
          ((ps.map (Framing.frame lengthHeader)).flatten ++
            rest)
      rw [← hStream] at hNext
      rcases requests_of_some hNext with ⟨hFirst, hLast⟩
      rw [hFirst] at hRequests
      rw [hLast] at hRemainder
      exact ih
        (fun q hq => hRequests q (List.mem_cons_of_mem p hq))
        hRemainder hTail rfl

end RPCServer

end AnDbg

------------------------------------------------------------
-- Tables Of Handlers
------------------------------------------------------------

namespace AnDbg

namespace RPCServer

variable {σ : Type}

/- A dump of the texts that need no escapes. -/
def quote (text : StdString) : Except StdString StdString :=
  if 0#8 ∈ text then
    .error (ascii "escape")
  else
    .ok ([0x22#8] ++ text ++ [0x22#8])

/- A handler that does not look at its parameters. -/
def greet : Handler σ := fun _ s =>
  (.ok (Status.success (ascii "hi")), s)

theorem quote_free
    (text out : StdString)
    (hQuote : quote text = .ok out) :
    0#8 ∉ out := by
  rw [quote] at hQuote
  split at hQuote
  next => cases hQuote
  next hFree =>
    cases hQuote
    simpa using hFree

theorem textsFree_new
    {dump : StdString → Except StdString StdString}
    (hDump : ∀ text out, dump text = .ok out → 0#8 ∉ out) :
    TextsFree (new (σ := σ) dump).handlers := by
  intro command handler content s status s' hHandler hCall
  have hPing : handler = ping dump := by
    rw [new] at hHandler
    by_cases hCommand : command = ascii "ping"
    · rw [hCommand, Finmap.lookup_singleton_eq] at hHandler
      exact (Option.some.inj hHandler).symm
    · have hMem := Finmap.mem_of_lookup_eq_some hHandler
      exact absurd (Finmap.mem_singleton _ _ _ |>.mp hMem)
        hCommand
  subst hPing
  rcases Prod.mk.inj hCall with ⟨hStatus, -⟩
  cases hText :
      dump (if content.isEmpty then ascii "pong" else content)
    with
  | error what =>
      rw [hText] at hStatus
      cases hStatus
  | ok text =>
      rw [hText] at hStatus
      cases hStatus
      exact hDump _ _ hText

theorem textsFree_registerHandler
    {r : RPCServer σ}
    (hTexts : TextsFree r.handlers)
    (command : StdString)
    {handler : Handler σ}
    (hHandler :
      ∀ content s status s',
        handler content s = (.ok status, s') →
          0#8 ∉ status.string) :
    TextsFree (registerHandler command handler r).handlers := by
  intro command' handler' content s status s' hLookup hCall
  rw [registerHandler, UnorderedMap.lookup_insert] at hLookup
  split at hLookup
  next =>
    rcases Option.some.inj hLookup with rfl
    exact hHandler content s status s' hCall
  next =>
    exact hTexts command' handler' content s status s'
      hLookup hCall

end RPCServer

end AnDbg

------------------------------------------------------------
-- One Reply Per Request
------------------------------------------------------------

namespace AnDbg

namespace RPCServer

variable {σ : Type}
variable {host : Host}
variable {r : RPCServer σ}
variable {stream : List Byte}
variable {ps : List (List Byte)}
variable {s : σ}

/-
  Every request of a stream gets what it deserves, in order,
  exactly if no handler is registered under the empty
  command or every request has a separator.
-/
theorem one_reply_iff
    (hRunning : r.running = true)
    (hTexts : TextsFree r.handlers)
    (hFrames : Framing.Frames lengthHeader stream ps)
    (hLengths : LengthsFit host stream)
    (hReplies : RepliesFit host r.handlers ps s) :
    (∀ rounds,
      stream.length < rounds →
        ∃ k,
          handleClient host r rounds ⟨stream, [], s, []⟩ =
              some (.ok (), k) ∧
            Answers r.handlers ps s k.debugger k.trace) ↔
      r.handlers.lookup [] = none ∨
        ∀ p ∈ ps, separator ∈ p := by
  have hSafe := safe_of_fit hFrames hLengths hReplies
  have hRequests : requests stream = ps :=
    Framing.frames_unique lengthHeader
      (Framing.frames_split lengthHeader stream) hFrames
  rw [← answers_transcript_iff (s := s) hTexts]
  constructor
  · intro hAll
    rcases
        handleClient_transcript hRunning
          (Nat.lt_succ_self stream.length) hSafe [] with
      ⟨rest, hRun⟩
    rcases hAll _ (Nat.lt_succ_self _) with
      ⟨k, hClient, hAnswers⟩
    rw [hRun, hRequests] at hClient
    rcases Prod.mk.inj (Option.some.inj hClient) with
      ⟨-, rfl⟩
    exact hAnswers
  · intro hAnswers rounds hRounds
    rcases
        handleClient_transcript hRunning hRounds hSafe []
        with ⟨rest, hRun⟩
    rw [hRequests] at hRun
    exact ⟨_, hRun, hAnswers⟩

/- A stream of one frame has one request. -/
theorem frames_frame
    {p : List Byte}
    (hPayload : Framing.IsPayload lengthHeader p) :
    Framing.Frames lengthHeader (Framing.frame lengthHeader p)
      [p] := by
  have hNext :=
    Framing.nextFrame_frame lengthHeader hPayload []
  rw [List.append_nil] at hNext
  exact .more hNext (.stop rfl)

/- A table with one handler, and a request for it. -/
theorem one_reply_iff_ping :
    let r : RPCServer Unit := { new quote with running := true }
    let p := ascii "ping|"
    let stream := Framing.frame lengthHeader p
    ∀ rounds,
      stream.length < rounds →
        ∃ k,
          handleClient ⟨true, 64⟩ r rounds
              ⟨stream, [], (), []⟩ =
            some (.ok (), k) ∧
            Answers r.handlers [p] () k.debugger k.trace := by
  intro r p stream
  have hFrames : Framing.Frames lengthHeader stream [p] :=
    frames_frame ⟨by decide, by decide⟩
  have hLengths : LengthsFit ⟨true, 64⟩ stream :=
    lengthsFit_of_requests (by decide) (by decide)
  have hReplies : RepliesFit ⟨true, 64⟩ r.handlers [p] () :=
    ⟨by decide, trivial⟩
  exact (one_reply_iff (r := r) rfl
    (textsFree_new quote_free) hFrames hLengths
    hReplies).mpr (.inl rfl)

/-
  A handler for the empty command is called for a request
  without a separator, which deserves an error.
-/
theorem not_one_reply_greet :
    let r : RPCServer Unit :=
      registerHandler [] greet { new quote with running := true }
    let p := ascii "x"
    let stream := Framing.frame lengthHeader p
    TextsFree r.handlers ∧
      Framing.Frames lengthHeader stream [p] ∧
      LengthsFit ⟨true, 64⟩ stream ∧
      RepliesFit ⟨true, 64⟩ r.handlers [p] () ∧
      ¬ ∀ rounds,
        stream.length < rounds →
          ∃ k,
            handleClient ⟨true, 64⟩ r rounds
                ⟨stream, [], (), []⟩ =
              some (.ok (), k) ∧
              Answers r.handlers [p] () k.debugger k.trace := by
  intro r p stream
  have hTexts : TextsFree r.handlers := by
    apply textsFree_registerHandler (textsFree_new quote_free)
    intro content s status s' hCall
    rcases Prod.mk.inj hCall with ⟨hStatus, -⟩
    cases hStatus
    decide
  have hFrames : Framing.Frames lengthHeader stream [p] :=
    frames_frame ⟨by decide, by decide⟩
  have hLengths : LengthsFit ⟨true, 64⟩ stream :=
    lengthsFit_of_requests (by decide) (by decide)
  have hReplies : RepliesFit ⟨true, 64⟩ r.handlers [p] () :=
    ⟨by decide, trivial⟩
  refine ⟨hTexts, hFrames, hLengths, hReplies, ?_⟩
  intro hAll
  rcases hAll 10 (by decide) with ⟨k, hClient, hAnswers⟩
  rcases
      handleClient_transcript (r := r) rfl
        (show stream.length < 10 by decide)
        (safe_of_fit hFrames hLengths hReplies) [] with
    ⟨rest, hRun⟩
  rw [hRun, show requests stream = [p] by decide] at hClient
  rcases Prod.mk.inj (Option.some.inj hClient) with ⟨-, rfl⟩
  have hKind :=
    (answers_transcript_iff (s := ()) hTexts).mp hAnswers
  exact absurd hKind (by decide)

end RPCServer

end AnDbg
