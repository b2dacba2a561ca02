import AnDbg.Lib.Framing
import AnDbg.Base.RPCServer.Model

/-
  The wire format of the RPC server.

  `lengthHeader` is the length prefix of a frame, eight bytes
  with the highest first.  What `sendMessage` fills its
  buffer with is a frame of that header, and `readMessage`
  takes the next frame off the stream: the one spec lemma
  for each, on which everything about the server rests.

  Main declarations:
    * `AnDbg.RPCServer.lengthHeader`
    * `AnDbg.RPCServer.responseBuffer_eq_frame`
    * `AnDbg.RPCServer.readMessage_of_nextFrame`
    * `AnDbg.RPCServer.wire_round_trip`
-/

------------------------------------------------------------
-- The Length Prefix
------------------------------------------------------------

namespace AnDbg

namespace RPCServer

/- A length as eight bytes in network order. -/
def lengthHeader : Framing.Header Byte where
  size := 8
  bound := 2 ^ 64
  encode := fun n =>
    (LittleEndian.encode 8 (BitVec.ofNat 64 n)).reverse
  decode := fun bs =>
    (LittleEndian.decode 64 bs.reverse).toNat
  length_encode := fun n => by simp
  decode_encode := fun n hn => by
    rw [List.reverse_reverse,
      LittleEndian.decode_encode _ (by decide),
      BitVec.toNat_ofNat, Nat.mod_eq_of_lt hn]
  encode_decode := fun bs hLength => by
    have hReverse : bs.reverse.length = 8 := by
      rw [List.length_reverse, hLength]
    rw [BitVec.ofNat_toNat, BitVec.setWidth_eq, ← hReverse,
      LittleEndian.encode_decode _ (by rw [hReverse]),
      List.reverse_reverse]
  decode_lt := fun bs _ => BitVec.isLt _

@[simp] theorem size_lengthHeader :
    lengthHeader.size = 8 := rfl

@[simp] theorem bound_lengthHeader :
    lengthHeader.bound = 2 ^ 64 := rfl

/- Byte `i` of a length counts from the highest one. -/
theorem getElem?_encode_lengthHeader
    (n : Nat)
    {i : Nat}
    (hi : i < 8) :
    (lengthHeader.encode n)[i]? =
      some (BitVec.ofNat 8 (n / 256 ^ (7 - i))) := by
  have hLength :
      (LittleEndian.encode 8 (BitVec.ofNat 64 n)).length = 8 :=
    LittleEndian.length_encode _ _
  have hPow : 256 ^ (7 - i) = 2 ^ (8 * (7 - i)) := by
    rw [Nat.pow_mul]
  have hDvd : 2 ^ (8 * (7 - i)) * 2 ^ 8 ∣ 2 ^ 64 := by
    rw [← Nat.pow_add]
    exact Nat.pow_dvd_pow 2 (by omega)
  change (LittleEndian.encode 8
    (BitVec.ofNat 64 n)).reverse[i]? = _
  rw [List.getElem?_reverse (by omega), hLength,
    LittleEndian.getElem?_encode _ _ (by omega),
    show 8 - 1 - i = 7 - i by omega]
  congr 1
  apply BitVec.eq_of_toNat_eq
  rw [BitVec.toNat_setWidth, BitVec.toNat_ushiftRight,
    BitVec.toNat_ofNat, BitVec.toNat_ofNat,
    Nat.shiftRight_eq_div_pow, hPow]
  calc
    n % 2 ^ 64 / 2 ^ (8 * (7 - i)) % 2 ^ 8
        = n % 2 ^ 64 % (2 ^ (8 * (7 - i)) * 2 ^ 8) /
            2 ^ (8 * (7 - i)) :=
          (Nat.mod_mul_right_div_self _ _ _).symm
    _ = n % (2 ^ (8 * (7 - i)) * 2 ^ 8) /
            2 ^ (8 * (7 - i)) := by
          rw [Nat.mod_mod_of_dvd _ hDvd]
    _ = n / 2 ^ (8 * (7 - i)) % 2 ^ 8 :=
          Nat.mod_mul_right_div_self _ _ _

end RPCServer

end AnDbg

------------------------------------------------------------
-- Messages And Payloads
------------------------------------------------------------

namespace AnDbg

namespace RPCServer

/- The first separator ends the command. -/
theorem deserializeMessage_split
    {command : StdString}
    (hCommand : separator ∉ command)
    (content : StdString) :
    deserializeMessage (command ++ separator :: content) =
      ⟨command, content⟩ := by
  have hPos :
      (command ++ separator :: content).findIdx
          (fun b => b == separator) =
        command.length := by
    have hNone :
        command.findIdx (fun b => b == separator) =
          command.length := by
      apply List.findIdx_eq_length_of_false
      intro b hb
      have hNe : b ≠ separator :=
        fun hEq => hCommand (hEq ▸ hb)
      simpa using hNe
    rw [List.findIdx_append, hNone, if_neg (by omega),
      List.findIdx_cons]
    simp
  have hNe :
      command.length ≠
        (command ++ separator :: content).length := by
    simp
  simp only [deserializeMessage, hPos, if_neg hNe]
  simp

/- Without a separator there is an empty message. -/
theorem deserializeMessage_of_not_mem
    {data : List Byte}
    (hData : separator ∉ data) :
    deserializeMessage data = ⟨[], []⟩ := by
  have hPos :
      data.findIdx (fun b => b == separator) =
        data.length := by
    apply List.findIdx_eq_length_of_false
    intro b hb
    have hNe : b ≠ separator := fun hEq => hData (hEq ▸ hb)
    simpa using hNe
  simp only [deserializeMessage, hPos]
  simp

theorem deserialize_serialize
    {message : Message}
    (hCommand : separator ∉ message.command) :
    deserializeMessage (serializeMessage message) =
      message := by
  rw [serializeMessage, List.append_assoc,
    List.singleton_append, deserializeMessage_split hCommand]

theorem serialize_deserialize
    {data : List Byte}
    (hData : separator ∈ data) :
    serializeMessage (deserializeMessage data) = data := by
  rcases List.eq_append_cons_of_mem hData with
    ⟨command, content, rfl, hCommand⟩
  rw [deserializeMessage_split hCommand, serializeMessage,
    List.append_assoc, List.singleton_append]

theorem serializeMessage_ne_nil
    (message : Message) :
    serializeMessage message ≠ [] := by
  simp [serializeMessage]

end RPCServer

end AnDbg

------------------------------------------------------------
-- Reading A Message
------------------------------------------------------------

namespace AnDbg

namespace RPCServer

variable {σ : Type}
variable (host : Host)

/- A vector of so many characters can be allocated. -/
def Fits (n : Nat) : Prop :=
  n ≤ maxSize ∧ n ≤ host.available

instance
    (n : Nat) :
    Decidable (Fits host n) :=
  inferInstanceAs (Decidable (_ ∧ _))

variable {host}

theorem allocate_of_fits
    {n : Nat}
    (hFits : Fits host n) :
    allocate host n = .ok () := by
  rw [allocate, if_neg (Nat.not_lt.mpr hFits.1),
    if_neg (Nat.not_lt.mpr hFits.2)]

theorem allocate_of_not_fits
    {n : Nat}
    (hFits : ¬ Fits host n) :
    ∃ e, allocate host n = .error e := by
  rw [allocate]
  split
  next => exact ⟨_, rfl⟩
  next hSize =>
    split
    next => exact ⟨_, rfl⟩
    next hMemory =>
      exact absurd
        ⟨Nat.not_lt.mp hSize, Nat.not_lt.mp hMemory⟩ hFits

/- Sizes of vectors survive the cast to a signed type. -/
theorem toSsize_of_le
    {n : Nat}
    (hSize : n ≤ maxSize) :
    toSsize n = n := by
  have hLt : n < 2 ^ 63 := by
    rw [maxSize] at hSize
    omega
  have hNat : (BitVec.ofNat 64 n).toNat = n := by
    rw [BitVec.toNat_ofNat, Nat.mod_eq_of_lt (by omega)]
  rw [toSsize, BitVec.toInt_eq_toNat_of_lt
    (by rw [hNat]; omega), hNat]

/- Every host reads the length prefix the same way. -/
theorem netLength_eq
    {bytes : List Byte}
    (hLength : bytes.length = 8) :
    netLength host bytes = lengthHeader.decode bytes := by
  rw [netLength, Utils.fromBigEndian_ofHostBytes _
    (by rw [hLength])]
  rfl

/- The announced length, as `readMessage` computes it. -/
theorem netLength_take
    (host : Host)
    {stream : List Byte}
    (hHeader : 8 ≤ stream.length) :
    netLength host (stream.take 8) =
      Framing.announced lengthHeader stream :=
  netLength_eq (by rw [List.length_take]; omega)

/- A complete frame is read and taken off the stream. -/
theorem readMessage_of_nextFrame
    {k : Connection σ}
    {p rest : List Byte}
    (hNext :
      Framing.nextFrame lengthHeader k.incoming =
        some (p, rest))
    (hFits : Fits host p.length) :
    readMessage host k =
      (.ok p, { k with incoming := rest }) := by
  rcases
      Framing.eq_frame_of_nextFrame lengthHeader hNext with
    ⟨hStream, hNonempty, hBound⟩
  have hPos : p.length ≠ 0 := by
    simpa using hNonempty
  have hHeader : 8 ≤ k.incoming.length := by
    rw [hStream, List.length_append, Framing.length_frame,
      size_lengthHeader]
    omega
  have hTake : ((k.incoming.take 8).length : Int) = 8 := by
    rw [List.length_take]
    omega
  have hAnnounced :
      netLength host (k.incoming.take 8) = p.length := by
    rw [netLength_take host hHeader, hStream,
      Framing.announced_frame lengthHeader hBound]
  have hDrop : k.incoming.drop 8 = p ++ rest := by
    rw [hStream]
    exact Framing.drop_frame lengthHeader p rest
  have hRead : (p.length : Int) = toSsize p.length :=
    (toSsize_of_le hFits.1).symm
  simp only [readMessage, recv, hTake, hAnnounced, hPos, hDrop,
    allocate_of_fits hFits, List.take_left, List.drop_left,
    hRead, ne_eq, not_true_eq_false, if_false]

/-
  Where no frame can be taken off the stream, nothing is
  read, provided that the announced length can be allocated.
-/
theorem readMessage_of_none
    {k : Connection σ}
    (hNone :
      Framing.nextFrame lengthHeader k.incoming = none)
    (hFits :
      8 ≤ k.incoming.length →
        Fits host
          (Framing.announced lengthHeader k.incoming)) :
    ∃ rest,
      readMessage host k =
        (.ok [], { k with incoming := rest }) := by
  by_cases hHeader : 8 ≤ k.incoming.length
  · have hTake : ((k.incoming.take 8).length : Int) = 8 := by
      rw [List.length_take]
      omega
    have hAnnounced := netLength_take host hHeader
    have hAllocate := allocate_of_fits (hFits hHeader)
    rw [Framing.nextFrame, size_lengthHeader,
      if_neg (by omega)] at hNone
    split at hNone
    next hZero =>
      refine ⟨k.incoming.drop 8, ?_⟩
      simp only [readMessage, recv, hTake, hAnnounced, hZero,
        ne_eq, not_true_eq_false, if_false, if_true]
    next hZero =>
      split at hNone
      next hShort =>
        have hRead :
            (((k.incoming.drop 8).take
                (Framing.announced lengthHeader
                  k.incoming)).length : Int) ≠
              toSsize (Framing.announced lengthHeader
                k.incoming) := by
          rw [toSsize_of_le (hFits hHeader).1, List.length_take]
          omega
        refine ⟨(k.incoming.drop 8).drop
          (Framing.announced lengthHeader k.incoming), ?_⟩
        simp only [readMessage, recv, hTake, hAnnounced, hZero,
          hAllocate, hRead, ne_eq, not_true_eq_false,
          not_false_eq_true, if_false, if_true]
      next => cases hNone
  · have hTake : ((k.incoming.take 8).length : Int) ≠ 8 := by
      rw [List.length_take]
      omega
    refine ⟨k.incoming.drop 8, ?_⟩
    simp only [readMessage, recv, hTake, ne_eq,
      not_false_eq_true, if_true]

/- A length that cannot be allocated raises an exception. -/
theorem readMessage_of_not_fits
    {k : Connection σ}
    (hHeader : 8 ≤ k.incoming.length)
    (hFits :
      ¬ Fits host
        (Framing.announced lengthHeader k.incoming)) :
    ∃ e rest,
      readMessage host k =
        (.error e, { k with incoming := rest }) := by
  have hTake : ((k.incoming.take 8).length : Int) = 8 := by
    rw [List.length_take]
    omega
  have hAnnounced := netLength_take host hHeader
  have hZero :
      Framing.announced lengthHeader k.incoming ≠ 0 := by
    intro hZero
    rw [hZero] at hFits
    exact hFits ⟨Nat.zero_le _, Nat.zero_le _⟩
  rcases allocate_of_not_fits hFits with ⟨e, hAllocate⟩
  refine ⟨e, k.incoming.drop 8, ?_⟩
  simp only [readMessage, recv, hTake, hAnnounced, hZero,
    hAllocate, ne_eq, not_true_eq_false, if_false]

end RPCServer

end AnDbg

------------------------------------------------------------
-- Sending A Message
------------------------------------------------------------

namespace AnDbg

namespace RPCServer

variable {σ : Type}
variable (host : Host)

/- What is put on the wire is a frame. -/
theorem responseBuffer_eq_frame
    (data : List Byte) :
    responseBuffer host data =
      Framing.frame lengthHeader data := by
  rw [responseBuffer, Utils.hostBytes_toBigEndian]
  rfl

theorem length_responseBuffer
    (data : List Byte) :
    (responseBuffer host data).length = 8 + data.length := by
  rw [responseBuffer_eq_frame, Framing.length_frame]
  rfl

/- The whole buffer of so many bytes is taken. -/
def SendOutcome.delivers (n : Nat) : SendOutcome → Bool
| .delivered => true
| .cut sent => n ≤ sent
| .refused => false
| .peerGone => false

variable {host}
variable {data : List Byte}
variable {k : Connection σ}

/- A reply that is delivered is a frame in the trace. -/
theorem sendMessage_of_delivers
    (hFits : Fits host (8 + data.length))
    (hDelivers :
      (k.outcomes.headD .delivered).delivers
        (8 + data.length) = true) :
    sendMessage host data k =
      (.ok true,
        { k with
          outcomes := k.outcomes.tail
          trace :=
            k.trace ++
              [.sent (Framing.frame lengthHeader data)] }) := by
  have hLength := length_responseBuffer host data
  have hSize :
      toSsize (responseBuffer host data).length =
        (responseBuffer host data).length := by
    rw [hLength]
    exact toSsize_of_le hFits.1
  rw [← responseBuffer_eq_frame host data]
  cases hOutcome : k.outcomes.headD .delivered with
  | delivered =>
      simp only [sendMessage, allocate_of_fits hFits, send,
        hOutcome, hSize, ne_eq, not_true_eq_false, if_false]
  | cut sent =>
      rw [hOutcome] at hDelivers
      have hWhole :
          (responseBuffer host data).take sent =
            responseBuffer host data := by
        apply List.take_of_length_le
        rw [hLength]
        simpa [SendOutcome.delivers] using hDelivers
      simp only [sendMessage, allocate_of_fits hFits, send,
        hOutcome, hWhole, hSize, ne_eq, not_true_eq_false,
        if_false]
  | refused =>
      rw [hOutcome] at hDelivers
      cases hDelivers
  | peerGone =>
      rw [hOutcome] at hDelivers
      cases hDelivers

/- A reply that is cut off or refused is noticed. -/
theorem sendMessage_of_not_delivers
    (hFits : Fits host (8 + data.length))
    (hDelivers :
      (k.outcomes.headD .delivered).delivers
        (8 + data.length) = false)
    (hPeer : k.outcomes.headD .delivered ≠ .peerGone) :
    ∃ trace,
      sendMessage host data k =
        (.ok false,
          { k with
            outcomes := k.outcomes.tail
            trace := trace }) := by
  have hLength := length_responseBuffer host data
  have hSize :
      toSsize (responseBuffer host data).length =
        (responseBuffer host data).length := by
    rw [hLength]
    exact toSsize_of_le hFits.1
  cases hOutcome : k.outcomes.headD .delivered with
  | delivered =>
      rw [hOutcome] at hDelivers
      cases hDelivers
  | cut sent =>
      rw [hOutcome] at hDelivers
      have hShort : sent < 8 + data.length := by
        simpa [SendOutcome.delivers] using hDelivers
      have hCut :
          (((responseBuffer host data).take sent).length : Int) ≠
            (responseBuffer host data).length := by
        rw [List.length_take, hLength]
        omega
      refine ⟨k.trace ++
        [.sent ((responseBuffer host data).take sent)], ?_⟩
      simp only [sendMessage, allocate_of_fits hFits, send,
        hOutcome, hSize, hCut, ne_eq, not_false_eq_true,
        if_true]
  | refused =>
      have hNegative :
          (-1 : Int) ≠ (responseBuffer host data).length := by
        omega
      refine ⟨k.trace, ?_⟩
      simp only [sendMessage, allocate_of_fits hFits, send,
        hOutcome, hSize, hNegative, ne_eq, not_false_eq_true,
        if_true]
  | peerGone => exact absurd hOutcome hPeer

/- A gone peer, or too long a reply, ends the process. -/
theorem sendMessage_dies
    (hDies :
      ¬ Fits host (8 + data.length) ∨
        k.outcomes.headD .delivered = .peerGone) :
    ∃ d k', sendMessage host data k = (.error d, k') ∧
      k'.debugger = k.debugger := by
  by_cases hFits : Fits host (8 + data.length)
  · have hPeer := hDies.resolve_left (not_not_intro hFits)
    refine ⟨.sigpipe,
      { k with outcomes := k.outcomes.tail }, ?_, rfl⟩
    simp only [sendMessage, allocate_of_fits hFits, send, hPeer]
    rfl
  · rcases allocate_of_not_fits hFits with ⟨e, hAllocate⟩
    exact ⟨.uncaught e, k, by rw [sendMessage, hAllocate],
      rfl⟩

end RPCServer

end AnDbg

------------------------------------------------------------
-- Streams Of Messages
------------------------------------------------------------

namespace AnDbg

namespace RPCServer

variable {σ : Type}
variable (host : Host)

/- The bytes that a trace puts on the wire. -/
def wire (trace : List Event) : List Byte :=
  (trace.map fun
    | .called _ _ => []
    | .sent bytes => bytes).flatten

/- Send one message after the other. -/
def sendMessages :
    List Message → Connection σ →
      Except Death Bool × Connection σ
| [], k => (.ok true, k)
| m :: ms, k =>
    match sendMessage host (serializeMessage m) k with
    | (.ok true, k) => sendMessages ms k
    | (outcome, k) => (outcome, k)

/- Read so many messages one after the other. -/
def readMessages :
    Nat → Connection σ →
      Except StdException (List Message) × Connection σ
| 0, k => (.ok [], k)
| count + 1, k =>
    match readMessage host k with
    | (.error e, k) => (.error e, k)
    | (.ok data, k) =>
        match readMessages count k with
        | (.error e, k) => (.error e, k)
        | (.ok ms, k) => (.ok (deserializeMessage data :: ms), k)

variable {host}
variable {ms : List Message}

/- Messages that are all sent leave their frames behind. -/
theorem sendMessages_eq
    (hFits :
      ∀ m ∈ ms, Fits host (8 + (serializeMessage m).length))
    (incoming : List Byte)
    (s : σ)
    (trace : List Event) :
    sendMessages host ms ⟨incoming, [], s, trace⟩ =
      (.ok true,
        ⟨incoming, [], s,
          trace ++ ms.map fun m =>
            .sent (Framing.frame lengthHeader
              (serializeMessage m))⟩) := by
  induction ms generalizing trace with
  | nil => simp [sendMessages]
  | cons m ms ih =>
      rcases List.forall_mem_cons.mp hFits with
        ⟨hHere, hRest⟩
      have hSend :=
        sendMessage_of_delivers
          (k := (⟨incoming, [], s, trace⟩ : Connection σ))
          hHere rfl
      rw [sendMessages, hSend]
      change sendMessages host ms
        ⟨incoming, [], s, trace ++ [_]⟩ = _
      rw [ih hRest, List.append_assoc]
      rfl

theorem wire_sent
    (ps : List (List Byte)) :
    wire (ps.map Event.sent) = ps.flatten := by
  rw [wire, List.map_map]
  congr 1
  exact List.map_id ps

/- Frames laid end to end are read one by one. -/
theorem readMessages_eq
    (hCommand : ∀ m ∈ ms, separator ∉ m.command)
    (hFits : ∀ m ∈ ms, Fits host (serializeMessage m).length)
    (rest : List Byte)
    (outcomes : List SendOutcome)
    (s : σ)
    (trace : List Event) :
    readMessages host ms.length
        ⟨(ms.map fun m => Framing.frame lengthHeader
            (serializeMessage m)).flatten ++ rest,
          outcomes, s, trace⟩ =
      (.ok ms, ⟨rest, outcomes, s, trace⟩) := by
  induction ms with
  | nil => rfl
  | cons m ms ih =>
      rcases List.forall_mem_cons.mp hCommand with
        ⟨hHere, hTail⟩
      rcases List.forall_mem_cons.mp hFits with
        ⟨hHereFits, hTailFits⟩
      have hBound : (serializeMessage m).length < 2 ^ 64 := by
        have hSize := hHereFits.1
        rw [maxSize] at hSize
        omega
      have hNext :=
        Framing.nextFrame_frame lengthHeader
          ⟨serializeMessage_ne_nil m, hBound⟩
          ((ms.map fun m => Framing.frame lengthHeader
            (serializeMessage m)).flatten ++ rest)
      rw [List.map_cons, List.flatten_cons, List.append_assoc,
        List.length_cons, readMessages,
        readMessage_of_nextFrame hNext hHereFits]
      dsimp only
      rw [ih hTail hTailFits, deserialize_serialize hHere]

/- What is sent with success is the length and the data. -/
theorem eq_of_sendMessage
    {data : List Byte}
    {k k' : Connection σ}
    (hSend : sendMessage host data k = (.ok true, k')) :
    k'.trace =
      k.trace ++
        [.sent (lengthHeader.encode data.length ++ data)] := by
  by_cases hFits : Fits host (8 + data.length)
  · cases hDelivers :
        (k.outcomes.headD .delivered).delivers
          (8 + data.length) with
    | true =>
        rw [sendMessage_of_delivers hFits hDelivers] at hSend
        rcases Prod.mk.inj hSend with ⟨-, rfl⟩
        rfl
    | false =>
        by_cases hPeer :
            k.outcomes.headD .delivered = .peerGone
        · obtain ⟨d, k'', hDies, -⟩ :
              ∃ d k'', sendMessage host data k =
                  (.error d, k'') ∧ k''.debugger = k.debugger :=
            sendMessage_dies (.inr hPeer)
          rw [hDies] at hSend
          cases (Prod.mk.inj hSend).1
        · rcases
              sendMessage_of_not_delivers hFits hDelivers hPeer
              with ⟨trace, hFails⟩
          rw [hFails] at hSend
          cases (Prod.mk.inj hSend).1
  · rcases sendMessage_dies (k := k) (.inl hFits) with
      ⟨d, k'', hDies, -⟩
    rw [hDies] at hSend
    cases (Prod.mk.inj hSend).1

end RPCServer

end AnDbg

------------------------------------------------------------
-- The Round Trip
------------------------------------------------------------

namespace AnDbg

namespace RPCServer

variable {σ : Type}

/-
  Messages that are sent are read back from the frames on
  the wire, which are used up; a frame begins with the
  length of its payload, highest byte first; and a payload
  with a separator is the message that it stands for.
-/
theorem wire_round_trip
    (host : Host)
    {ms : List Message}
    (hCommand : ∀ m ∈ ms, separator ∉ m.command)
    (hLength :
      ∀ m ∈ ms, (serializeMessage m).length < 2 ^ 63 - 8)
    (hMemory :
      ∀ m ∈ ms,
        8 + (serializeMessage m).length ≤ host.available)
    (rest : List Byte)
    (s : σ) :
    (∃ k,
      sendMessages host ms ⟨[], [], s, []⟩ = (.ok true, k) ∧
        readMessages host ms.length
            ⟨wire k.trace ++ rest, [], s, []⟩ =
          (.ok ms, ⟨rest, [], s, []⟩)) ∧
      (∀ (data : List Byte) (k k' : Connection σ),
        sendMessage host data k = (.ok true, k') →
          ∃ header,
            k'.trace = k.trace ++ [.sent (header ++ data)] ∧
              header.length = 8 ∧
              ∀ i < 8,
                header[i]? =
                  some (BitVec.ofNat 8
                    (data.length / 256 ^ (7 - i)))) ∧
      ∀ data,
        separator ∈ data →
          serializeMessage (deserializeMessage data) = data := by
  have hBuffer :
      ∀ m ∈ ms, Fits host (8 + (serializeMessage m).length) := by
    intro m hm
    have hHere := hLength m hm
    exact ⟨by rw [maxSize]; omega, hMemory m hm⟩
  have hVector :
      ∀ m ∈ ms, Fits host (serializeMessage m).length := by
    intro m hm
    have hHere := hBuffer m hm
    exact ⟨Nat.le_of_add_left_le hHere.1,
      Nat.le_of_add_left_le hHere.2⟩
  refine ⟨⟨_, sendMessages_eq hBuffer [] s [], ?_⟩, ?_, ?_⟩
  · have hWire :
        wire (ms.map fun m =>
            .sent (Framing.frame lengthHeader
              (serializeMessage m))) =
          (ms.map fun m => Framing.frame lengthHeader
            (serializeMessage m)).flatten := by
      rw [← wire_sent, List.map_map]
      rfl
    rw [List.nil_append, hWire]
    exact readMessages_eq hCommand hVector rest [] s []
  · intro data k k' hSend
    exact ⟨lengthHeader.encode data.length,
      eq_of_sendMessage hSend,
      lengthHeader.length_encode data.length,
      fun i hi => getElem?_encode_lengthHeader _ hi⟩
  · intro data hData
    exact serialize_deserialize hData

/- A command with a separator in its content. -/
theorem wire_round_trip_ping :
    let ms : List Message :=
      [⟨ascii "ping", ascii "a|b"⟩, ⟨[], [0#8]⟩]
    (∃ k,
      sendMessages ⟨true, 64⟩ ms ⟨[], [], (), []⟩ =
          (.ok true, k) ∧
        readMessages ⟨true, 64⟩ ms.length
            ⟨wire k.trace ++ [], [], (), []⟩ =
          (.ok ms, ⟨[], [], (), []⟩)) :=
  (wire_round_trip ⟨true, 64⟩ (by decide) (by decide)
    (by decide) [] ()).1

end RPCServer

end AnDbg
