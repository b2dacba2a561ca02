import AnDbg.Base.Status
import AnDbg.Base.Utils
import AnDbg.Lib.UnorderedMap

/-
  The RPC server of the debugger.

  A connection is seen from the server: the bytes that the
  client still sends before it goes away, how the coming
  calls of `send` end, and a trace of what the server did.
  The handlers share a state, which is the debugger's.
  What ends the process, an exception that nobody catches or
  a signal, is a value of type `Death`.

  Main declarations:
    * `AnDbg.RPCServer.readMessage` and `sendMessage`
    * `AnDbg.RPCServer.deserializeMessage` and
      `serializeMessage`
    * `AnDbg.RPCServer.handleClient`
    * `AnDbg.RPCServer.serverLoop`
-/

------------------------------------------------------------
-- Messages And Their Handlers
------------------------------------------------------------

namespace AnDbg

namespace RPCServer

/- A command with its parameters, or a reply. -/
structure Message where
  command : StdString
  content : StdString
deriving DecidableEq, Repr

/-
  A handler ends with a status, or with an exception whose
  `what()` is given.
-/
abbrev Handler (σ : Type) :=
  StdString → σ → Except StdString Status × σ

/- The character between a command and its content. -/
def separator : Byte := 0x7C#8

/- `deserialize_message`. -/
def deserializeMessage (data : List Byte) : Message :=
  let pos := data.findIdx fun b => b == separator
  if pos = data.length then
    ⟨[], []⟩
  else
    ⟨data.take pos, data.drop (pos + 1)⟩

/- `serialize_message`. -/
def serializeMessage (message : Message) : List Byte :=
  message.command ++ [separator] ++ message.content

end RPCServer

end AnDbg

------------------------------------------------------------
-- The Host And Its Sockets
------------------------------------------------------------

namespace AnDbg

namespace RPCServer

variable {σ : Type}

/- The machine that the server runs on. -/
structure Host where
  littleEndian : Bool
  available : Nat
deriving DecidableEq, Repr

/- `max_size()` of a vector of characters. -/
def maxSize : Nat := 2 ^ 63 - 1

/- Allocate the storage of a vector of `n` characters. -/
def allocate
    (host : Host)
    (n : Nat) : Except StdException Unit :=
  if maxSize < n then
    .error .lengthError
  else if host.available < n then
    .error .badAlloc
  else
    .ok ()

/- `static_cast<ssize_t>`. -/
def toSsize (n : Nat) : Int :=
  (BitVec.ofNat 64 n).toInt

/- How a call of `send` ends. -/
inductive SendOutcome
  | delivered
  | cut (sent : Nat)
  | refused
  | peerGone
deriving DecidableEq, Repr

/- What the server does for a client. -/
inductive Event
  | called (command content : StdString)
  | sent (bytes : List Byte)
deriving DecidableEq, Repr

/-
  A client's connection, with the state that the handlers
  share.  Sends beyond the listed outcomes are delivered.
-/
structure Connection (σ : Type) where
  incoming : List Byte
  outcomes : List SendOutcome
  debugger : σ
  trace : List Event

/-
  `recv` with `MSG_WAITALL`: it waits for `n` bytes and gets
  fewer only when the client goes away.
-/
def recv
    (n : Nat)
    (k : Connection σ) : Int × List Byte × Connection σ :=
  let bytes := k.incoming.take n
  (bytes.length, bytes,
    { k with incoming := k.incoming.drop n })

/-
  `send`; without `MSG_NOSIGNAL` a peer that is gone raises
  SIGPIPE, for which there is no result.
-/
def send
    (noSignal : Bool)
    (bytes : List Byte)
    (k : Connection σ) : Option Int × Connection σ :=
  let rest := { k with outcomes := k.outcomes.tail }
  match k.outcomes.headD .delivered with
  | .delivered =>
      (some bytes.length,
        { rest with trace := k.trace ++ [.sent bytes] })
  | .cut sent =>
      (some (bytes.take sent).length,
        { rest with
          trace := k.trace ++ [.sent (bytes.take sent)] })
  | .refused => (some (-1), rest)
  | .peerGone =>
      (if noSignal then some (-1) else none, rest)

/- What ends the process. -/
inductive Death
  | uncaught (e : StdException)
  | sigpipe
deriving DecidableEq, Repr

end RPCServer

end AnDbg

------------------------------------------------------------
-- Reading And Sending Messages
------------------------------------------------------------

namespace AnDbg

namespace RPCServer

variable {σ : Type}
variable (host : Host)

/- The length that eight received bytes stand for. -/
def netLength (bytes : List Byte) : Nat :=
  (Utils.fromBigEndian host.littleEndian
    (Utils.ofHostBytes host.littleEndian 64 bytes)).toNat

/- `read_message`. -/
def readMessage
    (k : Connection σ) :
    Except StdException (List Byte) × Connection σ :=
  let (n, bytes, k) := recv 8 k
  if n ≠ 8 then
    (.ok [], k)
  else
    let length := netLength host bytes
    if length = 0 then
      (.ok [], k)
    else
      match allocate host length with
      | .error e => (.error e, k)
      | .ok () =>
          let (n, data, k) := recv length k
          if n ≠ toSsize length then
            (.ok [], k)
          else
            (.ok data, k)

/- The buffer that `send_message` fills. -/
def responseBuffer (data : List Byte) : List Byte :=
  Utils.hostBytes host.littleEndian
    (Utils.toBigEndian host.littleEndian
      (BitVec.ofNat 64 data.length)) ++ data

/- `send_message`. -/
def sendMessage
    (data : List Byte)
    (k : Connection σ) :
    Except Death Bool × Connection σ :=
  match allocate host (8 + data.length) with
  | .error e => (.error (.uncaught e), k)
  | .ok () =>
      let response := responseBuffer host data
      match send false response k with
      | (none, k) => (.error .sigpipe, k)
      | (some n, k) =>
          if n ≠ toSsize response.length then
            (.ok false, k)
          else
            (.ok true, k)

end RPCServer

end AnDbg

------------------------------------------------------------
-- Answering A Request
------------------------------------------------------------

namespace AnDbg

namespace RPCServer

variable {σ : Type}

/-
  The handler that the constructor registers.  Overload
  resolution takes `Status::success(params)` to the JSON
  version, so the text is dumped as a JSON string, which
  throws on bytes that are no UTF-8.
-/
def ping
    (dump : StdString → Except StdString StdString) :
    Handler σ :=
  fun params s =>
    let text := if params.isEmpty then ascii "pong" else params
    ((dump text).map Status.success, s)

/- The reply to a status that a handler returned. -/
def statusReply (status : Status) : Message :=
  if status.isSuccess then
    ⟨ascii "success", cStr status.string⟩
  else
    ⟨ascii "fail", cStr status.string⟩

/- The reply to an exception that a handler threw. -/
def exceptionReply (what : StdString) : Message :=
  ⟨ascii "error", utf8 "处理命令时发生异常: " ++ cStr what⟩

/- The reply to a command that nobody handles. -/
def unknownReply (command : StdString) : Message :=
  ⟨ascii "error", utf8 "未知命令: " ++ command⟩

/-
  The part of `handle_client` that finds the response, with
  the call that is made for it.
-/
def respond
    (handlers : UnorderedMap StdString (Handler σ))
    (message : Message)
    (s : σ) : Message × List Event × σ :=
  match handlers.lookup message.command with
  | none => (unknownReply message.command, [], s)
  | some handler =>
      let called :=
        [.called message.command message.content]
      match handler message.content s with
      | (.ok status, s) => (statusReply status, called, s)
      | (.error what, s) => (exceptionReply what, called, s)

end RPCServer

end AnDbg

------------------------------------------------------------
-- Serving Clients
------------------------------------------------------------

namespace AnDbg

/- The server's fields. -/
structure RPCServer (σ : Type) where
  running : Bool
  connected : Bool
  currentClientFd : Int
  handlers : UnorderedMap StdString (RPCServer.Handler σ)

namespace RPCServer

variable {σ : Type}
variable (host : Host)

/- `RPCServer::RPCServer`. -/
def new
    (dump : StdString → Except StdString StdString) :
    RPCServer σ where
  running := false
  connected := false
  currentClientFd := -1
  handlers := Finmap.singleton (ascii "ping") (ping dump)

/- `register_handler`. -/
def registerHandler
    (command : StdString)
    (handler : Handler σ)
    (r : RPCServer σ) : RPCServer σ :=
  { r with handlers := r.handlers.insert command handler }

/- How a round of `handle_client` ends. -/
inductive Turn
  | again
  | leave
  | die (d : Death)
deriving DecidableEq, Repr

/- One round of the loop of `handle_client`. -/
def handleRequest
    (r : RPCServer σ)
    (k : Connection σ) : Turn × Connection σ :=
  if !r.running then
    (.leave, k)
  else
    match readMessage host k with
    | (.error e, k) => (.die (.uncaught e), k)
    | (.ok data, k) =>
        if data.isEmpty then
          (.leave, k)
        else
          let (response, called, s) :=
            respond r.handlers (deserializeMessage data)
              k.debugger
          let k :=
            { k with debugger := s, trace := k.trace ++ called }
          match sendMessage host (serializeMessage response) k with
          | (.error d, k) => (.die d, k)
          | (.ok sent, k) =>
              if !sent then
                (.leave, k)
              else
                (.again, k)

/-
  `handle_client`.  There is no result when the rounds that
  it is given are not enough.
-/
def handleClient
    (r : RPCServer σ) :
    Nat → Connection σ →
      Option (Except Death Unit × Connection σ)
| 0, _ => none
| rounds + 1, k =>
    match handleRequest host r k with
    | (.again, k) => handleClient r rounds k
    | (.leave, k) => some (.ok (), k)
    | (.die d, k) => some (.error d, k)

/- A client: what it sends and how it takes the replies. -/
structure Client where
  fd : Nat
  incoming : List Byte
  outcomes : List SendOutcome
deriving DecidableEq, Repr

/- What a call of `accept` comes back with. -/
inductive Accept
  | client (c : Client)
  | interrupted
  | failed
deriving DecidableEq, Repr

/-
  The state of `server_loop`, with `connected_` and
  `current_client_fd_` as they were at each call of
  `accept`.
-/
structure Loop (σ : Type) where
  server : RPCServer σ
  debugger : σ
  accepts : List (Bool × Int)

/- How far `server_loop` has come. -/
inductive Progress
  | waiting
  | ended
  | died (d : Death)
deriving DecidableEq, Repr

/- `safe_close_fd`. -/
def safeCloseFd (fd : Int) : Int :=
  if fd ≥ 0 then -1 else fd

/- The part of `server_loop` before `handle_client`. -/
def connect
    (fd : Int)
    (r : RPCServer σ) : RPCServer σ :=
  let r :=
    if r.connected then
      { r with currentClientFd := safeCloseFd r.currentClientFd }
    else
      r
  { r with currentClientFd := fd, connected := true }

/- The part of `server_loop` after `handle_client`. -/
def disconnect (r : RPCServer σ) : RPCServer σ :=
  { r with
    currentClientFd := safeCloseFd r.currentClientFd
    connected := false }

/-
  `server_loop`, given what the calls of `accept` come back
  with; after the last of them it waits in `accept`.
-/
def serverLoop
    (rounds : Nat)
    (accepts : List Accept)
    (l : Loop σ) : Option (Progress × Loop σ) :=
  if !l.server.running then
    some (.ended, l)
  else
    let l := { l with
      accepts := l.accepts ++
        [(l.server.connected, l.server.currentClientFd)] }
    match accepts with
    | [] => some (.waiting, l)
    | .interrupted :: accepts => serverLoop rounds accepts l
    | .failed :: _ => some (.ended, l)
    | .client c :: accepts =>
        let r := connect c.fd l.server
        match handleClient host r rounds
            ⟨c.incoming, c.outcomes, l.debugger, []⟩ with
        | none => none
        | some (.error d, k) =>
            some (.died d,
              { l with server := r, debugger := k.debugger })
        | some (.ok (), k) =>
            serverLoop rounds accepts
              { l with
                server := disconnect r
                debugger := k.debugger }

end RPCServer

end AnDbg
