import AnDbg.Base.RPCServer.WireFormat

/-
  The client of the RPC server that the tests use.

  A client makes one request after the other.  Between two
  calls into its socket it is in one of a few places of
  `send_command`, with the bytes it has so far; a call of
  `recv` gets any part of what it asks for.  A text of the
  client is kept as the bytes that encode it.

  Main declarations:
    * `AnDbg.RPCClient.message`
    * `AnDbg.RPCClient.Place`
    * `AnDbg.RPCClient.sendCommand`
    * `AnDbg.RPCClient.sent` and `AnDbg.RPCClient.received`
-/

------------------------------------------------------------
-- Messages
------------------------------------------------------------

namespace AnDbg

namespace RPCClient

open LittleEndian

/-
  The parameters that `send_command` is given, a dictionary
  with the text that `json.dumps` makes of it.
-/
inductive Params
  | none
  | bytes (params : List Byte)
  | str (encoded : List Byte)
  | dict (dumped : List Byte)
  | other
deriving DecidableEq, Repr

/- What is put behind the separator. -/
def Params.encoded : Params → List Byte
| .none => []
| .bytes params => params
| .str encoded => encoded
| .dict dumped => dumped
-- such as a `bytearray`, which is dropped
| .other => []

/- A command with its parameters. -/
structure Request where
  command : StdString
  params : Params
deriving DecidableEq, Repr

/- The message of a request. -/
def message (request : Request) : List Byte :=
  request.command ++ [0x7C#8] ++ request.params.encoded

/- `struct.pack('!Q', n)`. -/
def pack (n : Nat) : List Byte :=
  (encode 8 (BitVec.ofNat 64 n)).reverse

/- `struct.unpack('!Q', data)[0]`. -/
def unpack (data : List Byte) : Nat :=
  (decode 64 data.reverse).toNat

end RPCClient

end AnDbg

------------------------------------------------------------
-- Sending A Command
------------------------------------------------------------

namespace AnDbg

namespace RPCClient

/-
  Where the client is: between two commands, in `sendall`
  with the bytes still to be sent, or in one of the two
  calls of `_recv_all` with the bytes got so far.
-/
inductive Place
  | idle
  | sendall (data : List Byte)
  | recvLength (data : List Byte)
  | recvResponse (length : Nat) (data : List Byte)
deriving DecidableEq, Repr

end RPCClient

/- The requests still to be made and the answers got. -/
structure RPCClient where
  place : RPCClient.Place
  requests : List RPCClient.Request
  answers : List (Option StdString)
deriving DecidableEq, Repr

namespace RPCClient

/- A connected client before its first request. -/
def connected (requests : List Request) : RPCClient where
  place := .idle
  requests := requests
  answers := []

/- `send_command`, up to the call of `sendall`. -/
def sendCommand
    (request : Request)
    (requests : List Request)
    (c : RPCClient) : RPCClient :=
  let msg := message request
  { c with
    place := .sendall (pack msg.length ++ msg)
    requests := requests }

/- `sendall`, when `n` more bytes were taken. -/
def sent
    (n : Nat)
    (data : List Byte)
    (c : RPCClient) : RPCClient :=
  let rest := data.drop n
  { c with
    place :=
      if rest.isEmpty then .recvLength [] else .sendall rest }

/- `send_command` returns. -/
def returns
    (answer : Option StdString)
    (c : RPCClient) : RPCClient :=
  { c with place := .idle, answers := c.answers ++ [answer] }

/- How many bytes the coming call of `recv` asks for. -/
def asked (c : RPCClient) : Nat :=
  match c.place with
  | .idle => 0
  | .sendall _ => 0
  | .recvLength data => 8 - data.length
  | .recvResponse length data => length - data.length

variable (isUtf8 : List Byte → Bool)

/- `response.decode('utf-8')`, whose exception is caught. -/
def decoded (response : List Byte) : Option StdString :=
  if isUtf8 response then some response else none

/- The loop of `_recv_all(resp_len)`, with the data so far. -/
def recvResponse
    (length : Nat)
    (data : List Byte)
    (c : RPCClient) : RPCClient :=
  if data.length < length then
    { c with place := .recvResponse length data }
  else
    c.returns (decoded isUtf8 data)

/- The loop of `_recv_all(8)`, with the data so far. -/
def recvLength
    (data : List Byte)
    (c : RPCClient) : RPCClient :=
  if data.length < 8 then
    { c with place := .recvLength data }
  else
    c.recvResponse isUtf8 (unpack data) []

/- A call of `recv` returns a chunk. -/
def received
    (chunk : List Byte)
    (c : RPCClient) : RPCClient :=
  match c.place with
  | .idle => c
  | .sendall _ => c
  | .recvLength data => c.recvLength isUtf8 (data ++ chunk)
  | .recvResponse length data =>
    c.recvResponse isUtf8 length (data ++ chunk)

/- A call fails, or the server has closed the connection. -/
def gaveUp (c : RPCClient) : RPCClient :=
  c.returns none

end RPCClient

end AnDbg

------------------------------------------------------------
-- Frames Of The Client
------------------------------------------------------------

namespace AnDbg

namespace RPCClient

open RPCServer

/- The client reads a length as the server writes it. -/
theorem unpack_eq
    (data : List Byte) :
    unpack data = lengthHeader.decode data := rfl

theorem message_ne_nil
    (request : Request) :
    message request ≠ [] := by
  simp [message]

end RPCClient

end AnDbg
