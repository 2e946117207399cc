import SwbtDaemon.Client.DebugClient
import SwbtDaemon.Ipc.Server
import SwbtDaemon.Lib.Lines
import SwbtDaemon.Lib.Runs
import SwbtDaemon.Lib.Search

/-!
# A session of the debug client

`swbt_debug_client_run_io`: the requests of the client, one after the other, over a connection that
sends a request and receives a response. A response is the string that a receive leaves in the
buffer of the client. `Peer` is the daemon at the other end.
-/

namespace Swbt.DebugClient

open CString Ipc

/-- `swbt_debug_client_io_t`: what a send and a receive into a buffer of the given size do to the
other end. -/
structure Io (τ : Type) where
  send : τ → List UInt8 → Bool × τ
  receive : τ → Nat → Option (List UInt8) × τ

/-! ## Requests -/

/-- The line of `swbt_debug_client_io_send_hello`. -/
def helloRequest : List UInt8 :=
  bytes "\x7b\"v\":1,\"type\":\"hello\",\"client_name\":\"swbt-debug-client\"," ++
    bytes "\"request_id\":\"h1\"\x7d\n"

/-- The line of `swbt_debug_client_io_send_acquire`. -/
def acquireRequest : List UInt8 :=
  bytes "\x7b\"v\":1,\"type\":\"acquire\",\"mode\":\"exclusive\",\"request_id\":\"a1\"\x7d\n"

/-- The line of `swbt_debug_client_io_send_get_status`. -/
def getStatusRequest : List UInt8 :=
  bytes "\x7b\"v\":1,\"type\":\"get_status\",\"request_id\":\"g1\"\x7d\n"

/-- The text of `swbt_debug_client_io_send_release`. -/
def releaseText (ownerId : List UInt8) : List UInt8 :=
  bytes "\x7b\"v\":1,\"type\":\"release\",\"owner_id\":\"" ++ ownerId ++
    bytes "\",\"request_id\":\"r1\"\x7d\n"

/-- `swbt_debug_client_io_send_release`: the line that is sent. -/
def ioSendRelease (ownerId : List UInt8) : Option (List UInt8) := ioSendFormat (releaseText ownerId)

/-! ## Responses -/

/-- `swbt_debug_client_response_contains` for the `type` member of a response. -/
def responseContains (response : List UInt8) (type : String) : Bool :=
  contains response (bytes "\"type\":\"" ++ bytes type ++ bytes "\"")

/-- `swbt_debug_client_response_string` with an output buffer of `outSize` bytes. -/
def responseString (response key : List UInt8) (outSize : Nat) : Option (List UInt8) :=
  if outSize = 0 then none
  else if key.length > 64 - 5 then none
  else
    let pattern := 0x22 :: (key ++ [0x22, 0x3A, 0x22])
    match strstr response pattern with
    | none => none
    | some found =>
      let start := found.drop pattern.length
      if 0x22 ∉ start then none
      else
        let text := start.takeWhile (· != 0x22)
        if text.length + 1 > outSize then none else some text

/-- The size of the buffers `client_id` and `owner_id`. -/
def idSize : Nat := 9

/-! ## The run -/

section Run

variable {τ : Type} (config : Config) (io : Io τ)

/-- A request that could be formatted is sent, and the response is received into a buffer of
`SWBT_IPC_JSON_RESPONSE_MAX` bytes; also `swbt_debug_client_send_receive`. -/
def sendReceive (peer : τ) (request : Option (List UInt8)) : Option (List UInt8) × τ :=
  match request with
  | none => (none, peer)
  | some line =>
    match io.send peer line with
    | (false, peer) => (none, peer)
    | (true, peer) =>
      let r := io.receive peer jsonResponseMax
      (r.1.map ofArray, r.2)

/-- `swbt_debug_client_release_best_effort`, whose result nothing uses. -/
def releaseBestEffort (peer : τ) (ownerId : List UInt8) : τ :=
  if ownerId = [] then peer else (sendReceive io peer (ioSendRelease ownerId)).2

/-- What a run leaves: the result, the texts on the two streams and the other end. -/
structure Outcome (τ : Type) where
  result : Nat
  out : List UInt8
  err : List UInt8
  peer : τ

/-- A run that writes `text` to the error stream only and fails. -/
def failed (text : List UInt8) (peer : τ) : Outcome τ := ⟨1, [], text, peer⟩

/-- The end of `swbt_debug_client_run_io`, after the status has been written. -/
def runRelease (peer : τ) (ownerId status : List UInt8) : Outcome τ :=
  if config.skipRelease then ⟨0, status, [], peer⟩
  else
    match sendReceive io peer (ioSendRelease ownerId) with
    | (none, peer) => ⟨1, status, bytes "release failed\n", peer⟩
    | (some response, peer) =>
      if responseContains response "error" then ⟨1, status, bytes "release failed\n", peer⟩
      else ⟨0, status, [], peer⟩

/-- `swbt_debug_client_run_io` from the status request on. -/
def runStatus (peer : τ) (ownerId : List UInt8) : Outcome τ :=
  match sendReceive io peer (some getStatusRequest) with
  | (none, peer) => failed (bytes "get_status failed\n") (releaseBestEffort io peer ownerId)
  | (some response, peer) =>
    if responseContains response "error" then
      failed (bytes "get_status failed\n") (releaseBestEffort io peer ownerId)
    else runRelease config io peer ownerId response

/-- `swbt_debug_client_run_io` as the owner `ownerId`. -/
def runOwner (peer : τ) (ownerId : List UInt8) : Outcome τ :=
  match sendReceive io peer (ioSendSetState ownerId config.state config.sequence) with
  | (none, peer) => failed (bytes "set_state failed\n") (releaseBestEffort io peer ownerId)
  | (some response, peer) =>
    if responseContains response "error" then
      failed response (releaseBestEffort io peer ownerId)
    else runStatus config io peer ownerId

/-- `swbt_debug_client_run_io` from the acquire request on. -/
def runAcquire (peer : τ) : Outcome τ :=
  match sendReceive io peer (some acquireRequest) with
  | (none, peer) => failed (bytes "acquire failed\n") peer
  | (some response, peer) =>
    if responseContains response "error" then failed response peer
    else if !responseContains response "acquired" then
      failed (bytes "acquire response is invalid\n") peer
    else
      match responseString response (bytes "owner_id") idSize with
      | none => failed (bytes "acquire response is invalid\n") peer
      | some ownerId => runOwner config io peer ownerId

/-- `swbt_debug_client_run_io`. -/
def runIo (peer : τ) : Outcome τ :=
  match sendReceive io peer (some helloRequest) with
  | (none, peer) => failed (bytes "hello failed\n") peer
  | (some response, peer) =>
    if !responseContains response "hello_ok" then failed (bytes "hello failed\n") peer
    else
      match responseString response (bytes "client_id") idSize with
      | none => failed (bytes "hello failed\n") peer
      | some _ => runAcquire config io peer

end Run

/-! ## Records -/

/-- What passes over a connection. -/
inductive Message where
  | sent (line : List UInt8)
  | received (response : List UInt8)
deriving DecidableEq, Repr

/-- The line of a message that was sent. -/
def Message.line? : Message → Option (List UInt8)
  | .sent line => some line
  | .received _ => none

/-- The connection `io` together with a record of what passes over it. -/
def Io.recorded {τ : Type} (io : Io τ) : Io (τ × List Message) where
  send peer line :=
    let r := io.send peer.1 line
    (r.1, (r.2, peer.2 ++ [.sent line]))
  receive peer size :=
    let r := io.receive peer.1 size
    (r.1, (r.2, peer.2 ++ (r.1.map fun response => .received (ofArray response)).toList))

/-- The outcome without the record. -/
def Outcome.forget {τ : Type} (outcome : Outcome (τ × List Message)) : Outcome τ :=
  ⟨outcome.result, outcome.out, outcome.err, outcome.peer.1⟩

/-- The lines that are sent in the messages. -/
def lines (messages : List Message) : List (List UInt8) := messages.filterMap Message.line?

/-- The requests that a session makes as the owner `ownerId`. -/
def script (config : Config) (ownerId : List UInt8) : List (List UInt8) :=
  (ioSendSetState ownerId config.state config.sequence).toList ++
    getStatusRequest :: (ioSendRelease ownerId).toList

/-- What a session has done at its end with `requests`, the last of which is the release of
`ownerId`. -/
structure Finished {τ : Type} (config : Config) (ownerId : List UInt8)
    (requests : List (List UInt8)) (messages : List Message) (outcome : Outcome τ) : Prop where
  result : outcome.result ≤ 1
  silent : outcome.result = 0 → outcome.err = []
  /-- Each request is made at most once, in order. -/
  ordered : (lines messages).Sublist requests
  /-- A success makes all of them, but for a release that is not wanted. -/
  complete : outcome.result = 0 →
    lines messages = if config.skipRelease then requests.dropLast else requests
  /-- The release is the last request, but for a success that does not want it. -/
  released : ownerId ≠ [] → (outcome.result = 0 ∧ config.skipRelease = true) ∨
    (lines messages).getLast? = some (releaseText ownerId)
  /-- What is written is the answer to the status request, and not an error. -/
  shown : outcome.result = 0 ∨ outcome.out ≠ [] →
    responseContains outcome.out "error" = false ∧ ∃ before after,
      messages = before ++ .sent getStatusRequest :: .received outcome.out :: after

/-- The messages of a session are the greeting, the grant of the ownership to `ownerId` and then
`later`. -/
def Granted (ownerId : List UInt8) (messages later : List Message) : Prop :=
  ∃ hello acquired, responseContains hello "hello_ok" = true ∧
    responseContains acquired "error" = false ∧ responseContains acquired "acquired" = true ∧
    responseString acquired (bytes "owner_id") idSize = some ownerId ∧
    messages = .sent helloRequest :: .received hello :: .sent acquireRequest ::
      .received acquired :: later

/-- How a recorded session may end: before it owns anything, with no more than the greeting and the
request for the ownership made; or as the owner that it was told to be. -/
def Orderly {τ : Type} (config : Config) (outcome : Outcome (τ × List Message)) : Prop :=
  (outcome.result = 1 ∧ outcome.out = [] ∧
    (lines outcome.peer.2).Sublist [helloRequest, acquireRequest]) ∨
  ∃ ownerId later, Granted ownerId outcome.peer.2 later ∧
    Finished config ownerId (script config ownerId) later outcome

/-! ## The daemon at the other end -/

/-- The daemon as the client sees it over its socket. -/
structure Peer where
  control : Control
  /-- The id that the daemon gave to the connection. -/
  clientId : UInt32
  /-- What the daemon has sent and the client has not read. -/
  unread : List UInt8
  /-- The domain operations that come before each request: of other clients and of the daemon. -/
  between : List (List Domain.Op)

namespace Peer

/-- The daemon after the operations that come before the next request. -/
def interleave (peer : Peer) : Peer :=
  { peer with
    control := { peer.control with
      app := Runs.run Domain.step peer.control.app (peer.between.headD []) }
    between := peer.between.tail }

/-- The daemon handles a line of the client and sends the response, if there is one. -/
def handle [Platform] (peer : Peer) (line : List UInt8) : Peer :=
  let r := handleLine peer.control peer.clientId (ofArray line) jsonResponseMax
  { peer with
    control := r.2
    unread := peer.unread ++
      match r.1 with
      | .ok response => response
      | .error _ => [] }

/-- `swbt_debug_client_receive_response` with a buffer of `bufferSize` bytes that holds `buffer`:
the response and the bytes that are left. It fails when the daemon sends no more. -/
def receiveResponse (bufferSize : Nat) (buffer : List UInt8) :
    List UInt8 → Option (List UInt8) × List UInt8
  | [] => (none, [])
  | byte :: unread =>
    if buffer.length + 1 ≥ bufferSize then (none, unread)
    else if byte = newline then (some (buffer ++ [byte]), unread)
    else receiveResponse bufferSize (buffer ++ [byte]) unread

/-- The connection of the client to the daemon. Each line that is sent waits for the operations
that come before it. -/
def io [Platform] : Io Peer where
  send peer data :=
    (true, Runs.run (fun peer line => peer.interleave.handle line) peer
      (Lines.completeLines newline data))
  receive peer size :=
    let r := receiveResponse size [] peer.unread
    (r.1, { peer with unread := r.2 })

end Peer

end Swbt.DebugClient
