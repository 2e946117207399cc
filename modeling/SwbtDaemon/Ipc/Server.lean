import SwbtDaemon.Ipc.Adapter

/-!
# The IPC server

`ipc/ipc_server.c`. What the sockets do is input: the answers of `select`, `recv`, `accept` and
`send` are given to each call, and the bytes that the peer has sent and the daemon has not read yet
are the `inbox`, from which a successful `recv` takes the next one. A `recv` on an empty inbox
reports that the peer closed.
-/

namespace Swbt.Ipc

open CString

namespace Server

/-- `swbt_ipc_server_result_t`. -/
inductive Result where
  | ok
  | invalidArgument
  | socket
  | unsupportedBind
  | disconnected
  | messageTooLong
  | heartbeatTimeout
deriving DecidableEq, Repr

end Server

/-- What one `select` on a socket answers. -/
inductive SelectAnswer where
  | error
  | notReady
  | ready
deriving DecidableEq, Repr

/-- What one round of the read loop is answered: the `select`, then the `recv` when it is ready. -/
inductive ReadAnswer where
  | selectError
  | notReady
  | ready
  | recvError
deriving DecidableEq, Repr

/-! ## Connections -/

/-- `swbt_ipc_connection_t`. The first `line_length` bytes of the line buffer are `line`. -/
structure Connection where
  socketOpen : Bool
  clientId : UInt32
  line : List UInt8
  lastHeartbeatMs : UInt64
  heartbeatTimeoutMs : UInt64
  heartbeatEnabled : Bool
  opened : Bool
deriving DecidableEq, Repr

namespace Connection

/-- A connection with all fields cleared, as `swbt_ipc_connection_close` leaves it. -/
def closed : Connection := ⟨false, 0, [], 0, 0, false, false⟩

/-- A connection as `swbt_ipc_server_accept` fills it. -/
def fresh (clientId : UInt32) : Connection :=
  { closed with socketOpen := true, clientId := clientId, opened := true }

/-- `swbt_ipc_connection_close`. -/
def close (_ : Connection) : Connection := closed

/-- `swbt_ipc_connection_configure_heartbeat`. -/
def configureHeartbeat (connection : Connection) (nowMs timeoutMs : UInt64) : Connection :=
  { connection with
    lastHeartbeatMs := nowMs
    heartbeatTimeoutMs := timeoutMs
    heartbeatEnabled := timeoutMs > 0 }

/-- `swbt_ipc_connection_record_heartbeat`. -/
def recordHeartbeat (connection : Connection) (nowMs : UInt64) : Connection :=
  if connection.heartbeatEnabled then { connection with lastHeartbeatMs := nowMs } else connection

/-- The connection is open and so is its socket. -/
def Live (connection : Connection) : Prop :=
  connection.opened = true ∧ connection.socketOpen = true

/-- The heartbeat of the connection is overdue at `nowMs`, as `swbt_ipc_server_check_heartbeat`
measures it: a reading before the last heartbeat never counts. -/
def HeartbeatDue (connection : Connection) (nowMs : UInt64) : Prop :=
  connection.heartbeatEnabled = true ∧ connection.lastHeartbeatMs ≤ nowMs ∧
    connection.heartbeatTimeoutMs ≤ nowMs - connection.lastHeartbeatMs

/-- `swbt_ipc_connection_has_pending_data`, through `swbt_ipc_socket_can_receive`. -/
def hasPendingData (connection : Connection) (answer : SelectAnswer) :
    Except Server.Result Bool :=
  if !connection.opened || !connection.socketOpen then .error .invalidArgument
  else
    match answer with
    | .error => .error .socket
    | .notReady => .ok false
    | .ready => .ok true

end Connection

/-! ## Reading a line -/

/-- How a read of a line ends. -/
inductive ReadOutcome where
  /-- No further byte is ready; the bytes of the unfinished line are kept. -/
  | pending (line : List UInt8)
  /-- A whole line, with its newline. -/
  | complete (line : List UInt8)
  | failed (result : Server.Result)
deriving DecidableEq, Repr

/-- The newline byte. -/
def newline : UInt8 := 0x0A

/-- The loop of `swbt_ipc_read_line` with `line` in the line buffer: the outcome and the bytes left
in the inbox. The list of answers ends in one that is not ready. -/
def readLoop (lineSize : Nat) (line inbox : List UInt8) :
    List ReadAnswer → ReadOutcome × List UInt8
  | [] => (.pending line, inbox)
  | .notReady :: _ => (.pending line, inbox)
  | .selectError :: _ => (.failed .socket, inbox)
  | .recvError :: _ => (.failed .socket, inbox)
  | .ready :: answers =>
    match inbox with
    | [] => (.failed .disconnected, [])
    | byte :: inbox =>
      if line.length + 1 ≥ lineSize then (.failed .messageTooLong, inbox)
      else if byte = newline then (.complete (line ++ [byte]), inbox)
      else readLoop lineSize (line ++ [byte]) inbox answers

/-- `swbt_ipc_read_line` with an output buffer of `lineSize` bytes: the outcome, the connection
afterwards and the bytes left in the inbox. -/
def readLine (connection : Connection) (lineSize : Nat) (inbox : List UInt8)
    (answers : List ReadAnswer) : ReadOutcome × Connection × List UInt8 :=
  if !connection.opened || !connection.socketOpen then
    (.failed .invalidArgument, connection, inbox)
  else
    match readLoop lineSize connection.line inbox answers with
    | (.pending line, inbox) => (.pending line, { connection with line := line }, inbox)
    | (.complete line, inbox) => (.complete line, { connection with line := [] }, inbox)
    | (.failed .messageTooLong, inbox) =>
      (.failed .messageTooLong, { connection with line := [] }, inbox)
    | (.failed result, inbox) => (.failed result, connection, inbox)

/-! ## The server -/

/-- `swbt_ipc_server_t`. `controlBound` says that `control` points to the control given to
`bind_control`; when it does not, it is null or points to the server's own default control, whose
domain nothing else reads. -/
structure Server where
  listening : Bool
  controlBound : Bool
  nextClientId : UInt32
  boundPort : UInt16
deriving DecidableEq, Repr

namespace Server

/-- `swbt_ipc_server_init`. -/
def init : Server := ⟨false, false, 1, 0⟩

/-- `swbt_ipc_server_bind_control`. -/
def bindControl (server : Server) : Result × Server :=
  if server.listening then (.invalidArgument, server)
  else (.ok, { server with controlBound := true })

/-- `swbt_ipc_server_listen`. `answer` is the port the socket is bound to, `none` when one of the
socket calls fails. -/
def listen (server : Server) (host : List UInt8) (backlog : Int) (answer : Option UInt16) :
    Result × Server :=
  if backlog ≤ 0 then (.invalidArgument, server)
  else if host ≠ bytes "127.0.0.1" then (.unsupportedBind, server)
  else
    match answer with
    | none => (.socket, server)
    | some port => (.ok, { server with boundPort := port, listening := true })

/-- `swbt_ipc_server_port`. -/
def port (server : Server) : UInt16 := if server.listening then server.boundPort else 0

/-- `swbt_ipc_server_has_pending_connection`. -/
def hasPendingConnection (server : Server) (answer : SelectAnswer) : Except Result Bool :=
  if !server.listening then .error .invalidArgument
  else
    match answer with
    | .error => .error .socket
    | .notReady => .ok false
    | .ready => .ok true

/-- `swbt_ipc_server_accept` into `connection`; `accepted` says whether `accept` gave a socket. -/
def accept (server : Server) (connection : Connection) (accepted : Bool) :
    Result × Server × Connection :=
  if !server.listening then (.invalidArgument, server, connection)
  else if !accepted then (.socket, server, Connection.closed)
  else
    (.ok, { server with nextClientId := server.nextClientId + 1 },
      Connection.fresh server.nextClientId)

/-- `swbt_ipc_server_close`. -/
def close (server : Server) : Server :=
  { server with controlBound := false, boundPort := 0, listening := false }

end Server

/-- What one call of a serve function is given from outside. -/
structure ServeIo where
  inbox : List UInt8
  answers : List ReadAnswer
  /-- Whether `swbt_ipc_socket_send_all` gets the response out. -/
  sent : Bool
deriving DecidableEq, Repr

/-- What one call of a serve function does. -/
structure Served where
  result : Server.Result
  connection : Connection
  control : Control
  /-- The bytes left in the inbox. -/
  inbox : List UInt8
  /-- The line handed to `swbt_ipc_adapter_handle_line`, if one was. -/
  handed : Option (List UInt8)

/-- The part of `swbt_ipc_server_serve_connection_once_internal` after a complete line. -/
def serveLine [Platform] (control : Control) (connection : Connection) (line inbox : List UInt8)
    (sent : Bool) : Served :=
  match handleLine control connection.clientId (ofArray line) jsonResponseMax with
  | (.error _, control) => ⟨.socket, connection, control, inbox, some line⟩
  | (.ok [], control) => ⟨.ok, connection, control, inbox, some line⟩
  | (.ok (_ :: _), control) =>
    ⟨if sent then .ok else .socket, connection, control, inbox, some line⟩

/-- `swbt_ipc_server_serve_connection_once_internal` on the control that the server points to.
`heartbeat` is the time to record when `update_heartbeat` is set. -/
def serveConnectionOnceInternal [Platform] (control : Control) (connection : Connection)
    (heartbeat : Option UInt64) (io : ServeIo) : Served :=
  if !connection.opened then ⟨.invalidArgument, connection, control, io.inbox, none⟩
  else
    match readLine connection (jsonLineMax + 1) io.inbox io.answers with
    | (.failed .disconnected, connection, inbox) | (.failed .socket, connection, inbox) =>
      ⟨.disconnected, connection, (handleDisconnect control connection.clientId).2, inbox, none⟩
    | (.failed .messageTooLong, connection, inbox) =>
      ⟨.messageTooLong, connection.close, (handleDisconnect control connection.clientId).2, inbox,
        none⟩
    | (.failed result, connection, inbox) => ⟨result, connection, control, inbox, none⟩
    | (.pending _, connection, inbox) => ⟨.ok, connection, control, inbox, none⟩
    | (.complete line, connection, inbox) =>
      let connection :=
        match heartbeat with
        | none => connection
        | some nowMs => connection.recordHeartbeat nowMs
      serveLine control connection line inbox io.sent

/-- `swbt_ipc_server_serve_connection_once`. -/
def serveConnectionOnce [Platform] (control : Control) (connection : Connection) (io : ServeIo) :
    Served :=
  serveConnectionOnceInternal control connection none io

/-- `swbt_ipc_server_serve_connection_once_at`. -/
def serveConnectionOnceAt [Platform] (control : Control) (connection : Connection)
    (nowMs : UInt64) (io : ServeIo) : Served :=
  serveConnectionOnceInternal control connection (some nowMs) io

/-- `swbt_ipc_server_check_heartbeat`. -/
def checkHeartbeat (control : Control) (connection : Connection) (nowMs : UInt64) :
    Server.Result × Control :=
  if !connection.heartbeatEnabled then (.ok, control)
  else if nowMs < connection.lastHeartbeatMs then (.ok, control)
  else if nowMs - connection.lastHeartbeatMs < connection.heartbeatTimeoutMs then (.ok, control)
  else (.heartbeatTimeout, (handleHeartbeatTimeout control connection.clientId).2)

end Swbt.Ipc
