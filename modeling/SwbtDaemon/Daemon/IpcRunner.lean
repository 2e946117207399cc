import SwbtDaemon.Ipc.Server

/-!
# The IPC runner

`daemon/ipc_runner.c`: one server and at most one connection. A step of the runner is one of its
functions with the answers of the sockets; the system it runs in is the runner together with the
control whose domain it writes.
-/

namespace Swbt

open CString Ipc

/-- `swbt_daemon_ipc_runner_config_t`. -/
structure IpcRunnerConfig where
  host : List UInt8
  port : UInt16
  backlog : Int
  heartbeatTimeoutMs : UInt32
deriving DecidableEq, Repr

/-- `swbt_daemon_ipc_endpoint_t`. -/
structure IpcEndpoint where
  host : List UInt8
  port : UInt16
  bound : Bool
deriving DecidableEq, Repr

/-- `swbt_daemon_ipc_runner_t`. -/
structure IpcRunner where
  server : Server
  connection : Connection
  config : IpcRunnerConfig
  endpoint : IpcEndpoint
  initialized : Bool
  running : Bool
  hasConnection : Bool
deriving DecidableEq, Repr

namespace IpcRunner

/-- `swbt_daemon_ipc_runner_result_t`. -/
inductive Result where
  | ok
  | invalidArgument
  | socket
  | unsupportedBind
  | disconnected
  | notRunning
deriving DecidableEq, Repr

/-- `swbt_daemon_ipc_runner_map_server_result`. -/
def mapServerResult : Server.Result → Result
  | .ok => .ok
  | .unsupportedBind => .unsupportedBind
  | .disconnected => .disconnected
  | .invalidArgument => .invalidArgument
  | .socket => .socket
  | .messageTooLong => .socket
  | .heartbeatTimeout => .socket

/-- The endpoint that `swbt_daemon_ipc_runner_clear_endpoint` leaves. -/
def clearedEndpoint : IpcEndpoint := ⟨[], 0, false⟩

/-- `SWBT_DAEMON_IPC_ENDPOINT_HOST_SIZE`. -/
def endpointHostSize : Nat := 16

/-- `swbt_daemon_ipc_runner_init`. -/
def init : IpcRunner where
  server := Server.init
  connection := Connection.closed
  config := ⟨bytes "127.0.0.1", 0, 1, 0⟩
  endpoint := clearedEndpoint
  initialized := true
  running := false
  hasConnection := false

/-- `swbt_daemon_ipc_runner_start`; `listening` is the answer of the sockets to `listen`. -/
def start (runner : IpcRunner) (config : IpcRunnerConfig) (listening : Option UInt16) :
    Result × IpcRunner :=
  if config.backlog ≤ 0 || !runner.initialized then (.invalidArgument, runner)
  else if runner.running then (.ok, runner)
  else
    let (result, server) := runner.server.bindControl
    if result ≠ .ok then (mapServerResult result, { runner with server := server })
    else
      let (result, server) := server.listen config.host config.backlog listening
      if result ≠ .ok then (mapServerResult result, { runner with server := server.close })
      else
        (.ok, { runner with
          server := server
          config := config
          endpoint := ⟨config.host.take (endpointHostSize - 1), server.port, server.port != 0⟩
          running := true
          hasConnection := false })

/-- `swbt_daemon_ipc_runner_accept_at`. -/
def acceptAt (runner : IpcRunner) (nowMs : UInt64) (accepted : Bool) : Result × IpcRunner :=
  if !runner.running then (.notRunning, runner)
  else if runner.hasConnection then (.invalidArgument, runner)
  else
    let (result, server, connection) := runner.server.accept runner.connection accepted
    if result ≠ .ok then
      (mapServerResult result, { runner with server := server, connection := connection })
    else
      (.ok, { runner with
        server := server
        connection :=
          connection.configureHeartbeat nowMs runner.config.heartbeatTimeoutMs.toUInt64
        hasConnection := true })

/-- What one call of the runner that may serve its connection leaves. -/
structure Polled where
  result : Result
  runner : IpcRunner
  control : Control
  /-- The line handed to the adapter, if one was completed. -/
  handed : Option (List UInt8)

/-- What follows a serve: the runner closes the connection after `DISCONNECTED` and after
`MESSAGE_TOO_LONG`. -/
def afterServe (runner : IpcRunner) (served : Served) : Polled :=
  if served.result = .disconnected ∨ served.result = .messageTooLong then
    ⟨mapServerResult served.result,
      { runner with connection := served.connection.close, hasConnection := false },
      served.control, served.handed⟩
  else
    ⟨mapServerResult served.result, { runner with connection := served.connection },
      served.control, served.handed⟩

/-- `swbt_daemon_ipc_runner_serve_connection_once` and its `_at` form: they differ in the
heartbeat they record. -/
def serveConnection [Platform] (runner : IpcRunner) (control : Control)
    (heartbeat : Option UInt64) (io : ServeIo) : Polled :=
  if !runner.running then ⟨.notRunning, runner, control, none⟩
  else if !runner.hasConnection then ⟨.invalidArgument, runner, control, none⟩
  else
    runner.afterServe (serveConnectionOnceInternal control runner.connection heartbeat io)

/-- `swbt_daemon_ipc_runner_check_heartbeat`. -/
def checkHeartbeat (runner : IpcRunner) (control : Control) (nowMs : UInt64) : Polled :=
  let (result, control) := Ipc.checkHeartbeat control runner.connection nowMs
  if result = .heartbeatTimeout then
    ⟨.ok, { runner with connection := runner.connection.close, hasConnection := false }, control,
      none⟩
  else ⟨mapServerResult result, runner, control, none⟩

/-- What one poll is given from outside: the answers for the listening socket, for the probe of
the connection and for the reads. -/
structure PollIo where
  connectionPending : SelectAnswer
  accepted : Bool
  dataPending : SelectAnswer
  serve : ServeIo
deriving DecidableEq, Repr

/-- `swbt_daemon_ipc_runner_poll_once_at`. -/
def pollOnceAt [Platform] (runner : IpcRunner) (control : Control) (nowMs : UInt64)
    (io : PollIo) : Polled :=
  if !runner.running then ⟨.notRunning, runner, control, none⟩
  else if !runner.hasConnection then
    match runner.server.hasPendingConnection io.connectionPending with
    | .error result => ⟨mapServerResult result, runner, control, none⟩
    | .ok false => ⟨.ok, runner, control, none⟩
    | .ok true =>
      let r := runner.acceptAt nowMs io.accepted
      ⟨r.1, r.2, control, none⟩
  else
    match runner.connection.hasPendingData io.dataPending with
    | .error result => ⟨mapServerResult result, runner, control, none⟩
    | .ok false => runner.checkHeartbeat control nowMs
    | .ok true => runner.serveConnection control (some nowMs) io.serve

/-- `swbt_daemon_ipc_runner_stop`. -/
def stop (runner : IpcRunner) (control : Control) : IpcRunner × Control :=
  if !runner.initialized then (runner, control)
  else if !runner.running && !runner.hasConnection then
    ({ runner with endpoint := clearedEndpoint }, control)
  else
    let stopped (runner : IpcRunner) : IpcRunner :=
      { runner with server := runner.server.close, endpoint := clearedEndpoint, running := false }
    if runner.hasConnection then
      -- without a bound control the disconnect does not reach this control
      let control :=
        if runner.server.controlBound then
          (handleDisconnect control runner.connection.clientId).2
        else control
      (stopped { runner with connection := runner.connection.close, hasConnection := false },
        control)
    else
      let control := if runner.server.controlBound then (handleShutdown control).2 else control
      (stopped runner, control)

/-- One step of the runner, or the shutdown revoke of the daemon. -/
inductive Step where
  | start (config : IpcRunnerConfig) (listening : Option UInt16)
  | accept (accepted : Bool)
  | serve (io : ServeIo)
  | pollOnceAt (nowMs : UInt64) (io : PollIo)
  | stop
  | shutdown

/-- A runner and the control it is bound to. -/
structure System where
  runner : IpcRunner
  control : Control

/-- The system after one step. -/
def System.step [Platform] (sys : System) : Step → System
  | .start config listening => { sys with runner := (sys.runner.start config listening).2 }
  | .accept accepted => { sys with runner := (sys.runner.acceptAt 0 accepted).2 }
  | .serve io =>
    let r := sys.runner.serveConnection sys.control none io
    ⟨r.runner, r.control⟩
  | .pollOnceAt nowMs io =>
    let r := sys.runner.pollOnceAt sys.control nowMs io
    ⟨r.runner, r.control⟩
  | .stop =>
    let r := sys.runner.stop sys.control
    ⟨r.1, r.2⟩
  | .shutdown => { sys with control := sys.control.shutdown.2 }

end IpcRunner

end Swbt
