import SwbtDaemon.Daemon.IpcRunner
import SwbtDaemon.Lib.Runs

/-!
# The heartbeat in time

The production pump polls the runner with a 32-bit clock (`btstack_ipc_pump_adapter.c`), while the
heartbeat is meant in real time. `Watched` is the runner together with the time of the last
activity of its connection: the accept, or the last completely received line.
-/

namespace Swbt.IpcRunner

open Ipc

/-- The reading of the pump's clock at a time in milliseconds: its low 32 bits, widened. -/
def clockReading (timeMs : Nat) : UInt64 := (timeMs % 2 ^ 32).toUInt64

/-- The system, and when its connection was last active. -/
structure Watched where
  sys : System
  activity : Nat

/-- One event in the life of the runner: a poll of the pump at a time, or a lifecycle call. -/
inductive WatchedStep where
  | poll (timeMs : Nat) (io : PollIo)
  | start (config : IpcRunnerConfig) (listening : Option UInt16)
  | stop
  | shutdown

namespace Watched

/-- What the poll of the pump at `timeMs` does. -/
def poll [Platform] (w : Watched) (timeMs : Nat) (io : PollIo) : Polled :=
  w.sys.runner.pollOnceAt w.sys.control (clockReading timeMs) io

/-- The last activity after a poll at `timeMs`: a new connection and a complete line count. -/
def activityAfter (w : Watched) (timeMs : Nat) (polled : Polled) : Nat :=
  if (!w.sys.runner.hasConnection && polled.runner.hasConnection) || polled.handed.isSome
  then timeMs else w.activity

/-- The watched system after one event. -/
def step [Platform] (w : Watched) : WatchedStep → Watched
  | .poll timeMs io =>
    let polled := w.poll timeMs io
    ⟨⟨polled.runner, polled.control⟩, w.activityAfter timeMs polled⟩
  | .start config listening => { w with sys := w.sys.step (.start config listening) }
  | .stop => { w with sys := w.sys.step .stop }
  | .shutdown => { w with sys := w.sys.step .shutdown }

/-- The configured timeout. -/
def timeoutMs (w : Watched) : Nat := w.sys.runner.config.heartbeatTimeoutMs.toNat

/-- The heartbeat is overdue at `timeMs`: it is enabled, there is a connection, and the timeout has
elapsed since its last activity. -/
def Overdue (w : Watched) (timeMs : Nat) : Prop :=
  w.sys.runner.hasConnection = true ∧ 0 < w.timeoutMs ∧ w.activity + w.timeoutMs ≤ timeMs

end Watched

/-- The connection is dropped, its lease revoked and the controller neutral. -/
def Polled.FailSafe (polled : Polled) : Prop :=
  polled.runner.hasConnection = false ∧ polled.control.app.lease.hasOwner = false ∧
    polled.control.app.state = State.neutral

/-- The number of reads for which a byte or the end of the stream is announced. -/
def readyCount (answers : List ReadAnswer) : Nat :=
  (answers.takeWhile (· == .ready)).length

/-- The input of a read that finds no newline, with `line` kept from before, ends the connection:
the bytes exceed the line buffer, the peer closes, or a call on the socket fails. -/
def InputEnds (line : List UInt8) (io : ServeIo) : Prop :=
  jsonLineMax < line.length + min (readyCount io.answers) io.inbox.length ∨
    io.inbox.length < readyCount io.answers ∨
    io.answers[readyCount io.answers]? = some .selectError ∨
    io.answers[readyCount io.answers]? = some .recvError

/-- The condition under which a poll at `timeMs` notices an overdue heartbeat. Either nothing is
pending on the connection and the 32-bit readings show the elapsed time, or the pending input ends
the connection by itself. -/
def Watched.Notices (w : Watched) (timeMs : Nat) (io : PollIo) : Prop :=
  (io.dataPending = .notReady ∧ w.activity % 2 ^ 32 ≤ timeMs % 2 ^ 32 ∧
      w.timeoutMs ≤ timeMs % 2 ^ 32 - w.activity % 2 ^ 32) ∨
    (io.dataPending = .ready ∧ InputEnds w.sys.runner.connection.line io.serve)

end Swbt.IpcRunner
