import SwbtDaemon.Ipc.Server
import SwbtDaemon.Lib.Lines
import SwbtDaemon.Lib.Runs

/-!
# The stream of one connection

A client sends a stream of bytes, and the daemon reads it by serving the connection again and
again. `Session` follows one connection over its serves: `inbox` is the part of the stream that was
not read yet, and `handed` are the lines that reached the adapter.
-/

namespace Swbt.Ipc

/-- One connection with its client's stream, and what its serves did so far. -/
structure Session where
  connection : Connection
  control : Control
  inbox : List UInt8
  handed : List (List UInt8)
  results : List Server.Result

/-- What one serve is given: the time for the heartbeat, the answers for the reads, and whether
the response goes out. -/
structure Poll where
  heartbeat : Option UInt64
  answers : List ReadAnswer
  sent : Bool
deriving DecidableEq, Repr

namespace Session

/-- One serve of the connection. After `DISCONNECTED` the caller closes it, as both serve functions
of the runner do. -/
def poll [Platform] (session : Session) (p : Poll) : Session :=
  let served := serveConnectionOnceInternal session.control session.connection p.heartbeat
    ⟨session.inbox, p.answers, p.sent⟩
  { connection :=
      if served.result = .disconnected then served.connection.close else served.connection
    control := served.control
    inbox := served.inbox
    handed := session.handed ++ served.handed.toList
    results := session.results ++ [served.result] }

/-- The session of the client `clientId` that was accepted at `nowMs`, with its whole stream to
read. -/
def start (clientId : UInt32) (nowMs timeoutMs : UInt64) (control : Control)
    (stream : List UInt8) : Session :=
  ⟨(Connection.fresh clientId).configureHeartbeat nowMs timeoutMs, control, stream, [], []⟩

end Session

/-- A schedule that only says when bytes are there: no call on the socket fails. -/
def Poll.Clean (p : Poll) : Prop := ∀ a ∈ p.answers, a = .ready ∨ a = .notReady

/-- The number of reads that find the socket ready before the first that does not. -/
def Poll.ready (p : Poll) : Nat := (p.answers.takeWhile (· == .ready)).length

/-- The number of bytes that one serve reads when the socket stays ready: those up to the next
newline, unless the line buffer is full before. -/
def Session.wanted (session : Session) : Nat :=
  min ((session.inbox.takeWhile (· != newline)).length + 1)
    (jsonLineMax + 1 - session.connection.line.length)

end Swbt.Ipc
