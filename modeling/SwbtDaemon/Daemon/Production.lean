import SwbtDaemon.Bridge.Proofs.TimerAdapterProofs
import SwbtDaemon.Bridge.ReportLoop
import SwbtDaemon.Daemon.Heartbeat
import SwbtDaemon.Daemon.Shutdown
import SwbtDaemon.Domain.Ownership

/-!
# The production daemon

The host of the production daemon (`runtime/host.c`, `daemon/btstack_report_timer_bridge.c` and the
report timer port of `btstack_bridge/production_btstack_impl.c`), as the shutdown sees it: the timer
adapter, the domain it reads the controller state from, and the IPC runner that writes the domain.
-/

namespace Swbt

open Ipc

/-- The state of the host, with the messages that the current event has handed to the HID sender. -/
structure Host where
  adapter : TimerAdapter
  sys : IpcRunner.System
  reportOptions : ReportOptions
  sends : List (List UInt8)

/-- What the HID side of the host reads from outside: the time, and the answer of the sender. -/
structure HidInput where
  timeMs : Nat
  accepted : Bool
deriving DecidableEq, Repr

namespace Host

/-- `swbt_daemon_production_record_report_tick`, for each tick among the calls. -/
def recordTicks (app : Domain) (actions : List Action) : Domain :=
  actions.foldl
    (fun app action =>
      match action with
      | .reportTick nowUs sent => (app.recordReportTick nowUs (if sent then .ok else .failed)).2
      | _ => app) app

/-- The host with another domain. -/
def withApp (host : Host) (app : Domain) : Host :=
  { host with sys := { host.sys with control := { host.sys.control with app := app } } }

/-- The host after a handler of the adapter. -/
def after (host : Host) (calls : TimerAdapter × List Action) : Host :=
  { host.withApp (recordTicks host.sys.control.app calls.2) with
    adapter := calls.1
    sends := host.sends ++ Action.messages calls.2 }

/-- `swbt_runtime_host_read_state`. -/
def readState (host : Host) : State := host.sys.control.app.readControllerState

/-- `swbt_btstack_production_report_timer_start` at the time of the session's clock. -/
def start (host : Host) (hidCid : UInt16) (input : HidInput) : Host :=
  host.after (host.adapter.start hidCid
    (TimerAdapter.readingUs (ReportLoop.clockMs input.timeMs))).calls

/-- `swbt_btstack_production_report_timer_on_can_send_now`. -/
def onCanSendNow (host : Host) (input : HidInput) : Int × Host :=
  let handled := host.adapter.onCanSendNow (ReportLoop.clockMs input.timeMs) host.readState
    input.accepted
  (if handled.result = .ok then 0 else -1, host.after handled.calls)

/-- `swbt_btstack_production_report_timer_stop`. -/
def stop (host : Host) : Host := host.after host.adapter.stop

/-- `swbt_runtime_host_store_neutral`. -/
def storeNeutral (host : Host) : Host :=
  host.withApp (host.sys.control.app.revoke .shutdown 0).2

/-- `swbt_runtime_host_send_neutral_now` through `..._report_timer_bridge_send_neutral_now`. -/
def sendNeutralNow (host : Host) (input : HidInput) : NeutralResult × Host :=
  let host := host.storeNeutral
  if !host.adapter.running then (.failed, host)
  else
    let handled := host.adapter.sendNeutralNow input.accepted
    (match handled.result with
      | .ok => .ok
      | .pending => .pending
      | _ => .failed, host.after handled.calls)

/-- The host behind the ports that the shutdown uses. -/
def port : HostPort Host HidInput where
  running host := host.adapter.running
  hidCid host := host.adapter.hidCid
  start := start
  onCanSendNow := onCanSendNow
  sendNeutralNow := sendNeutralNow
  stop := stop
  running_stop _ := rfl
  running_onCanSendNow host input :=
    (TimerAdapter.onCanSendNow_sends host.adapter _ host.readState input.accepted).running

/-- `swbt_runtime_host_on_output_report`. -/
def onOutputReport (host : Host) (hidCid : UInt16) (report : OutputReport)
    (deviceInfo : DeviceInfo) (timeMs : Nat) : Host :=
  let (result, response, app) := host.sys.control.app.handleOutputReport report
    host.reportOptions deviceInfo (ReportLoop.clockMs timeMs).toUInt64
  let host := host.withApp app
  if result ≠ .ok ∨ response.action ≠ .reply then host
  else
    host.after (host.adapter.enqueueSubcommandReply hidCid
      (response.report.take response.reportSize)).calls

/-- A poll of the IPC pump. -/
def poll [Platform] (host : Host) (timeMs : Nat) (io : IpcRunner.PollIo) : Host :=
  let polled := host.sys.runner.pollOnceAt host.sys.control (IpcRunner.clockReading timeMs) io
  { host with sys := ⟨polled.runner, polled.control⟩ }

end Host

namespace Production

/-- One event of the main thread. -/
inductive Event where
  | shutdown (event : Shutdown.Event HidInput)
  | reportTimer (timeMs : Nat)
  | outputReport (hidCid : UInt16) (report : OutputReport) (deviceInfo : DeviceInfo) (timeMs : Nat)
  | poll (timeMs : Nat) (io : IpcRunner.PollIo)

/-- The daemon after an event. -/
def step [Platform] (s : Shutdown Host) (event : Event) : Shutdown Host :=
  let s := { s with host := { s.host with sends := [] } }
  match event with
  | .shutdown event => s.step Host.port event
  | .reportTimer timeMs =>
    { s with
      host := s.host.after (s.host.adapter.onTimer (ReportLoop.clockMs timeMs)).calls }
  | .outputReport hidCid report deviceInfo timeMs =>
    { s with host := s.host.onOutputReport hidCid report deviceInfo timeMs }
  | .poll timeMs io => { s with host := s.host.poll timeMs io }

/-- The daemon when its run loop starts. -/
def started (adapter : TimerAdapter) (sys : IpcRunner.System) (reportOptions : ReportOptions)
    (reconnecting : Bool) : Shutdown Host :=
  Shutdown.prepared ⟨adapter, sys, reportOptions, []⟩ reconnecting

/-- After the shutdown callback, every `0x30` report that the last event has handed to the HID
sender encodes the neutral state. -/
def NeutralSends (s : Shutdown Host) : Prop :=
  s.callbackRan = true → ∀ message ∈ s.host.sends,
    TimerAdapter.messageId message = some inputReportStandardFull →
      TimerAdapter.Encodes State.neutral message

/-- A poll with these answers of the sockets completes the line `line`. -/
def CompletesLine (runner : IpcRunner) (io : IpcRunner.PollIo) (line : List UInt8) : Prop :=
  runner.running = true ∧ runner.hasConnection = true ∧ io.dataPending = .ready ∧
    (readLoop (jsonLineMax + 1) runner.connection.line io.serve.inbox io.serve.answers).1 =
      .complete line

/-- A state update of the client `clientId` that the domain accepts. -/
def AcceptedUpdate (app : Domain) (clientId : UInt32) (command : Command) : Prop :=
  command.type = .setState ∧ command.ownerClientId = some clientId ∧ app.lease.HeldBy clientId ∧
    app.lease.lastSequence ≤ command.sequence

/-- The condition under which an event keeps the daemon neutral after the shutdown callback: a poll
does not complete a line with an accepted update to another state. -/
def KeepsNeutral [Platform] (s : Shutdown Host) : Event → Prop
  | .poll _ io =>
    s.callbackRan = true → ∀ line command,
      CompletesLine s.host.sys.runner io line →
      decodeCommand (CString.ofArray line) = .ok command →
      AcceptedUpdate s.host.sys.control.app s.host.sys.runner.connection.clientId command →
        command.state = State.neutral
  | _ => True

end Production

end Swbt
