import SwbtDaemon.Daemon.Main
import SwbtDaemon.Daemon.Production
import SwbtDaemon.Daemon.Reconnect

/-!
# The outcome of an active reconnect

The request of `daemon/active_reconnect.c` and its timeout in `daemon/production_runner.c`. Three
parties decide the outcome, in any order: the answer to the connect call, the HID events and the
timer of 60 seconds.
-/

namespace Swbt

namespace Device

/-- The results of `swbt_btstack_device_connect`. -/
inductive ConnectResult where
  | ok
  | invalidArgument
  | closed
  | connectFailed
deriving DecidableEq, Repr

/-- `swbt_btstack_device_connect`, where `port` is the answer of the port to the request. -/
def connect (device : Device) (port : ConnectRequest → Int) (request : ConnectRequest) :
    ConnectResult :=
  if !device.initialized then .invalidArgument
  else if !device.hidRegistered then .closed
  else if port request = 0 then .ok else .connectFailed

end Device

namespace Reconnect

/-- `swbt_daemon_active_reconnect_active_result_t`. -/
inductive ActiveResult where
  | none
  | requested
  | failed
deriving DecidableEq, Repr

/-- `swbt_daemon_active_reconnect_report_failed`. -/
def reportFailed (app : Domain) : Domain :=
  (app.setHardwareStatus ⟨.unavailable, .failed, .failed⟩).2

/-- `swbt_daemon_active_reconnect_request_active`. -/
def requestActive (config : Config) (device : Device) (port : ConnectRequest → Int)
    (app : Domain) : ActiveResult × Domain :=
  match buildRequest config with
  | .none => (.none, app)
  | .invalid => (.failed, reportFailed app)
  | .ready request =>
    if device.connect port request ≠ .ok then (.failed, reportFailed app) else (.requested, app)

end Reconnect

/-- The domain after `swbt_daemon_active_reconnect_report_failed`. -/
def Host.reportFailed (host : Host) : Host :=
  host.withApp (Reconnect.reportFailed host.sys.control.app)

/-- The main function has initialized, approved and started this process. -/
def Process.Started (process : Process) : Prop :=
  ∃ runner answers initial, Process.init runner = .ok initial ∧
    (initial.setHardwareApproval .approved).2.start answers = (.ok, process)

/-- A daemon that reconnects: the daemon, whether the reconnect timer is registered in the run loop,
and whether an opened event with status 0 has been received. -/
structure Reconnecting where
  daemon : Shutdown Host
  registered : Bool
  opened : Bool

namespace Reconnecting

/-- One event of the main thread, or the end of the reconnect timer. -/
inductive Event where
  | production (event : Production.Event)
  | timeout

/-- The run loop's registration of the reconnect timer after a call. -/
def registeredAfter (registered : Bool) : PortCall → Bool
  | .addTimer .activeReconnectTimeout => true
  | .removeTimer .activeReconnectTimeout => false
  | _ => registered

/-- The event is an opened event with status 0. -/
def opens : Production.Event → Bool
  | .shutdown (.opened status _ _) => status == 0
  | _ => false

/-- The daemon after an event. The run loop delivers the reconnect timer while it is registered, and
only once. -/
def step [Platform] (s : Reconnecting) : Event → Reconnecting
  | .production event =>
    let daemon := Production.step s.daemon event
    { daemon := daemon
      registered := (daemon.calls.drop s.daemon.calls.length).foldl registeredAfter s.registered
      opened := s.opened || opens event }
  | .timeout =>
    if s.registered then
      { s with
        daemon := s.daemon.activeReconnectTimeout Host.port Host.reportFailed
        registered := false }
    else s

/-- The daemon when its run loop starts. The timer is armed when the reconnect was requested. -/
def started (process : Process) (adapter : TimerAdapter) (sys : IpcRunner.System)
    (reportOptions : ReportOptions) (config : Config) (port : ConnectRequest → Int) :
    Reconnecting :=
  let (result, app) :=
    Reconnect.requestActive config process.runner.device port sys.control.app
  let sys := { sys with control := { sys.control with app := app } }
  { daemon := Production.started adapter sys reportOptions (result == .requested)
    registered := result == .requested
    opened := false }

/-- The hardware status that the clients read. -/
def hardware (s : Reconnecting) : HardwareStatus :=
  s.daemon.host.sys.control.app.readStatus.hardware

/-- Before a shutdown, without an opened event with status 0, the end of the timer is reported as a
failure. -/
def Reported (s : Reconnecting) : Prop :=
  s.daemon.requested = false → s.opened = false →
    s.daemon.activeReconnectTimeoutTimerPending = false →
      s.hardware.switchConnectionState = .failed ∧ s.hardware.hidChannelState = .failed

/-- After an opened event with status 0, the timeout reports nothing. -/
def TimeoutSilent [Platform] (s : Reconnecting) : Prop :=
  s.opened = true → (s.step .timeout).hardware = s.hardware

/-- The condition under which an event leaves the outcome reported: before a shutdown, while the
timer is pending and the connection has not been opened yet, no connection fails to open. -/
def NoFailedOpen (s : Reconnecting) : Event → Prop
  | .production (.shutdown (.opened status _ _)) =>
    s.daemon.requested = false → s.opened = false →
      s.daemon.activeReconnectTimeoutTimerPending = true → status = 0
  | _ => True

end Reconnecting

end Swbt
