import SwbtDaemon.Lib.Runs

/-!
# The shutdown of the production daemon

`daemon/shutdown_sequence.c`, the shutdown part of `daemon/production_runner.c` and the HID events
of `daemon/btstack_hid_session.c`. The three share the two pending flags of the shutdown sequence.
Everything runs on the main thread, except that a shutdown can be requested from any.

What the report timer and the host do is behind `HostPort`, so that the results of the neutral send
and of the can-send handler are arbitrary. The state carries the calls made to the ports since
`swbt_daemon_shutdown_sequence_prepare`.
-/

namespace Swbt

/-- The timers of the production runner. -/
inductive RunnerTimer where
  | shutdownDisconnect
  | activeReconnectTimeout
deriving DecidableEq, Repr

/-- A call of the production runner to its ports. -/
inductive PortCall where
  | executeOnMainThread
  | disconnect (hidCid : UInt16)
  | setTimer (timer : RunnerTimer) (timeoutMs : UInt32)
  | addTimer (timer : RunnerTimer)
  | removeTimer (timer : RunnerTimer)
  | powerOff
  | triggerExit
deriving DecidableEq, Repr

/-- The results of `swbt_daemon_process_send_neutral_now` that the shutdown tells apart. -/
inductive NeutralResult where
  | ok
  | pending
  | failed
deriving DecidableEq, Repr

/-- What the shutdown uses of the host and of its report timer, over the states `τ` of both and
what `ι` they read from outside. A stopped report timer is not running, and the can-send event does
not start or stop it. -/
structure HostPort (τ ι : Type*) where
  running : τ → Bool
  hidCid : τ → UInt16
  start : τ → UInt16 → ι → τ
  onCanSendNow : τ → ι → Int × τ
  sendNeutralNow : τ → ι → NeutralResult × τ
  stop : τ → τ
  running_stop : ∀ t, running (stop t) = false
  running_onCanSendNow : ∀ t i, running (onCanSendNow t i).2 = running t

/-- The answer to a disconnect call. A successful call may deliver the closed event before it
returns; should the handler of that event ask for a disconnect again, `inner` is the answer. -/
inductive DisconnectAnswer where
  | refused
  | requested
  | requestedAndClosed (inner : DisconnectAnswer)
deriving DecidableEq, Repr

/-- The state of the shutdown: the fields of `swbt_daemon_production_runner_t` that take part in
it, over the state of the host. -/
structure Shutdown (τ : Type*) where
  host : τ
  /-- The fields of `swbt_daemon_shutdown_sequence_t`. -/
  requested : Bool
  neutralPending : Bool
  disconnectPending : Bool
  reportTimerInitialized : Bool
  shutdownDisconnectTimerPending : Bool
  activeReconnectTimeoutTimerPending : Bool
  hardwarePowered : Bool
  /-- The calls to the ports so far. -/
  calls : List PortCall
  /-- The shutdown disconnect timer is registered in the run loop. -/
  armed : Bool
  /-- The main thread has been asked to run the shutdown callback and has not done so. -/
  callbackQueued : Bool
  /-- The shutdown callback has run. -/
  callbackRan : Bool

namespace Shutdown

variable {τ ι : Type*}

/-- `SWBT_DAEMON_SHUTDOWN_DISCONNECT_TIMEOUT_MS`. -/
def disconnectTimeoutMs : UInt32 := 250

/-- The state after `swbt_daemon_shutdown_sequence_prepare`, in a powered runner whose host has
started. -/
def prepared (host : τ) (reconnecting : Bool) : Shutdown τ where
  host := host
  requested := false
  neutralPending := false
  disconnectPending := false
  reportTimerInitialized := true
  shutdownDisconnectTimerPending := false
  activeReconnectTimeoutTimerPending := reconnecting
  hardwarePowered := true
  calls := []
  armed := false
  callbackQueued := false
  callbackRan := false

/-- The run loop's registration of the shutdown disconnect timer after a call. -/
def armedAfter (armed : Bool) : PortCall → Bool
  | .addTimer .shutdownDisconnect => true
  | .removeTimer .shutdownDisconnect => false
  | _ => armed

/-- A call to a port. -/
def call (s : Shutdown τ) (c : PortCall) : Shutdown τ :=
  { s with calls := s.calls ++ [c], armed := armedAfter s.armed c }

/-- `swbt_daemon_production_runner_cancel_active_reconnect_timeout_timer`. -/
def cancelActiveReconnectTimeoutTimer (s : Shutdown τ) : Shutdown τ :=
  if s.activeReconnectTimeoutTimerPending then
    { s.call (.removeTimer .activeReconnectTimeout) with
      activeReconnectTimeoutTimerPending := false }
  else s

/-- `swbt_daemon_production_runner_cancel_shutdown_disconnect_timer`. -/
def cancelShutdownDisconnectTimer (s : Shutdown τ) : Shutdown τ :=
  if s.shutdownDisconnectTimerPending then
    { s.call (.removeTimer .shutdownDisconnect) with shutdownDisconnectTimerPending := false }
  else s

/-- `swbt_daemon_production_runner_arm_shutdown_disconnect_timer`. -/
def armShutdownDisconnectTimer (s : Shutdown τ) : Shutdown τ :=
  if s.shutdownDisconnectTimerPending then s
  else
    { (s.call (.setTimer .shutdownDisconnect disconnectTimeoutMs)).call
        (.addTimer .shutdownDisconnect) with shutdownDisconnectTimerPending := true }

/-- `swbt_daemon_production_power_off`. -/
def powerOff (s : Shutdown τ) : Shutdown τ :=
  let s := s.cancelActiveReconnectTimeoutTimer
  if s.hardwarePowered then { s with hardwarePowered := false }.call .powerOff else s

/-- The end of `swbt_daemon_production_runner_finish_shutdown`. -/
def exit (s : Shutdown τ) : Shutdown τ :=
  (s.cancelShutdownDisconnectTimer.powerOff).call .triggerExit

section Port

variable (port : HostPort τ ι)

/-- `swbt_daemon_production_runner_stop_active_report_timer`. -/
def stopActiveReportTimer (s : Shutdown τ) : Shutdown τ :=
  if port.running s.host then { s with host := port.stop s.host } else s

/-- `swbt_daemon_btstack_hid_session_handle_connection_closed`, where `finish` is
`swbt_daemon_shutdown_sequence_finish`. -/
def handleConnectionClosed (finish : Shutdown τ → Shutdown τ) (s : Shutdown τ) : Shutdown τ :=
  if !s.reportTimerInitialized then s
  else
    let s := { s with host := port.stop s.host }
    if s.neutralPending then finish { s with neutralPending := false }
    else if s.disconnectPending then finish { s with disconnectPending := false }
    else s

/-- The call of `swbt_btstack_device_disconnect` in `finish_shutdown`. -/
def requestDisconnect (s : Shutdown τ) : Shutdown τ :=
  { s with disconnectPending := true }.call (.disconnect (port.hidCid s.host))

/-- `swbt_daemon_production_runner_finish_shutdown`. -/
def finishShutdown : DisconnectAnswer → Shutdown τ → Shutdown τ
  | answer, s =>
    if port.running s.host then
      if !s.disconnectPending then
        match answer with
        | .refused =>
          (stopActiveReportTimer port
            { s.requestDisconnect port with disconnectPending := false }).exit
        | .requested => (s.requestDisconnect port).armShutdownDisconnectTimer
        | .requestedAndClosed inner =>
          (handleConnectionClosed port (finishShutdown inner)
            (s.requestDisconnect port)).armShutdownDisconnectTimer
      else s
    else s.exit

/-- `swbt_daemon_shutdown_sequence_on_main_thread`. -/
def onMainThread (s : Shutdown τ) (input : ι) (answer : DisconnectAnswer) : Shutdown τ :=
  let (result, host) := port.sendNeutralNow s.host input
  let s := { s with host := host }
  match result with
  | .ok => finishShutdown port answer s
  | .pending => { s with neutralPending := true }
  | .failed => finishShutdown port answer s

/-- `swbt_daemon_shutdown_sequence_request`. -/
def request (s : Shutdown τ) : Shutdown τ :=
  if s.requested then s
  else { s with requested := true, callbackQueued := true }.call .executeOnMainThread

/-- `swbt_daemon_btstack_hid_session_handle_connection_opened`. -/
def handleConnectionOpened (s : Shutdown τ) (status : UInt8) (hidCid : UInt16) (input : ι) :
    Shutdown τ :=
  let s := s.cancelActiveReconnectTimeoutTimer
  if status ≠ 0 then s
  else if !s.reportTimerInitialized then s
  else { s with host := port.start s.host hidCid input }

/-- `swbt_daemon_btstack_hid_session_handle_can_send_now`. -/
def handleCanSendNow (s : Shutdown τ) (input : ι) (answer : DisconnectAnswer) : Shutdown τ :=
  if !s.reportTimerInitialized then s
  else
    let (canSendResult, host) := port.onCanSendNow s.host input
    let s := { s with host := host }
    if s.neutralPending && canSendResult == 0 then
      finishShutdown port answer { s with neutralPending := false }
    else if s.neutralPending && canSendResult != 0 then
      finishShutdown port answer { s with neutralPending := false }
    else s

/-- `swbt_daemon_production_runner_shutdown_disconnect_timeout`. -/
def shutdownDisconnectTimeout (s : Shutdown τ) (answer : DisconnectAnswer) : Shutdown τ :=
  let s := { s with shutdownDisconnectTimerPending := false }
  if !s.disconnectPending then s
  else
    finishShutdown port answer (stopActiveReportTimer port { s with disconnectPending := false })

/-- One event of the shutdown. -/
inductive Event (ι : Type*) where
  | request
  | callback (input : ι) (answer : DisconnectAnswer)
  | opened (status : UInt8) (hidCid : UInt16) (input : ι)
  | canSendNow (input : ι) (answer : DisconnectAnswer)
  | closed (answer : DisconnectAnswer)
  | disconnectTimeout (answer : DisconnectAnswer)

/-- The state after an event. The main thread runs the callback once it has been queued, and the
run loop delivers a timer once it has been registered. -/
def step (s : Shutdown τ) : Event ι → Shutdown τ
  | .request => s.request
  | .callback input answer =>
    if s.callbackQueued then
      { s with callbackQueued := false, callbackRan := true }.onMainThread port input answer
    else s
  | .opened status hidCid input => s.handleConnectionOpened port status hidCid input
  | .canSendNow input answer => s.handleCanSendNow port input answer
  | .closed answer => handleConnectionClosed port (finishShutdown port answer) s
  | .disconnectTimeout answer =>
    if s.armed then { s with armed := false }.shutdownDisconnectTimeout port answer else s

end Port

end Shutdown

end Swbt
