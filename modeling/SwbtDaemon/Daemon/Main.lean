import SwbtDaemon.Daemon.Process
import SwbtDaemon.Daemon.Shutdown

/-!
# The main function of the production daemon

`swbt_daemon_production_main_with_runner_and_shutdown` of `daemon/production_runner.c`: it starts
the process, powers the hardware on, installs the shutdown listener, executes the run loop and takes
everything back. What the run loop does is a run of the shutdown state machine.
-/

namespace Swbt

/-- A `swbt_daemon_shutdown_listener_t`: `NULL`, without one of its functions, or with both. -/
inductive ShutdownListener where
  | none
  | incomplete
  | complete
deriving DecidableEq, Repr

/-- One event of the run loop: one of the shutdown, the timeout of the active reconnect, or one that
only concerns the report timer and the domain. -/
inductive MainEvent (τ ι : Type*) where
  | shutdown (event : Shutdown.Event ι)
  | activeReconnectTimeout (reportFailed : τ → τ)
  | host (handle : τ → τ)

/-- What a run of the main function reads from outside. -/
structure MainInput (τ ι : Type*) where
  start : StartAnswers
  powerOn : Bool
  /-- An active reconnect has been requested. -/
  reconnecting : Bool
  listenerInstalls : Bool
  /-- The report timer and the domain when the run loop starts. -/
  host : τ
  /-- What the run loop delivers before it returns. -/
  events : List (MainEvent τ ι)
  /-- The domain that the run loop leaves. -/
  app : Option Domain

namespace Shutdown

variable {τ ι : Type*} (port : HostPort τ ι)

/-- `swbt_daemon_production_runner_active_reconnect_timeout`. -/
def activeReconnectTimeout (s : Shutdown τ) (reportFailed : τ → τ) : Shutdown τ :=
  let s := { s with activeReconnectTimeoutTimerPending := false }
  if port.running s.host then s else { s with host := reportFailed s.host }

/-- The state after an event of the run loop. -/
def deliver (s : Shutdown τ) : MainEvent τ ι → Shutdown τ
  | .shutdown event => s.step port event
  | .activeReconnectTimeout reportFailed => s.activeReconnectTimeout port reportFailed
  | .host handle => { s with host := handle s.host }

end Shutdown

namespace Process

/-- `swbt_domain_set_hardware_approval` on the domain of the process. -/
def setHardwareApproval (process : Process) (approval : HardwareApproval) :
    Domain.Result × Process :=
  match process.runtime.app with
  | none => (.invalidArgument, process)
  | some app =>
    let (result, app) := app.setHardwareApproval approval
    (result, { process with runtime := { process.runtime with app := some app } })

/-- The process with another runner and another domain. -/
def resume (process : Process) (runner : ProductionRunner) (app : Option Domain) : Process :=
  { process with runner := runner, runtime := { process.runtime with app := app } }

end Process

namespace ProductionRunner

variable {τ ι : Type*}

/-- `swbt_daemon_production_result_t`. -/
inductive Result where
  | ok
  | invalidArgument
  | runtime
  | hardware
  | adapterLocationRequired
deriving DecidableEq, Repr

/-- `swbt_daemon_production_runner_init`. -/
def init (reportPeriodUs : UInt32) (hasIpcPump portsValid : Bool) :
    Except Result ProductionRunner :=
  if reportPeriodUs = 0 || !hasIpcPump then .error .invalidArgument
  else .ok ⟨reportPeriodUs, portsValid, true, false, Device.zero, false, false, []⟩

/-- `swbt_daemon_production_runner_set_adapter_location_configured`. -/
def setAdapterLocationConfigured (runner : ProductionRunner) : Bool × ProductionRunner :=
  if !runner.initialized then (false, runner)
  else (true, { runner with adapterLocationConfigured := true })

/-- The port calls of the shutdown that stop a resource. -/
def powerCall : PortCall → Option ResourceCall
  | .powerOff => some (.stop .power)
  | _ => none

/-- The runner after its shutdown has come to the state `s`. -/
def absorb (runner : ProductionRunner) (s : Shutdown τ) : ProductionRunner :=
  { runner with
    hardwarePowered := s.hardwarePowered
    reportTimerInitialized := s.reportTimerInitialized
    calls := runner.calls ++ s.calls.filterMap powerCall }

/-- `swbt_daemon_production_power_on`. -/
def powerOn (runner : ProductionRunner) (on : Bool) : Result × ProductionRunner :=
  let runner := runner.call (.start .power on)
  if !on then (.hardware, runner) else (.ok, { runner with hardwarePowered := true })

/-- The call of `swbt_daemon_shutdown_sequence_install_listener`. -/
def installListener (runner : ProductionRunner) (listener : ShutdownListener) (installs : Bool) :
    Result × ProductionRunner :=
  match listener with
  | .complete =>
    (if installs then .ok else .runtime, runner.call (.start .shutdownListener installs))
  | _ => (.ok, runner)

/-- `swbt_daemon_shutdown_sequence_uninstall_listener`. -/
def uninstallListener (runner : ProductionRunner) (listener : ShutdownListener) :
    ProductionRunner :=
  match listener with
  | .complete => runner.call (.stop .shutdownListener)
  | _ => runner

/-- The run loop of a powered runner, with the listener around it. -/
def runPowered (port : HostPort τ ι) (runner : ProductionRunner) (listener : ShutdownListener)
    (input : MainInput τ ι) : Result × Shutdown τ × ProductionRunner :=
  let s := Shutdown.prepared input.host input.reconnecting
  let (result, runner) := runner.installListener listener input.listenerInstalls
  if result ≠ .ok then (result, s, runner)
  else
    let s := Runs.run (Shutdown.deliver port) s input.events
    (.ok, { s with calls := [] }, (runner.absorb s).uninstallListener listener)

/-- The shutdown of a runner that could not be powered on. -/
def unpowered (runner : ProductionRunner) (host : τ) : Shutdown τ :=
  { Shutdown.prepared host false with
    hardwarePowered := runner.hardwarePowered
    reportTimerInitialized := runner.reportTimerInitialized }

/-- The main function from `swbt_daemon_production_power_on` on. -/
def runStarted (port : HostPort τ ι) (process : Process) (listener : ShutdownListener)
    (input : MainInput τ ι) : Result × ProductionRunner :=
  let (result, runner) := process.runner.powerOn input.powerOn
  let (result, s, runner) :=
    if result = .ok then runner.runPowered port listener input
    else (result, runner.unpowered input.host, runner)
  let runner := runner.absorb s.powerOff
  (result, (process.resume runner input.app).destroy.runner)

/-- `swbt_daemon_production_main_with_runner_and_shutdown`. -/
def mainWithRunnerAndShutdown (port : HostPort τ ι) (runner : ProductionRunner)
    (listener : ShutdownListener) (input : MainInput τ ι) : Result × ProductionRunner :=
  if !runner.initialized || listener == .incomplete then (.invalidArgument, runner)
  else if !runner.portsValid then (.invalidArgument, runner)
  else if !runner.adapterLocationConfigured then (.adapterLocationRequired, runner)
  else
    match Process.init runner with
    | .error _ => (.runtime, runner)
    | .ok process =>
      let (approval, process) := process.setHardwareApproval .approved
      if approval ≠ .ok then (.runtime, process.destroy.runner)
      else
        let (result, process) := process.start input.start
        if result ≠ .ok then (.runtime, process.destroy.runner)
        else runStarted port process listener input

/-- A call of the owner of the runner. -/
inductive Op (τ ι : Type*) where
  | setAdapterLocationConfigured
  | main (listener : ShutdownListener) (input : MainInput τ ι)

/-- The runner after a call. -/
def step (port : HostPort τ ι) (runner : ProductionRunner) : Op τ ι → ProductionRunner
  | .setAdapterLocationConfigured => runner.setAdapterLocationConfigured.2
  | .main listener input => (runner.mainWithRunnerAndShutdown port listener input).2

end ProductionRunner

end Swbt
