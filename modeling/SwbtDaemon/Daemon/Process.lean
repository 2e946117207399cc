import SwbtDaemon.Domain.Domain
import SwbtDaemon.Lib.Brackets

/-!
# The daemon process

Starting and stopping the daemon: `daemon/process.c` over `runtime/host.c`, over the backend of
`daemon/btstack_process_backend.c` with the HID session and the device of `btstack_bridge/device.c`.
Each layer remembers in flags what it has started and unwinds its own part. The runner carries the
log of the calls that start and stop a resource.
-/

namespace Swbt

/-- What the daemon starts and stops. -/
inductive Resource where
  | ipc
  | platform
  | hidRegistration
  | outputHandler
  | reportTimer
  | power
  | shutdownListener
deriving DecidableEq, Repr

/-- A call that starts or stops a resource. -/
abbrev ResourceCall := Brackets.Call Resource

/-- The answers of the ports to the calls of one start. -/
structure StartAnswers where
  ipcStart : Bool
  platformStart : Bool
  hidRegister : Bool
  reportTimerStart : Bool
deriving DecidableEq, Repr

/-! ## The device -/

/-- `swbt_btstack_device_t`. -/
structure Device where
  initialized : Bool
  platformStarted : Bool
  hidRegistered : Bool
deriving DecidableEq, Repr

namespace Device

/-- The results of `swbt_btstack_device_open`. -/
inductive Result where
  | ok
  | invalidArgument
  | openFailed
deriving DecidableEq, Repr

/-- A device that has not been initialized. -/
def zero : Device := ⟨false, false, false⟩

/-- `swbt_btstack_device_init`. -/
def init : Device := ⟨true, false, false⟩

/-- The part of `swbt_btstack_device_open` that starts the platform. -/
def startPlatform (device : Device) (answers : StartAnswers) :
    Bool × Device × List ResourceCall :=
  if device.platformStarted then (true, device, [])
  else
    (answers.platformStart, { device with platformStarted := answers.platformStart },
      [.start .platform answers.platformStart])

/-- `swbt_btstack_device_open`. -/
def openDevice (device : Device) (answers : StartAnswers) :
    Result × Device × List ResourceCall :=
  if !device.initialized then (.invalidArgument, device, [])
  else if device.hidRegistered then (.ok, device, [])
  else
    let (started, device, calls) := device.startPlatform answers
    if !started then (.openFailed, device, calls)
    else if !answers.hidRegister then
      let calls := calls ++ [.start .hidRegistration false]
      if device.platformStarted then
        (.openFailed, { device with platformStarted := false }, calls ++ [.stop .platform])
      else (.openFailed, device, calls)
    else (.ok, { device with hidRegistered := true }, calls ++ [.start .hidRegistration true])

/-- `swbt_btstack_device_close`. -/
def closeDevice (device : Device) : Device × List ResourceCall :=
  if !device.initialized then (device, [])
  else
    ({ device with hidRegistered := false, platformStarted := false },
      (if device.hidRegistered then [.stop .hidRegistration] else []) ++
        (if device.platformStarted then [.stop .platform] else []))

end Device

/-! ## The backend -/

/-- The fields of `swbt_daemon_production_runner_t` that its start and its stop use, and the calls
that it has made. -/
structure ProductionRunner where
  /-- `config.report_period_us`. -/
  reportPeriodUs : UInt32
  /-- All the ports are valid, not only the one of the IPC pump. -/
  portsValid : Bool
  initialized : Bool
  adapterLocationConfigured : Bool
  device : Device
  reportTimerInitialized : Bool
  hardwarePowered : Bool
  calls : List ResourceCall
deriving DecidableEq, Repr

namespace ProductionRunner

/-- A call to a port. -/
def call (runner : ProductionRunner) (c : ResourceCall) : ProductionRunner :=
  { runner with calls := runner.calls ++ [c] }

/-- `swbt_daemon_production_ipc_start`. -/
def ipcStart (runner : ProductionRunner) (answers : StartAnswers) : Bool × ProductionRunner :=
  let ok := runner.initialized && answers.ipcStart
  (ok, runner.call (.start .ipc ok))

/-- `swbt_daemon_production_ipc_stop`. -/
def ipcStop (runner : ProductionRunner) : ProductionRunner := runner.call (.stop .ipc)

/-- `swbt_daemon_production_hid_register` with `swbt_daemon_btstack_hid_session_register`. -/
def hidRegister (runner : ProductionRunner) (answers : StartAnswers) : Bool × ProductionRunner :=
  if !runner.initialized then (false, runner)
  else
    -- every registration initializes the device anew
    let (result, device, calls) := Device.init.openDevice answers
    (result == .ok, { runner with device := device, calls := runner.calls ++ calls })

/-- `swbt_daemon_production_hid_stop` with `swbt_daemon_btstack_hid_session_stop`. -/
def hidStop (runner : ProductionRunner) : ProductionRunner :=
  if !runner.initialized then runner
  else
    let (device, calls) := runner.device.closeDevice
    { runner with device := device, calls := runner.calls ++ calls }

/-- `swbt_daemon_production_output_handler_start`. -/
def outputHandlerStart (runner : ProductionRunner) : ProductionRunner :=
  runner.call (.start .outputHandler true)

/-- `swbt_daemon_production_output_handler_stop`. -/
def outputHandlerStop (runner : ProductionRunner) : ProductionRunner :=
  runner.call (.stop .outputHandler)

/-- `swbt_daemon_production_process_report_timer_start` with
`swbt_daemon_btstack_report_timer_bridge_start`. -/
def reportTimerStart (runner : ProductionRunner) (answers : StartAnswers) :
    Bool × ProductionRunner :=
  let ok := runner.initialized && answers.reportTimerStart
  (ok, { runner.call (.start .reportTimer ok) with
    reportTimerInitialized := runner.reportTimerInitialized || ok })

/-- `swbt_daemon_production_process_report_timer_stop` with
`swbt_daemon_btstack_report_timer_bridge_stop`. -/
def reportTimerStop (runner : ProductionRunner) : ProductionRunner :=
  let runner := runner.call (.stop .reportTimer)
  if !runner.initialized || !runner.reportTimerInitialized then runner
  else { runner with reportTimerInitialized := false }

end ProductionRunner

/-! ## The runtime host -/

/-- The fields of `swbt_runtime_host_t` that its start and its stop use. -/
structure RuntimeHost where
  /-- The domain, which is `NULL` before init and after destroy. -/
  app : Option Domain
  initialized : Bool
  running : Bool
  hidRegistered : Bool
  outputHandlerStarted : Bool
  reportTimerStarted : Bool

namespace RuntimeHost

/-- `swbt_runtime_host_result_t`, as far as start and stop return it. -/
inductive Result where
  | ok
  | invalidArgument
  | backend
deriving DecidableEq, Repr

/-- A host whose bytes are all zero. -/
def zero : RuntimeHost := ⟨none, false, false, false, false, false⟩

/-- `swbt_runtime_host_init`. -/
def init (daemonStatus : DaemonStatus) : Except Result RuntimeHost :=
  match Domain.init with
  | .error _ => .error .invalidArgument
  | .ok app =>
    let (result, app) := app.setDaemonStatus daemonStatus
    if result ≠ .ok then .error .invalidArgument
    else .ok { zero with app := some app, initialized := true }

/-- `swbt_runtime_host_store_neutral`. -/
def storeNeutral (runtime : RuntimeHost) : RuntimeHost :=
  { runtime with app := runtime.app.map fun app => (app.revoke .shutdown 0).2 }

/-- `swbt_runtime_host_stop`. -/
def stop (runtime : RuntimeHost) (runner : ProductionRunner) : RuntimeHost × ProductionRunner :=
  if !runtime.initialized then (runtime, runner)
  else
    let runtime := runtime.storeNeutral
    let runner := if runtime.reportTimerStarted then runner.reportTimerStop else runner
    let runner := if runtime.outputHandlerStarted then runner.outputHandlerStop else runner
    let runner := if runtime.hidRegistered then runner.hidStop else runner
    ({ runtime with
        reportTimerStarted := false
        outputHandlerStarted := false
        hidRegistered := false
        running := false }, runner)

/-- `swbt_runtime_host_start`. -/
def start (runtime : RuntimeHost) (runner : ProductionRunner) (answers : StartAnswers) :
    Result × RuntimeHost × ProductionRunner :=
  if !runtime.initialized then (.invalidArgument, runtime, runner)
  else if runtime.running then (.ok, runtime, runner)
  else
    let (registered, runner) := runner.hidRegister answers
    if !registered then (.backend, runtime, runner)
    else
      let runner := runner.outputHandlerStart
      let runtime := { runtime with hidRegistered := true, outputHandlerStarted := true }
      let (started, runner) := runner.reportTimerStart answers
      if !started then (.backend, runtime.stop runner)
      else (.ok, { runtime with reportTimerStarted := true, running := true }, runner)

/-- `swbt_runtime_host_destroy`. -/
def destroy (runtime : RuntimeHost) (runner : ProductionRunner) :
    RuntimeHost × ProductionRunner :=
  (zero, (runtime.stop runner).2)

end RuntimeHost

/-! ## The process -/

/-- `swbt_daemon_process_t`, with the runner that is the context of its backend. -/
structure Process where
  runtime : RuntimeHost
  runner : ProductionRunner
  initialized : Bool
  running : Bool
  ipcStarted : Bool

namespace Process

/-- `swbt_daemon_process_result_t`, as far as start and stop return it. -/
inductive Result where
  | ok
  | invalidArgument
  | backend
deriving DecidableEq, Repr

/-- `swbt_daemon_process_init`. -/
def init (runner : ProductionRunner) : Except Result Process :=
  if runner.reportPeriodUs = 0 then .error .invalidArgument
  else
    match RuntimeHost.init ⟨.production, .stopped, .unavailable⟩ with
    | .error _ => .error .invalidArgument
    | .ok runtime => .ok ⟨runtime, runner, true, false, false⟩

/-- The process with another lifecycle state of its domain. -/
def setDaemonLifecycle (process : Process) (lifecycle : DaemonLifecycle) : Process :=
  { process with runtime := { process.runtime with
      app := process.runtime.app.map fun app => (app.setDaemonLifecycle lifecycle).2 } }

/-- `swbt_daemon_process_stop`. -/
def stop (process : Process) : Process :=
  if !process.initialized then process
  else
    let (runtime, runner) := process.runtime.stop process.runner
    let runner := if process.ipcStarted then runner.ipcStop else runner
    { { process with runtime := runtime, runner := runner, ipcStarted := false }.setDaemonLifecycle
        .stopped with running := false }

/-- `swbt_daemon_process_start`. -/
def start (process : Process) (answers : StartAnswers) : Result × Process :=
  if !process.initialized then (.invalidArgument, process)
  else if process.running then (.ok, process)
  else
    let (started, runner) := process.runner.ipcStart answers
    if !started then (.backend, { process with runner := runner })
    else
      let (result, runtime, runner) := process.runtime.start runner answers
      let process := { process with runtime := runtime, runner := runner, ipcStarted := true }
      if result ≠ .ok then (.backend, process.stop)
      else (.ok, { process.setDaemonLifecycle .running with running := true })

/-- `swbt_daemon_process_destroy`. -/
def destroy (process : Process) : Process :=
  let process := process.stop
  let (runtime, runner) := process.runtime.destroy process.runner
  { process with runtime := runtime, runner := runner, initialized := false }

/-- A call of the owner of the process. -/
inductive Op where
  | start (answers : StartAnswers)
  | stop
  | destroy
deriving DecidableEq, Repr

/-- The process after a call. -/
def step (process : Process) : Op → Process
  | .start answers => (process.start answers).2
  | .stop => process.stop
  | .destroy => process.destroy

/-- All the parts of the process are started. -/
def AllStarted (process : Process) : Prop :=
  process.ipcStarted = true ∧ process.runtime.hidRegistered = true ∧
    process.runtime.outputHandlerStarted = true ∧ process.runtime.reportTimerStarted = true

end Process

/-- The resources of the process and of its runtime, latest first in the order of their starts. -/
def processResources : List Resource :=
  [.reportTimer, .outputHandler, .hidRegistration, .platform, .ipc]

/-- The resource belongs to the process or to its runtime. -/
def Resource.ofProcess (r : Resource) : Bool := decide (r ∈ processResources)

/-- A log in which every resource is started and stopped in turns, beginning with a start, and the
resources of the process are stopped in the reverse order of their starts; `held` is what is held
after it. -/
structure Bracketed (calls : List ResourceCall) (held : List Resource) : Prop where
  nested : Brackets.Nested [] (calls.filter (·.resource.ofProcess)) held
  alternates : ∀ r, Brackets.Alternates r false calls (decide (r ∈ held))

end Swbt
