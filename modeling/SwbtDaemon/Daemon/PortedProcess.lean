import SwbtDaemon.Bridge.ProductionPorts
import SwbtDaemon.Daemon.Process

/-!
# The daemon process on the Bluetooth stack

The calls that the process makes to start and to stop its parts (`Daemon.Process`) go to the ports
of `btstack_bridge/production_btstack_impl.c`, which open and close resources of the stack for them.
Between the calls of its owner, the run loop delivers the timer of the IPC pump.
-/

namespace Swbt

/-- The ports answer the process as the stack answers them. -/
def StackAnswers.toStart (answers : StackAnswers) (ports : ProductionPorts) : StartAnswers where
  ipcStart := answers.ipcStart
  platformStart := (ports.platformStart answers).1
  hidRegister := answers.hidRegister
  reportTimerStart := answers.reportTimerStart

/-- A call of the process, at the ports. The report timer, the power and the shutdown listener open
nothing of theirs. -/
def ProductionPorts.perform (answers : StackAnswers) (ports : ProductionPorts) :
    ResourceCall → ProductionPorts
  | .start .ipc started => if started then ports.ipcPumpStart else ports
  | .stop .ipc => ports.ipcPumpStop
  | .start .platform _ => (ports.platformStart answers).2
  | .stop .platform => ports.platformStop
  | .start .hidRegistration registered => ports.hidRegister registered
  | .stop .hidRegistration => ports.hidStop
  | .start .outputHandler _ => ports.outputHandlerStart
  | .stop .outputHandler => ports.outputHandlerStop
  | .start .reportTimer _ | .stop .reportTimer => ports
  | .start .power _ | .stop .power => ports
  | .start .shutdownListener _ | .stop .shutdownListener => ports

/-- The process and the ports that it runs on. -/
structure PortedProcess where
  process : Process
  ports : ProductionPorts

namespace PortedProcess

inductive Event where
  | start (answers : StackAnswers)
  | stop
  | destroy
  /-- The run loop delivers the timer of the IPC pump, when it is registered. -/
  | pumpTimer
deriving DecidableEq, Repr

/-- The process after a call of its owner, and the ports after the calls that it has made. -/
def after (s : PortedProcess) (answers : StackAnswers) (process : Process) : PortedProcess where
  process := process
  ports := (process.runner.calls.drop s.process.runner.calls.length).foldl
    (ProductionPorts.perform answers) s.ports

/-- A stop and a destroy start nothing, so that nothing is answered. -/
def unasked : StackAnswers := ⟨false, false, false, false, false, false⟩

/-- The state after an event. -/
def step (s : PortedProcess) : Event → PortedProcess
  | .start answers => s.after answers (s.process.start (answers.toStart s.ports)).2
  | .stop => s.after unasked s.process.stop
  | .destroy => s.after unasked s.process.destroy
  | .pumpTimer =>
    if s.ports.ipcPumpTimerPending then { s with ports := s.ports.ipcPumpTimerHandler } else s

end PortedProcess

/-! ## What is open -/

/-- What is open in the stack. -/
structure Opened where
  hciDump : Bool
  runLoop : Bool
  hci : Bool
  linkKeyDb : Bool
  linkKeyEvents : Bool
  ipcPumpTimer : Bool
  hidDevice : Bool
  reportCallbacks : Bool
deriving DecidableEq, Repr

namespace Opened

def has (opened : Opened) : StackResource → Bool
  | .hciDump => opened.hciDump
  | .runLoop => opened.runLoop
  | .hci => opened.hci
  | .linkKeyDb => opened.linkKeyDb
  | .linkKeyEvents => opened.linkKeyEvents
  | .ipcPumpTimer => opened.ipcPumpTimer
  | .hidDevice => opened.hidDevice
  | .reportCallbacks => opened.reportCallbacks

def none : Opened := ⟨false, false, false, false, false, false, false, false⟩

/-- What is open while the daemon runs: the dump and the link keys only where their path is
configured. -/
def running (hciDumpPath linkKeyDbPath : Option (List UInt8)) : Opened where
  hciDump := diagnosticPathIsEnabled hciDumpPath
  runLoop := true
  hci := true
  linkKeyDb := diagnosticPathIsEnabled linkKeyDbPath
  linkKeyEvents := diagnosticPathIsEnabled linkKeyDbPath
  ipcPumpTimer := true
  hidDevice := true
  reportCallbacks := true

end Opened

/-- The flags of the ports are right about what is open. -/
structure ProductionPorts.Shows (ports : ProductionPorts) (opened : Opened) : Prop where
  hciDumpOpen : ports.hciDumpOpen = opened.hciDump
  linkKeyDbOpen : ports.linkKeyDbOpen = opened.linkKeyDb
  linkKeyEvents : ports.linkKeyEventHandlerRegistered = opened.linkKeyEvents
  ipcPumpTimer : ports.ipcPumpTimerPending = opened.ipcPumpTimer
  outputReportHandler : ports.outputReportHandler = opened.reportCallbacks

/-- What the daemon keeps open between the calls of its owner. -/
def PortedProcess.opened (s : PortedProcess) : Opened :=
  if s.process.running then Opened.running s.ports.hciDumpPath s.ports.linkKeyDbPath
  else Opened.none

/-- A start of the platform with these answers does not fail after it has started HCI: the link key
database opens, or is not asked for, and the discovery is configured. -/
def StackAnswers.ClosesHci (hciDumpPath linkKeyDbPath : Option (List UInt8))
    (answers : StackAnswers) : Prop :=
  (diagnosticPathIsEnabled hciDumpPath = true → answers.hciDumpOpen = true) →
    (diagnosticPathIsEnabled linkKeyDbPath = true → answers.linkKeyDbOpen = true) ∧
      answers.discoveryConfigure = true

/-- Nor does a start of the process. -/
def PortedProcess.Event.KeepsHci (hciDumpPath linkKeyDbPath : Option (List UInt8)) : Event → Prop
  | .start answers => answers.ipcStart = true → answers.ClosesHci hciDumpPath linkKeyDbPath
  | _ => True

end Swbt
