import SwbtDaemon.Lib.Brackets

/-!
# The production ports

`btstack_bridge/production_btstack_impl.c` with `output_report_callbacks.c`: what the ports of the
daemon open and close in the Bluetooth stack. The files remember it in global flags; here these are
the fields of a record, which also carries the log of the calls to the stack.
-/

namespace Swbt

/-- What the ports open and close in the stack. -/
inductive StackResource where
  | hciDump
  | runLoop
  | hci
  | linkKeyDb
  | linkKeyEvents
  | ipcPumpTimer
  | hidDevice
  | reportCallbacks
deriving DecidableEq, Repr

/-- A call to the stack. -/
abbrev StackCall := Brackets.Call StackResource

/-- The answers to the calls of one start: of the stack, and of the IPC runner and the report timer
besides. -/
structure StackAnswers where
  ipcStart : Bool
  hciDumpOpen : Bool
  linkKeyDbOpen : Bool
  discoveryConfigure : Bool
  hidRegister : Bool
  reportTimerStart : Bool
deriving DecidableEq, Repr

/-- The global variables of the two files. -/
structure ProductionPorts where
  /-- `g_hci_dump_path`. -/
  hciDumpPath : Option (List UInt8)
  /-- `g_link_key_db_path`. -/
  linkKeyDbPath : Option (List UInt8)
  hciDumpOpen : Bool
  linkKeyDbOpen : Bool
  linkKeyEventHandlerRegistered : Bool
  ipcPumpStarted : Bool
  ipcPumpTimerPending : Bool
  /-- `g_output_report_handler` is not `NULL`. -/
  outputReportHandler : Bool
  log : List StackCall
deriving DecidableEq, Repr

/-- `swbt_diagnostic_path_is_enabled`. -/
def diagnosticPathIsEnabled (path : Option (List UInt8)) : Bool :=
  match path with
  | none => false
  | some path => !path.isEmpty

namespace ProductionPorts

/-- The globals of a program that has configured the two paths. -/
def init (hciDumpPath linkKeyDbPath : Option (List UInt8)) : ProductionPorts :=
  ⟨hciDumpPath, linkKeyDbPath, false, false, false, false, false, false, []⟩

/-- A call to the stack. -/
def call (ports : ProductionPorts) (c : StackCall) : ProductionPorts :=
  { ports with log := ports.log ++ [c] }

/-! ## The HCI dump -/

/-- `swbt_btstack_production_hci_dump_start`. -/
def hciDumpStart (ports : ProductionPorts) (answers : StackAnswers) : Bool × ProductionPorts :=
  if !diagnosticPathIsEnabled ports.hciDumpPath then (true, ports)
  else if !answers.hciDumpOpen then (false, ports.call (.start .hciDump false))
  else (true, { ports.call (.start .hciDump true) with hciDumpOpen := true })

/-- `swbt_btstack_production_hci_dump_stop`. -/
def hciDumpStop (ports : ProductionPorts) : ProductionPorts :=
  if !ports.hciDumpOpen then ports
  else { ports.call (.stop .hciDump) with hciDumpOpen := false }

/-! ## The link keys -/

/-- `link_key_events_start`. -/
def linkKeyEventsStart (ports : ProductionPorts) : ProductionPorts :=
  if ports.linkKeyEventHandlerRegistered then ports
  else { ports.call (.start .linkKeyEvents true) with linkKeyEventHandlerRegistered := true }

/-- `link_key_events_stop`. -/
def linkKeyEventsStop (ports : ProductionPorts) : ProductionPorts :=
  if !ports.linkKeyEventHandlerRegistered then ports
  else { ports.call (.stop .linkKeyEvents) with linkKeyEventHandlerRegistered := false }

/-- `link_key_db_start`. -/
def linkKeyDbStart (ports : ProductionPorts) (answers : StackAnswers) : Bool × ProductionPorts :=
  if !diagnosticPathIsEnabled ports.linkKeyDbPath then (true, ports)
  else if !answers.linkKeyDbOpen then (false, ports.call (.start .linkKeyDb false))
  else
    (true, { (ports.call (.start .linkKeyDb true)).linkKeyEventsStart with linkKeyDbOpen := true })

/-- `link_key_db_stop`. -/
def linkKeyDbStop (ports : ProductionPorts) : ProductionPorts :=
  if !ports.linkKeyDbOpen then ports
  else { ports.call (.stop .linkKeyDb) with linkKeyDbOpen := false }

/-! ## The IPC pump -/

/-- `swbt_btstack_production_ipc_pump_schedule`. -/
def ipcPumpSchedule (ports : ProductionPorts) : ProductionPorts :=
  if !ports.ipcPumpStarted || ports.ipcPumpTimerPending then ports
  else { ports.call (.start .ipcPumpTimer true) with ipcPumpTimerPending := true }

/-- `swbt_btstack_production_ipc_pump_start`. -/
def ipcPumpStart (ports : ProductionPorts) : ProductionPorts :=
  { ports with ipcPumpStarted := true, ipcPumpTimerPending := false }

/-- `swbt_btstack_production_ipc_pump_stop`. -/
def ipcPumpStop (ports : ProductionPorts) : ProductionPorts :=
  let ports :=
    if ports.ipcPumpTimerPending then
      { ports.call (.stop .ipcPumpTimer) with ipcPumpTimerPending := false }
    else ports
  { ports with ipcPumpStarted := false }

/-- `swbt_btstack_production_ipc_pump_timer_handler`. The run loop has taken the timer off before it
calls the handler; what the handler polls is the IPC runner. -/
def ipcPumpTimerHandler (ports : ProductionPorts) : ProductionPorts :=
  { ports.call (.stop .ipcPumpTimer) with ipcPumpTimerPending := false }.ipcPumpSchedule

/-! ## The platform -/

/-- `swbt_btstack_production_platform_start`. -/
def platformStart (ports : ProductionPorts) (answers : StackAnswers) : Bool × ProductionPorts :=
  let dump := ports.hciDumpStart answers
  if !dump.1 then (false, dump.2)
  else
    let db := ((dump.2.call (.start .runLoop true)).call (.start .hci true)).linkKeyDbStart answers
    if !db.1 then (false, db.2.hciDumpStop)
    else if !answers.discoveryConfigure then
      (false, db.2.linkKeyEventsStop.linkKeyDbStop.hciDumpStop)
    else (true, db.2.ipcPumpSchedule)

/-- `swbt_btstack_production_platform_stop`. -/
def platformStop (ports : ProductionPorts) : ProductionPorts :=
  let ports := ports.ipcPumpStop.linkKeyEventsStop
  let ports := (ports.call (.stop .hci)).linkKeyDbStop
  (ports.call (.stop .runLoop)).hciDumpStop

/-! ## The HID device and its reports -/

/-- `swbt_btstack_production_hid_register`: it starts the HID device last, if its service record
fits and is accepted. -/
def hidRegister (ports : ProductionPorts) (registered : Bool) : ProductionPorts :=
  ports.call (.start .hidDevice registered)

/-- `swbt_btstack_production_hid_stop`. -/
def hidStop (ports : ProductionPorts) : ProductionPorts := ports.call (.stop .hidDevice)

/-- `swbt_btstack_production_output_handler_start`, with
`swbt_btstack_output_report_callbacks_register`. -/
def outputHandlerStart (ports : ProductionPorts) : ProductionPorts :=
  { ports.call (.start .reportCallbacks true) with outputReportHandler := true }

/-- `swbt_btstack_production_output_handler_stop`, with
`swbt_btstack_output_report_callbacks_unregister`. -/
def outputHandlerStop (ports : ProductionPorts) : ProductionPorts :=
  { ports.call (.stop .reportCallbacks) with outputReportHandler := false }

end ProductionPorts

end Swbt
