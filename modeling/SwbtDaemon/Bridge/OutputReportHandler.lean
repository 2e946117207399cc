import SwbtDaemon.Switch.Subcommand

/-!
# The output report handler

`output_report_handler.c`: BTstack delivers an output report either whole or without its report id,
which it then gives on its own. The handler puts the two together again in a scratch buffer, parses
the report and calls its callback. `κ` stands for the callback with its context.
-/

namespace Swbt

/-- `SWBT_BTSTACK_HID_REPORT_TYPE_OUTPUT`. -/
def hidReportTypeOutput : UInt8 := 2

/-- `SWBT_BTSTACK_OUTPUT_REPORT_MAX_SIZE`. -/
def outputReportMaxSize : Nat := 64

/-- `swbt_btstack_output_report_handler_t`. -/
structure OutputReportHandler (κ : Type) where
  callback : Option κ
  scratch : Vector UInt8 outputReportMaxSize

namespace OutputReportHandler

/-- `swbt_btstack_output_report_result_t`. -/
inductive Result where
  | ok
  | ignoredReportType
  | invalidArgument
  | reportIdTooLarge
  | bufferTooSmall
  | parseFailed
deriving DecidableEq, Repr

/-- `swbt_btstack_output_report_handle_options_t`: `report` is `none` for a null pointer. -/
structure HandleOptions where
  hidCid : UInt16
  reportType : UInt8
  reportId : UInt16
  report : Option (List UInt8)
deriving DecidableEq, Repr

/-- What a call of the handler does: its result, the handler afterwards and the calls of the
callback. -/
structure Handled (κ : Type) where
  result : Result
  handler : OutputReportHandler κ
  calls : List (κ × UInt16 × OutputReport)

variable {κ : Type}

/-- `swbt_btstack_output_report_handler_init`: the scratch buffer keeps what it held. -/
def init (handler : OutputReportHandler κ) (callback : Option κ) : OutputReportHandler κ :=
  { handler with callback := callback }

/-- `swbt_btstack_output_report_rejoin_id`: the handler with the joined report in its scratch
buffer, and the size of that report. -/
def rejoinId (handler : OutputReportHandler κ) (reportId : UInt16) (report : List UInt8) :
    Except Result (OutputReportHandler κ × Nat) :=
  if reportId > 0xFF then .error .reportIdTooLarge
  else if report.length ≥ outputReportMaxSize then .error .bufferTooSmall
  else
    .ok ({ handler with
      scratch := Vector.ofFn fun i =>
        (reportId.toUInt8 :: report).getD i.val (handler.scratch.get i) }, report.length + 1)

/-- The part of `swbt_btstack_output_report_handler_handle` from the parser on. -/
def deliver (handler : OutputReportHandler κ) (callback : κ) (hidCid : UInt16)
    (parserReport : List UInt8) : Handled κ :=
  match parseOutputReport parserReport with
  | .error _ => ⟨.parseFailed, handler, []⟩
  | .ok parsed => ⟨.ok, handler, [(callback, hidCid, parsed)]⟩

/-- `swbt_btstack_output_report_handler_handle`. -/
def handle (handler : OutputReportHandler κ) (options : HandleOptions) : Handled κ :=
  match handler.callback, options.report with
  | some callback, some report =>
    if options.reportType ≠ hidReportTypeOutput then ⟨.ignoredReportType, handler, []⟩
    else if options.reportId ≠ 0 then
      match rejoinId handler options.reportId report with
      | .error result => ⟨result, handler, []⟩
      | .ok (handler, size) =>
        deliver handler callback options.hidCid (handler.scratch.toList.take size)
    else deliver handler callback options.hidCid report
  | _, _ => ⟨.invalidArgument, handler, []⟩

end OutputReportHandler

end Swbt
