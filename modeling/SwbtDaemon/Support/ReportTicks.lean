import SwbtDaemon.Lib.Traces
import SwbtDaemon.Support.Metrics

/-!
# Report ticks

`swbt_metrics_record_report_tick` as its callers see it: the send result is the number in the
options, and a tick that is not recorded gives an error.
-/

namespace Swbt

namespace Metrics

/-- `swbt_metrics_result_t`. -/
inductive Result where
  | ok
  | invalidArgument
deriving DecidableEq, Repr

/-- `swbt_metrics_report_tick_options_t`, with the number of the send result. -/
structure ReportTickOptions where
  nowUs : UInt64
  sendResult : UInt32
deriving DecidableEq, Repr

/-- `swbt_metrics_send_result_is_valid`: the send result that a number stands for. -/
def ReportSendResult.ofNumber (sendResult : UInt32) : Option ReportSendResult :=
  if sendResult = 0 then some .ok
  else if sendResult = 1 then some .failed
  else none

/-- `swbt_metrics_record_report_tick`, with its options and its result. -/
def recordReportTickCall (metrics : Metrics) (options : ReportTickOptions) : Result × Metrics :=
  match ReportSendResult.ofNumber options.sendResult with
  | none => (.invalidArgument, metrics)
  | some sendResult =>
    match metrics.recordReportTick options.nowUs sendResult with
    | none => (.invalidArgument, metrics)
    | some after => (.ok, after)

/-! ## Runs -/

/-- An accepted tick: its time and its send result. -/
abbrev Tick := UInt64 × ReportSendResult

/-- The metrics after a call. -/
def step (metrics : Metrics) (options : ReportTickOptions) : Metrics :=
  (metrics.recordReportTickCall options).2

/-- The tick that a call adds to the accepted ones. -/
def acceptedTick (metrics : Metrics) (options : ReportTickOptions) : List Tick :=
  match ReportSendResult.ofNumber options.sendResult with
  | none => []
  | some sendResult =>
    if (metrics.recordReportTickCall options).1 = .ok then [(options.nowUs, sendResult)] else []

/-- The metrics after the calls, from `swbt_metrics_init` on. -/
def afterCalls (calls : List ReportTickOptions) : Metrics := Runs.run step init calls

/-- The accepted ticks among the calls, from `swbt_metrics_init` on. -/
def acceptedTicks (calls : List ReportTickOptions) : List Tick :=
  Runs.emitted step acceptedTick init calls

/-- The times of ticks. -/
def times (ticks : List Tick) : List Nat := ticks.map fun t => t.1.toNat

end Metrics

end Swbt
