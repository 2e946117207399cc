import Mathlib.Data.List.Basic

/-!
# Metrics

`support/metrics.c`: the counters of report ticks and of state updates. All counters are 64-bit and
wrap around.
-/

namespace Swbt

namespace Metrics

/-- `swbt_metrics_report_send_result_t`. -/
inductive ReportSendResult where
  | ok
  | failed
deriving DecidableEq, Repr

/-- `swbt_metrics_hardware_status_t`. -/
inductive HardwareStatus where
  | unavailable
  | observed
deriving DecidableEq, Repr

/-- `swbt_metrics_snapshot_t`. -/
structure Snapshot where
  reportTicks : UInt64
  reportSendOk : UInt64
  reportSendFailed : UInt64
  reportIntervalCount : UInt64
  reportIntervalAverageUs : UInt64
  reportIntervalMaxUs : UInt64
  ipcStateAccepted : UInt64
  ipcStateRejected : UInt64
  ipcStateCoalesced : UInt64
  hardwareStatus : HardwareStatus
  actualReportRateHz : UInt32
  jitterMaxUs : UInt64
deriving DecidableEq, Repr

/-- A snapshot with all counters zero. -/
def Snapshot.zero : Snapshot :=
  ⟨0, 0, 0, 0, 0, 0, 0, 0, 0, .unavailable, 0, 0⟩

end Metrics

/-- `swbt_metrics_t`. -/
structure Metrics where
  snapshot : Metrics.Snapshot
  reportIntervalTotalUs : UInt64
  lastReportTickUs : UInt64
  hasLastReportTick : Bool
deriving DecidableEq, Repr

namespace Metrics

/-- `swbt_metrics_init`. -/
def init : Metrics :=
  ⟨Snapshot.zero, 0, 0, false⟩

/-- The interval part of `swbt_metrics_record_report_tick`, taken when an earlier tick exists. -/
def recordInterval (metrics : Metrics) (intervalUs : UInt64) : Metrics :=
  let count := metrics.snapshot.reportIntervalCount + 1
  let total := metrics.reportIntervalTotalUs + intervalUs
  { metrics with
    reportIntervalTotalUs := total
    snapshot :=
      { metrics.snapshot with
        reportIntervalCount := count
        reportIntervalAverageUs := total / count
        reportIntervalMaxUs :=
          if intervalUs > metrics.snapshot.reportIntervalMaxUs then intervalUs
          else metrics.snapshot.reportIntervalMaxUs } }

/-- The tick counters of `swbt_metrics_record_report_tick`. -/
def countTick (metrics : Metrics) (sendResult : ReportSendResult) : Metrics :=
  { metrics with
    snapshot :=
      match sendResult with
      | .ok =>
        { metrics.snapshot with
          reportTicks := metrics.snapshot.reportTicks + 1
          reportSendOk := metrics.snapshot.reportSendOk + 1 }
      | .failed =>
        { metrics.snapshot with
          reportTicks := metrics.snapshot.reportTicks + 1
          reportSendFailed := metrics.snapshot.reportSendFailed + 1 } }

/-- `swbt_metrics_record_report_tick`: `none` is the error result, with the metrics untouched. -/
def recordReportTick (metrics : Metrics) (nowUs : UInt64) (sendResult : ReportSendResult) :
    Option Metrics :=
  if metrics.hasLastReportTick && nowUs < metrics.lastReportTickUs then none
  else
    let counted := metrics.countTick sendResult
    let timed :=
      if metrics.hasLastReportTick then counted.recordInterval (nowUs - metrics.lastReportTickUs)
      else counted
    some { timed with lastReportTickUs := nowUs, hasLastReportTick := true }

/-- `swbt_metrics_record_state_update_accepted`. -/
def recordStateUpdateAccepted (metrics : Metrics) (coalescedUpdates : UInt64) : Metrics :=
  { metrics with
    snapshot :=
      { metrics.snapshot with
        ipcStateAccepted := metrics.snapshot.ipcStateAccepted + 1
        ipcStateCoalesced := metrics.snapshot.ipcStateCoalesced + coalescedUpdates } }

/-- `swbt_metrics_record_state_update_rejected`. -/
def recordStateUpdateRejected (metrics : Metrics) : Metrics :=
  { metrics with
    snapshot :=
      { metrics.snapshot with ipcStateRejected := metrics.snapshot.ipcStateRejected + 1 } }

end Metrics

end Swbt
