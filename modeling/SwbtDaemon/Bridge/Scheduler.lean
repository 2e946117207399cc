import SwbtDaemon.Lib.Traces
import SwbtDaemon.Switch.Report

/-!
# The input report scheduler

`btstack_bridge/input_report_scheduler.c`: decides when a periodic `0x30` report is due and numbers
the reports. All times are 64-bit microseconds.
-/

namespace Swbt

/-- `swbt_btstack_input_report_scheduler_t`, without the callback and the scratch buffer. -/
structure Scheduler where
  reportPeriodUs : UInt32
  reportOptions : ReportOptions
  hidCid : UInt16
  running : Bool
  nextDeadlineUs : UInt64
  timer : UInt8
deriving DecidableEq, Repr

namespace Scheduler

/-- `swbt_btstack_input_report_result_t`. -/
inductive Result where
  | ok
  | notDue
  | stopped
  | invalidArgument
  | buildFailed
  | sendFailed
deriving DecidableEq, Repr

/-- `swbt_btstack_input_report_scheduler_is_valid`. -/
def isValid (scheduler : Scheduler) : Bool := scheduler.reportPeriodUs > 0

/-- `swbt_btstack_input_report_scheduler_init`. -/
def init (reportPeriodUs : UInt32) (reportOptions : ReportOptions) : Except Result Scheduler :=
  if reportPeriodUs = 0 then .error .invalidArgument
  else .ok ⟨reportPeriodUs, reportOptions, 0, false, 0, reportOptions.timer⟩

/-- `swbt_btstack_input_report_scheduler_start`. -/
def start (scheduler : Scheduler) (hidCid : UInt16) (nowUs : UInt64) : Result × Scheduler :=
  if !scheduler.isValid then (.invalidArgument, scheduler)
  else
    (.ok, { scheduler with
      hidCid := hidCid
      running := true
      nextDeadlineUs := nowUs + scheduler.reportPeriodUs.toUInt64
      timer := scheduler.reportOptions.timer })

/-- `swbt_btstack_input_report_scheduler_stop`. -/
def stop (scheduler : Scheduler) : Scheduler := { scheduler with running := false, hidCid := 0 }

/-- `swbt_btstack_input_report_scheduler_advance`. -/
def advance (scheduler : Scheduler) (nowUs : UInt64) : Scheduler :=
  let nextDeadline := scheduler.nextDeadlineUs + scheduler.reportPeriodUs.toUInt64
  { scheduler with
    nextDeadlineUs :=
      if nextDeadline ≤ nowUs then nowUs + scheduler.reportPeriodUs.toUInt64 else nextDeadline }

/-- The options of the next report: the configured ones with the running timer byte. -/
def currentOptions (scheduler : Scheduler) : ReportOptions :=
  { scheduler.reportOptions with timer := scheduler.timer }

/-- `swbt_btstack_input_report_scheduler_tick`. `sent` is the result of the send callback; the
last component is the report that the callback is given, if it is called. -/
def tick (scheduler : Scheduler) (nowUs : UInt64) (state : State) (sent : Bool) :
    Result × Scheduler × Option (List UInt8) :=
  if !scheduler.isValid then (.invalidArgument, scheduler, none)
  else if !scheduler.running then (.stopped, scheduler, none)
  else if nowUs < scheduler.nextDeadlineUs then (.notDue, scheduler, none)
  else
    match buildStandardFullReport state scheduler.currentOptions standardFullReportSize with
    | .error _ => (.buildFailed, scheduler, none)
    | .ok report =>
      let advanced := scheduler.advance nowUs
      if !sent then (.sendFailed, advanced, some report)
      else (.ok, { advanced with timer := advanced.timer + 1 }, some report)

/-! ## Runs of ticks -/

/-- The arguments of one tick and the answer of the send callback, should it be called. -/
structure Tick where
  nowUs : UInt64
  state : State
  sent : Bool

/-- The scheduler after a tick. -/
def afterTick (scheduler : Scheduler) (t : Tick) : Scheduler :=
  (scheduler.tick t.nowUs t.state t.sent).2.1

/-- The time of a tick that calls the send callback. -/
def attempt (scheduler : Scheduler) (t : Tick) : List UInt64 :=
  if (scheduler.tick t.nowUs t.state t.sent).2.2.isSome then [t.nowUs] else []

/-- The times of the send attempts in a run of ticks. -/
def attempts (scheduler : Scheduler) (ticks : List Tick) : List UInt64 :=
  Runs.emitted afterTick attempt scheduler ticks

end Scheduler

end Swbt
