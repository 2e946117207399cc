import SwbtDaemon.Bridge.ReplyQueue
import SwbtDaemon.Bridge.Scheduler

/-!
# The report timer adapter

`btstack_bridge/input_report_timer_adapter.c`: one timer and one can-send event drive the periodic
reports, the queued replies and the neutral reports. A handler is given what it reads from outside
(the clock, the controller state, the result of its send) and returns its calls to the run loop,
the HID sender and the observer, in order, as `Action`s.
-/

namespace Swbt

/-- A call of the adapter to the outside. -/
inductive Action where
  | setTimer (timeoutMs : UInt32)
  | addTimer
  | removeTimer
  | requestCanSendNow (hidCid : UInt16)
  /-- A message given to the HID sender, and whether it was accepted. -/
  | send (hidCid : UInt16) (message : List UInt8) (accepted : Bool)
  /-- A call of `report_tick_observer`. -/
  | reportTick (nowUs : UInt64) (sent : Bool)
deriving DecidableEq, Repr

/-- The messages among the calls of a handler. -/
def Action.messages (actions : List Action) : List (List UInt8) :=
  actions.filterMap fun
    | .send _ message _ => some message
    | _ => none

/-- `swbt_btstack_input_report_timer_adapter_t`. -/
structure TimerAdapter where
  scheduler : Scheduler
  replyQueue : ReplyQueue
  hidCid : UInt16
  initialized : Bool
  running : Bool
  timerPending : Bool
  canSendPending : Bool
  neutralSendPending : Bool
  periodicHoldoffUntilUs : UInt64
deriving DecidableEq

namespace TimerAdapter

/-- `swbt_btstack_input_report_timer_result_t`. -/
inductive Result where
  | ok
  | notDue
  | stopped
  | pending
  | invalidArgument
  | scheduler
  | replyQueue
deriving DecidableEq, Repr

/-- What a handler does: its result, the adapter afterwards and its calls. -/
structure Handled where
  result : Result
  adapter : TimerAdapter
  actions : List Action
deriving DecidableEq

/-- The adapter after a handler, and the calls of the handler. -/
def Handled.calls (handled : Handled) : TimerAdapter × List Action :=
  (handled.adapter, handled.actions)

/-- `SWBT_BTSTACK_HIDP_INPUT_REPORT_HEADER`. -/
def hidpInputReportHeader : UInt8 := 0xA1

/-- `SWBT_BTSTACK_REPLY_PERIODIC_HOLDOFF_US`. -/
def replyPeriodicHoldoffUs : UInt64 := 300000

/-- `delay_ms_until`: the delay in milliseconds, rounded up and saturated. -/
def delayMsUntil (nowUs deadlineUs : UInt64) : UInt32 :=
  if deadlineUs ≤ nowUs then 0
  else
    let delayMs := (deadlineUs - nowUs + 999) / 1000
    if delayMs > 0xFFFFFFFF then 0xFFFFFFFF else delayMs.toUInt32

/-- The time of a clock reading in milliseconds. -/
def readingUs (nowMs : UInt32) : UInt64 := nowMs.toUInt64 * 1000

/-- `map_scheduler_result`. -/
def mapSchedulerResult : Scheduler.Result → Result
  | .ok => .ok
  | .notDue => .notDue
  | .stopped => .stopped
  | .invalidArgument => .scheduler
  | .buildFailed => .scheduler
  | .sendFailed => .scheduler

/-- `map_reply_queue_result`. -/
def mapReplyQueueResult : ReplyQueue.Result → Result
  | .ok => .ok
  | .empty => .notDue
  | .full => .replyQueue
  | .invalidReportSize => .replyQueue
  | .sendFailed => .replyQueue

/-- `swbt_btstack_input_report_timer_adapter_init`. -/
def init (reportPeriodUs : UInt32) (reportOptions : ReportOptions) :
    Except Result TimerAdapter :=
  match Scheduler.init reportPeriodUs reportOptions with
  | .error _ => .error .invalidArgument
  | .ok scheduler => .ok ⟨scheduler, ReplyQueue.init, 0, true, false, false, false, false, 0⟩

/-- The calls of `notify_report_tick`. -/
def notifyReportTick (nowUs : UInt64) (tickResult : Scheduler.Result) : List Action :=
  match tickResult with
  | .ok => [.reportTick nowUs true]
  | .sendFailed => [.reportTick nowUs false]
  | _ => []

/-- `schedule_next_timer`. -/
def scheduleNextTimer (adapter : TimerAdapter) (nowUs : UInt64) : Handled :=
  let nextDeadlineUs := adapter.scheduler.nextDeadlineUs
  let scheduledDeadlineUs :=
    if adapter.periodicHoldoffUntilUs > nextDeadlineUs then adapter.periodicHoldoffUntilUs
    else nextDeadlineUs
  ⟨.ok, { adapter with timerPending := true },
    [.setTimer (delayMsUntil nowUs scheduledDeadlineUs), .addTimer]⟩

/-- `cancel_pending_timer`. -/
def cancelPendingTimer (adapter : TimerAdapter) : TimerAdapter × List Action :=
  if adapter.timerPending then ({ adapter with timerPending := false }, [.removeTimer])
  else (adapter, [])

/-- `holdoff_periodic_after_reply`. -/
def holdoffPeriodicAfterReply (adapter : TimerAdapter) (nowUs : UInt64) : Handled :=
  let (adapter, removed) := cancelPendingTimer
    { adapter with
      periodicHoldoffUntilUs := nowUs + replyPeriodicHoldoffUs
      canSendPending := false }
  let scheduled := adapter.scheduleNextTimer nowUs
  { scheduled with actions := removed ++ scheduled.actions }

/-- The message that `send_hidp_input_report` builds: a reply carries the shared timer byte. -/
def hidpMessage (adapter : TimerAdapter) (report : List UInt8) : List UInt8 :=
  match report with
  | id :: _ :: rest =>
    if id = inputReportSubcommandReply then
      hidpInputReportHeader :: id :: adapter.scheduler.timer :: rest
    else hidpInputReportHeader :: report
  | _ => hidpInputReportHeader :: report

/-- Whether a report uses the shared timer byte. -/
def usesSharedTimer (report : List UInt8) : Bool :=
  match report with
  | id :: _ :: _ => id == inputReportSubcommandReply
  | _ => false

/-- `send_hidp_input_report`; `accepted` is the answer of the HID sender. -/
def sendHidpInputReport (adapter : TimerAdapter) (hidCid : UInt16) (report : List UInt8)
    (accepted : Bool) : Bool × TimerAdapter × List Action :=
  if report.length = 0 ∨ report.length > subcommandReplyReportSize then (false, adapter, [])
  else
    let action := Action.send hidCid (adapter.hidpMessage report) accepted
    if accepted && usesSharedTimer report then
      (true, { adapter with
        scheduler := { adapter.scheduler with timer := adapter.scheduler.timer + 1 } }, [action])
    else (accepted, adapter, [action])

/-- The calls of `scheduler_send_callback`, with the report that the scheduler gives it. -/
def schedulerSends (adapter : TimerAdapter) (report : Option (List UInt8)) (accepted : Bool) :
    List Action :=
  match report with
  | none => []
  | some report => (adapter.sendHidpInputReport adapter.scheduler.hidCid report accepted).2.2

/-- `send_neutral_report`. -/
def sendNeutralReport (adapter : TimerAdapter) (accepted : Bool) : Handled :=
  match buildStandardFullReport State.neutral adapter.scheduler.currentOptions
      standardFullReportSize with
  | .error _ => ⟨.scheduler, adapter, []⟩
  | .ok report =>
    let (sent, adapter, actions) := adapter.sendHidpInputReport adapter.hidCid report accepted
    if !sent then ⟨.scheduler, adapter, actions⟩
    else
      ⟨.ok, { adapter with
        scheduler := { adapter.scheduler with timer := adapter.scheduler.timer + 1 } }, actions⟩

/-- `swbt_btstack_input_report_timer_adapter_start`. -/
def start (adapter : TimerAdapter) (hidCid : UInt16) (nowUs : UInt64) : Handled :=
  if !adapter.initialized then ⟨.invalidArgument, adapter, []⟩
  else
    let (result, scheduler) := adapter.scheduler.start hidCid nowUs
    if result ≠ .ok then ⟨mapSchedulerResult result, { adapter with scheduler := scheduler }, []⟩
    else
      scheduleNextTimer
        { adapter with
          scheduler := scheduler
          hidCid := hidCid
          running := true
          timerPending := false
          canSendPending := false
          periodicHoldoffUntilUs := 0
          neutralSendPending := false } nowUs

/-- `swbt_btstack_input_report_timer_adapter_on_timer`. -/
def onTimer (adapter : TimerAdapter) (nowMs : UInt32) : Handled :=
  if !adapter.running then ⟨.stopped, adapter, []⟩
  else
    let nowUs := readingUs nowMs
    if nowUs < adapter.periodicHoldoffUntilUs then
      { adapter with timerPending := false }.scheduleNextTimer nowUs
    else
      ⟨.ok, { adapter with timerPending := false, canSendPending := true },
        [.requestCanSendNow adapter.hidCid]⟩

/-- The branch of `on_can_send_now` for a pending neutral report. -/
def flushNeutral (adapter : TimerAdapter) (nowMs : UInt32) (accepted : Bool) : Handled :=
  let neutral := adapter.sendNeutralReport accepted
  if neutral.result ≠ .ok then
    { neutral with actions := neutral.actions ++ [.requestCanSendNow adapter.hidCid] }
  else
    let (adapter, removed) := cancelPendingTimer
      { neutral.adapter with
        neutralSendPending := false
        canSendPending := false
        periodicHoldoffUntilUs := 0 }
    let scheduled := adapter.scheduleNextTimer (readingUs nowMs)
    { scheduled with actions := neutral.actions ++ removed ++ scheduled.actions }

/-- The branch of `on_can_send_now` for queued replies. -/
def flushReply (adapter : TimerAdapter) (nowMs : UInt32) (accepted : Bool) : Handled :=
  let item := adapter.replyQueue.headItem
  let (sent, adapter, actions) := adapter.sendHidpInputReport item.hidCid item.report accepted
  let (result, queue) := adapter.replyQueue.sendNext sent
  let adapter := { adapter with replyQueue := queue }
  if result ≠ .ok then ⟨mapReplyQueueResult result, adapter, actions⟩
  else
    let held := adapter.holdoffPeriodicAfterReply (readingUs nowMs)
    if held.result ≠ .ok then { held with actions := actions ++ held.actions }
    else
      ⟨.ok, held.adapter, actions ++ held.actions ++
        if held.adapter.replyQueue.size > 0 ∨ held.adapter.canSendPending = true then
          [.requestCanSendNow held.adapter.hidCid] else []⟩

/-- The branch of `on_can_send_now` for a periodic report of the controller state `state`. -/
def flushPeriodic (adapter : TimerAdapter) (nowMs : UInt32) (state : State) (accepted : Bool) :
    Handled :=
  let nowUs := readingUs nowMs
  if nowUs < adapter.periodicHoldoffUntilUs then
    { adapter with canSendPending := false }.scheduleNextTimer nowUs
  else
    let (tickResult, scheduler, report) := adapter.scheduler.tick nowUs state accepted
    let actions := adapter.schedulerSends report accepted ++ notifyReportTick nowUs tickResult
    let result := mapSchedulerResult tickResult
    let adapter := { adapter with scheduler := scheduler, canSendPending := false }
    if result ≠ .ok then ⟨result, adapter, actions⟩
    else
      let scheduled := { adapter with periodicHoldoffUntilUs := 0 }.scheduleNextTimer nowUs
      { scheduled with actions := actions ++ scheduled.actions }

/-- `swbt_btstack_input_report_timer_adapter_on_can_send_now`. -/
def onCanSendNow (adapter : TimerAdapter) (nowMs : UInt32) (state : State) (accepted : Bool) :
    Handled :=
  if !adapter.running then ⟨.stopped, adapter, []⟩
  else if adapter.neutralSendPending then adapter.flushNeutral nowMs accepted
  else if adapter.replyQueue.size > 0 then adapter.flushReply nowMs accepted
  else if !adapter.canSendPending then ⟨.notDue, adapter, []⟩
  else adapter.flushPeriodic nowMs state accepted

/-- `swbt_btstack_input_report_timer_adapter_enqueue_subcommand_reply`. -/
def enqueueSubcommandReply (adapter : TimerAdapter) (hidCid : UInt16) (report : List UInt8) :
    Handled :=
  if !adapter.initialized then ⟨.invalidArgument, adapter, []⟩
  else if !adapter.running then ⟨.stopped, adapter, []⟩
  else
    let (result, queue) := adapter.replyQueue.enqueue hidCid report
    let adapter := { adapter with replyQueue := queue }
    if result ≠ .ok then ⟨mapReplyQueueResult result, adapter, []⟩
    else ⟨.ok, adapter, [.requestCanSendNow hidCid]⟩

/-- `swbt_btstack_input_report_timer_adapter_send_neutral_now`. -/
def sendNeutralNow (adapter : TimerAdapter) (accepted : Bool) : Handled :=
  if !adapter.running then ⟨.stopped, adapter, []⟩
  else
    let neutral := adapter.sendNeutralReport accepted
    if neutral.result ≠ .ok then
      ⟨.pending, { neutral.adapter with neutralSendPending := true },
        neutral.actions ++ [.requestCanSendNow neutral.adapter.hidCid]⟩
    else ⟨.ok, { neutral.adapter with neutralSendPending := false }, neutral.actions⟩

/-- `swbt_btstack_input_report_timer_adapter_stop`. -/
def stop (adapter : TimerAdapter) : TimerAdapter × List Action :=
  let (adapter, removed) := cancelPendingTimer adapter
  ({ adapter with
      canSendPending := false
      neutralSendPending := false
      periodicHoldoffUntilUs := 0
      running := false
      replyQueue := ReplyQueue.init
      scheduler := adapter.scheduler.stop }, removed)

/-- The message `message` carries a `0x30` report of the controller state `state`. -/
def Encodes (state : State) (message : List UInt8) : Prop :=
  ∃ options report, buildStandardFullReport state options standardFullReportSize = .ok report ∧
    message = hidpInputReportHeader :: report

/-- The report id of a message. -/
def messageId (message : List UInt8) : Option UInt8 := message.tail.head?

end TimerAdapter

end Swbt
