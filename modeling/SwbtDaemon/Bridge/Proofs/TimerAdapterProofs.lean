import SwbtDaemon.Bridge.Proofs.ReplyQueueProofs
import SwbtDaemon.Bridge.ReportLoop

/-!
# Proofs: the handlers of the timer adapter

For each handler, the adapter it leaves and which of its calls matter to the run loop.
-/

namespace Swbt

/-- A call that neither the timer nor the can-send event depends on. -/
def Action.Quiet : Action → Prop
  | .send _ _ _ => True
  | .reportTick _ _ => True
  | .setTimer _ => True
  | _ => False

/-- It leaves the timer list alone. -/
theorem Action.Quiet.timers {action : Action} (h : action.Quiet) :
    action ≠ .addTimer ∧ action ≠ .removeTimer := by
  constructor
  · rintro rfl
    exact h
  · rintro rfl
    exact h

namespace TimerAdapter

variable {adapter : TimerAdapter}

/-- Two adapters that differ in the timer byte of the scheduler only. -/
def SameButTimer (adapter adapter' : TimerAdapter) : Prop :=
  ∃ timer, adapter' = { adapter with scheduler := { adapter.scheduler with timer := timer } }

/-- What a successful init leaves. -/
theorem init_ok {reportPeriodUs : UInt32} {reportOptions : ReportOptions}
    (h : TimerAdapter.init reportPeriodUs reportOptions = .ok adapter) :
    adapter = ⟨⟨reportPeriodUs, reportOptions, 0, false, 0, reportOptions.timer⟩,
      ReplyQueue.init, 0, true, false, false, false, false, 0⟩ ∧
      adapter.scheduler.isValid = true := by
  unfold TimerAdapter.init Scheduler.init at h
  by_cases hzero : reportPeriodUs = 0
  · simp [hzero] at h
  · rw [if_neg hzero] at h
    obtain rfl := Except.ok.inj h
    have hpos : 0 < reportPeriodUs := UInt32.pos_iff_ne_zero.2 hzero
    exact ⟨rfl, by simp [Scheduler.isValid, hpos]⟩

/-- A report of a valid size reaches the HID sender, whose answer is the result. The timer byte goes
on when a report that carries it is accepted. -/
theorem sendHidpInputReport_eq (adapter : TimerAdapter) (hidCid : UInt16) {report : List UInt8}
    (hvalid : ReplyQueue.ValidSize report) (accepted : Bool) :
    adapter.sendHidpInputReport hidCid report accepted =
      (accepted, { adapter with scheduler := { adapter.scheduler with
          timer := if accepted && usesSharedTimer report then adapter.scheduler.timer + 1
            else adapter.scheduler.timer } },
        [.send hidCid (adapter.hidpMessage report) accepted]) := by
  unfold sendHidpInputReport
  rw [if_neg hvalid]
  dsimp only
  by_cases hboth : (accepted && usesSharedTimer report) = true
  · rw [if_pos hboth, if_pos hboth, (Bool.and_eq_true_iff.1 hboth).1]
  · rw [if_neg hboth, if_neg hboth]

theorem sendHidpInputReport_of_valid (adapter : TimerAdapter) (hidCid : UInt16)
    {report : List UInt8} (hvalid : ReplyQueue.ValidSize report) (accepted : Bool) :
    ∃ adapter', SameButTimer adapter adapter' ∧
      adapter.sendHidpInputReport hidCid report accepted =
        (accepted, adapter', [.send hidCid (adapter.hidpMessage report) accepted]) :=
  ⟨_, ⟨_, rfl⟩, sendHidpInputReport_eq adapter hidCid hvalid accepted⟩

/-- The bytes of a `0x30` report. -/
def fullReport (state : State) (options : ReportOptions) : List UInt8 :=
  writeStandardPrefix inputReportStandardFull state options ++
    writeImuFrame state ++ writeImuFrame state ++ writeImuFrame state

theorem buildStandardFullReport_eq (state : State) (options : ReportOptions) :
    buildStandardFullReport state options standardFullReportSize = .ok (fullReport state options) :=
  rfl

theorem hidpMessage_id (adapter : TimerAdapter) (report : List UInt8) :
    messageId (adapter.hidpMessage report) = report.head? := by
  unfold hidpMessage
  split
  · split <;> rfl
  · rfl

/-- A built `0x30` report does not use the shared timer byte. -/
theorem hidpMessage_of_standardFull (adapter : TimerAdapter) {state : State}
    {options : ReportOptions} {report : List UInt8}
    (h : buildStandardFullReport state options standardFullReportSize = .ok report) :
    adapter.hidpMessage report = hidpInputReportHeader :: report := by
  obtain rfl := Except.ok.inj h
  rfl

theorem cancelPendingTimer_eq (adapter : TimerAdapter) :
    adapter.cancelPendingTimer = ({ adapter with timerPending := false },
      if adapter.timerPending then [.removeTimer] else []) := by
  unfold cancelPendingTimer
  by_cases htimer : adapter.timerPending = true
  · rw [if_pos htimer, if_pos htimer]
  · rw [if_neg htimer, if_neg htimer, ← Bool.eq_false_iff.2 htimer]

/-- After a reply the timer is taken out of the list when it is there, and put in again. -/
theorem holdoffPeriodicAfterReply_eq (adapter : TimerAdapter) (nowUs : UInt64) :
    ∃ timeoutMs, adapter.holdoffPeriodicAfterReply nowUs =
      ⟨.ok, { adapter with
          periodicHoldoffUntilUs := nowUs + replyPeriodicHoldoffUs
          canSendPending := false
          timerPending := true },
        (if adapter.timerPending then [.removeTimer] else []) ++
          [.setTimer timeoutMs, .addTimer]⟩ := by
  unfold holdoffPeriodicAfterReply
  rw [cancelPendingTimer_eq]
  exact ⟨_, rfl⟩

/-- A `0x30` report goes out as it is. -/
theorem sendHidpInputReport_full (adapter : TimerAdapter) (hidCid : UInt16) (state : State)
    (options : ReportOptions) (accepted : Bool) :
    adapter.sendHidpInputReport hidCid (fullReport state options) accepted =
      (accepted, adapter,
        [.send hidCid (hidpInputReportHeader :: fullReport state options) accepted]) := by
  cases accepted <;> rfl

theorem sendNeutralReport_eq (adapter : TimerAdapter) (accepted : Bool) :
    adapter.sendNeutralReport accepted =
      ⟨if accepted then .ok else .scheduler,
        { adapter with scheduler := { adapter.scheduler with
          timer := if accepted then adapter.scheduler.timer + 1 else adapter.scheduler.timer } },
        [.send adapter.hidCid (hidpInputReportHeader ::
          fullReport State.neutral adapter.scheduler.currentOptions) accepted]⟩ := by
  unfold sendNeutralReport
  rw [buildStandardFullReport_eq]
  dsimp only
  rw [sendHidpInputReport_full]
  cases accepted <;> rfl

theorem sendNeutralReport_spec (adapter : TimerAdapter) (accepted : Bool) :
    ∃ timer message, Encodes State.neutral message ∧
      adapter.sendNeutralReport accepted =
        ⟨if accepted then .ok else .scheduler,
          { adapter with scheduler := { adapter.scheduler with timer := timer } },
          [.send adapter.hidCid message accepted]⟩ :=
  ⟨_, _, ⟨_, _, buildStandardFullReport_eq _ adapter.scheduler.currentOptions, rfl⟩,
    sendNeutralReport_eq adapter accepted⟩

/-- A neutral report that is sent reschedules the timer; one that is refused asks again. -/
theorem flushNeutral_spec (adapter : TimerAdapter) (nowMs : UInt32) (accepted : Bool) :
    ∃ timer message, Encodes State.neutral message ∧
      ((adapter.flushNeutral nowMs accepted).calls =
        ({ adapter with scheduler := { adapter.scheduler with timer := timer } },
          [.send adapter.hidCid message accepted, .requestCanSendNow adapter.hidCid]) ∨
      ∃ removed timeoutMs, (∀ action ∈ removed, action = Action.removeTimer) ∧
        (adapter.flushNeutral nowMs accepted).calls =
        ({ adapter with
            scheduler := { adapter.scheduler with timer := timer }
            neutralSendPending := false
            canSendPending := false
            periodicHoldoffUntilUs := 0
            timerPending := true },
          [.send adapter.hidCid message accepted] ++ removed ++
            [.setTimer timeoutMs, .addTimer])) := by
  obtain ⟨timer, message, hencodes, hsend⟩ := sendNeutralReport_spec adapter accepted
  refine ⟨timer, message, hencodes, ?_⟩
  unfold flushNeutral
  rw [hsend]
  cases accepted with
  | false => exact Or.inl rfl
  | true =>
    refine Or.inr ?_
    simp only [if_true, ne_eq, not_true_eq_false, if_false, cancelPendingTimer]
    split
    · exact ⟨[.removeTimer], _, by simp, rfl⟩
    · exact ⟨[], _, by simp, rfl⟩

/-- A reply that the HID sender refuses stays queued, and nothing is asked for. -/
theorem flushReply_refused (hsize : 0 < adapter.replyQueue.size)
    (hvalid : ReplyQueue.ValidSize adapter.replyQueue.headItem.report) (nowMs : UInt32) :
    ∃ hidCid message, (adapter.flushReply nowMs false).calls =
      (adapter, [.send hidCid message false]) := by
  have hsend := sendHidpInputReport_eq adapter adapter.replyQueue.headItem.hidCid hvalid false
  unfold flushReply
  simp only [hsend, ReplyQueue.sendNext_of_failed hsize]
  exact ⟨_, _, rfl⟩

/-- A reply that is sent leaves the queue and reschedules the timer. -/
theorem flushReply_sent (hsize : 0 < adapter.replyQueue.size)
    (hvalid : ReplyQueue.ValidSize adapter.replyQueue.headItem.report) (nowMs : UInt32) :
    ∃ timer queue holdoff actions timeoutMs requests,
      queue.toList = adapter.replyQueue.toList.tail ∧
      (∀ action ∈ requests, ∃ hidCid, action = Action.requestCanSendNow hidCid) ∧
      (adapter.flushReply nowMs true).calls =
        ({ adapter with
            scheduler := { adapter.scheduler with timer := timer }
            replyQueue := queue
            periodicHoldoffUntilUs := holdoff
            canSendPending := false
            timerPending := true },
          actions ++ [.setTimer timeoutMs, .addTimer] ++ requests) := by
  obtain ⟨adapter', ⟨timer, rfl⟩, hsend⟩ := sendHidpInputReport_of_valid adapter
    adapter.replyQueue.headItem.hidCid hvalid true
  obtain ⟨hok, htail⟩ := ReplyQueue.sendNext_of_sent hsize
  unfold flushReply
  simp only [hsend, hok, ne_eq, not_true_eq_false, if_false, holdoffPeriodicAfterReply,
    cancelPendingTimer]
  have hrequests : ∀ (more : Prop) [Decidable more] (hidCid : UInt16),
      ∀ action ∈ (if more then [Action.requestCanSendNow hidCid] else []),
        ∃ hidCid, action = Action.requestCanSendNow hidCid := by
    intro more _ hidCid action haction
    split at haction
    · exact ⟨hidCid, List.mem_singleton.1 haction⟩
    · exact absurd haction List.not_mem_nil
  split
  · exact ⟨_, _, _, _ :: _ :: [], _, _, htail, hrequests _ _, rfl⟩
  · exact ⟨_, _, _, _ :: [], _, _, htail, hrequests _ _, rfl⟩

/-- In the hold-off after a reply the timer is rescheduled. -/
theorem flushPeriodic_held {nowMs : UInt32}
    (h : readingUs nowMs < adapter.periodicHoldoffUntilUs) (state : State) (accepted : Bool) :
    ∃ timeoutMs, (adapter.flushPeriodic nowMs state accepted).calls =
      ({ adapter with canSendPending := false, timerPending := true },
        [.setTimer timeoutMs, .addTimer]) := by
  unfold flushPeriodic
  simp only [h, if_true]
  exact ⟨_, rfl⟩

/-- A send in any case: at most one message, of the given report. -/
theorem sendHidpInputReport_cases (adapter : TimerAdapter) (hidCid : UInt16)
    (report : List UInt8) (accepted : Bool) :
    ∃ sent timer actions,
      (∀ action ∈ actions, action = Action.send hidCid (adapter.hidpMessage report) accepted) ∧
      adapter.sendHidpInputReport hidCid report accepted =
        (sent, { adapter with scheduler := { adapter.scheduler with timer := timer } },
          actions) := by
  unfold sendHidpInputReport
  split
  · exact ⟨false, adapter.scheduler.timer, [], by simp, rfl⟩
  · dsimp only
    split
    · exact ⟨true, adapter.scheduler.timer + 1, [_], by simp, rfl⟩
    · exact ⟨accepted, adapter.scheduler.timer, [_], by simp, rfl⟩

theorem sendHidpInputReport_quiet (adapter : TimerAdapter) (hidCid : UInt16)
    (report : List UInt8) (accepted : Bool) :
    ∀ action ∈ (adapter.sendHidpInputReport hidCid report accepted).2.2, action.Quiet := by
  obtain ⟨sent, timer, actions, hactions, hsend⟩ :=
    sendHidpInputReport_cases adapter hidCid report accepted
  intro action haction
  rw [hsend] at haction
  rw [hactions action haction]
  trivial

theorem schedulerSends_quiet (adapter : TimerAdapter) (report : Option (List UInt8))
    (accepted : Bool) : ∀ action ∈ adapter.schedulerSends report accepted, action.Quiet := by
  cases report with
  | none => simp [schedulerSends]
  | some report => exact sendHidpInputReport_quiet adapter _ report accepted

theorem notifyReportTick_quiet (nowUs : UInt64) (tickResult : Scheduler.Result) :
    ∀ action ∈ notifyReportTick nowUs tickResult, action.Quiet := by
  unfold notifyReportTick
  split <;> simp [Action.Quiet]

/-- The calls of a periodic report, before the timer is rescheduled. -/
theorem periodic_quiet (adapter : TimerAdapter) (report : Option (List UInt8)) (accepted : Bool)
    (nowUs : UInt64) (tickResult : Scheduler.Result) :
    ∀ action ∈ adapter.schedulerSends report accepted ++ notifyReportTick nowUs tickResult,
      action.Quiet := by
  intro action haction
  rcases List.mem_append.1 haction with hsend | hnotify
  · exact schedulerSends_quiet adapter report accepted action hsend
  · exact notifyReportTick_quiet _ _ action hnotify

/-- What the scheduler does when the periodic report is tried. -/
theorem tick_spec {scheduler : Scheduler} (hvalid : scheduler.isValid = true)
    (hrun : scheduler.running = true) (nowUs : UInt64) (state : State) (accepted : Bool) :
    ∃ result scheduler' report, scheduler.tick nowUs state accepted = (result, scheduler', report) ∧
      scheduler'.reportPeriodUs = scheduler.reportPeriodUs ∧
      scheduler'.running = scheduler.running ∧
      (result = .ok ↔ accepted = true ∧ scheduler.nextDeadlineUs ≤ nowUs) := by
  unfold Scheduler.tick
  rw [if_neg (by simp [hvalid]), if_neg (by simp [hrun])]
  by_cases hdue : nowUs < scheduler.nextDeadlineUs
  · rw [if_pos hdue]
    exact ⟨_, _, _, rfl, rfl, rfl, by simp [UInt64.not_le.2 hdue]⟩
  · rw [if_neg hdue, buildStandardFullReport_eq]
    have hdue : scheduler.nextDeadlineUs ≤ nowUs := UInt64.not_lt.1 hdue
    cases accepted with
    | false => exact ⟨_, _, _, rfl, rfl, rfl, by simp⟩
    | true => exact ⟨_, _, _, rfl, rfl, rfl, by simp [hdue]⟩

/-- Outside of the hold-off the timer is rescheduled when the report is due and sent, ... -/
theorem flushPeriodic_sent {nowMs : UInt32} (hvalid : adapter.scheduler.isValid = true)
    (hrun : adapter.scheduler.running = true)
    (hheld : adapter.periodicHoldoffUntilUs ≤ readingUs nowMs)
    (hdue : adapter.scheduler.nextDeadlineUs ≤ readingUs nowMs) (state : State) :
    ∃ scheduler actions timeoutMs,
      scheduler.reportPeriodUs = adapter.scheduler.reportPeriodUs ∧
      scheduler.running = adapter.scheduler.running ∧
      (adapter.flushPeriodic nowMs state true).calls =
        ({ adapter with
            scheduler := scheduler
            canSendPending := false
            periodicHoldoffUntilUs := 0
            timerPending := true }, actions ++ [.setTimer timeoutMs, .addTimer]) := by
  obtain ⟨result, scheduler, report, htick, hperiod, hsame, hok⟩ :=
    tick_spec hvalid hrun (readingUs nowMs) state true
  obtain rfl := hok.2 ⟨rfl, hdue⟩
  unfold flushPeriodic
  simp only [UInt64.not_lt.2 hheld, if_false, htick]
  exact ⟨scheduler, _, _, hperiod, hsame, rfl⟩

/-- ... and otherwise nothing is asked for. -/
theorem flushPeriodic_missed {nowMs : UInt32} (hvalid : adapter.scheduler.isValid = true)
    (hrun : adapter.scheduler.running = true)
    (hheld : adapter.periodicHoldoffUntilUs ≤ readingUs nowMs) (state : State) {accepted : Bool}
    (hmissed : ¬ (accepted = true ∧ adapter.scheduler.nextDeadlineUs ≤ readingUs nowMs)) :
    ∃ scheduler actions, (∀ action ∈ actions, action.Quiet) ∧
      (adapter.flushPeriodic nowMs state accepted).calls =
        ({ adapter with scheduler := scheduler, canSendPending := false }, actions) := by
  obtain ⟨result, scheduler, report, htick, -, -, hok⟩ :=
    tick_spec hvalid hrun (readingUs nowMs) state accepted
  have hfailed : mapSchedulerResult result ≠ .ok := by
    intro hmap
    apply hmissed
    apply hok.1
    cases result <;> simp_all [mapSchedulerResult]
  refine ⟨scheduler, adapter.schedulerSends report accepted ++
    notifyReportTick (readingUs nowMs) result, periodic_quiet adapter report accepted _ result, ?_⟩
  unfold flushPeriodic
  simp only [UInt64.not_lt.2 hheld, if_false, htick]
  rw [if_pos hfailed]
  rfl

/-- What a successful start does. -/
theorem start_of_valid (hinit : adapter.initialized = true)
    (hvalid : adapter.scheduler.isValid = true) (hidCid : UInt16) (nowUs : UInt64) :
    ∃ scheduler, scheduler.reportPeriodUs = adapter.scheduler.reportPeriodUs ∧
      scheduler.running = true ∧
      adapter.start hidCid nowUs =
        scheduleNextTimer
          { adapter with
            scheduler := scheduler
            hidCid := hidCid
            running := true
            timerPending := false
            canSendPending := false
            periodicHoldoffUntilUs := 0
            neutralSendPending := false } nowUs := by
  unfold start Scheduler.start
  rw [if_neg (by simp [hinit]), if_neg (by simp [hvalid])]
  exact ⟨{ adapter.scheduler with
    hidCid := hidCid
    running := true
    nextDeadlineUs := nowUs + adapter.scheduler.reportPeriodUs.toUInt64
    timer := adapter.scheduler.reportOptions.timer }, rfl, rfl, rfl⟩

/-- What a stop does. -/
theorem stop_eq (adapter : TimerAdapter) :
    adapter.stop =
      ({ adapter with
          timerPending := false
          canSendPending := false
          neutralSendPending := false
          periodicHoldoffUntilUs := 0
          running := false
          replyQueue := ReplyQueue.init
          scheduler := adapter.scheduler.stop },
        if adapter.timerPending then [.removeTimer] else []) := by
  unfold stop
  rw [cancelPendingTimer_eq]

/-- While the adapter does not run, only a start or a stop has an effect on it. -/
theorem handle_of_stopped (hrunning : adapter.running = false) {event : ReportLoop.Event}
    (hstart : ∀ hidCid timeMs, event ≠ .start hidCid timeMs) (hstop : event ≠ .stop) :
    ReportLoop.handle adapter event = (adapter, []) := by
  cases event with
  | start hidCid timeMs => exact absurd rfl (hstart hidCid timeMs)
  | stop => exact absurd rfl hstop
  | enqueueSubcommandReply hidCid report =>
    simp only [ReportLoop.handle, enqueueSubcommandReply, hrunning]
    split <;> rfl
  | _ =>
    simp only [ReportLoop.handle, onTimer, onCanSendNow, sendNeutralNow, hrunning]
    rfl

/-! ## What the messages carry -/

/-- A handler that sends: it neither starts nor stops the adapter, queues no reply, and its messages
are `0x30` reports of the neutral state or of `state`, or queued replies. -/
structure Sends (adapter : TimerAdapter) (state : State) (calls : TimerAdapter × List Action) :
    Prop where
  running : calls.1.running = adapter.running
  replies : ∀ item ∈ calls.1.replyQueue.toList, item ∈ adapter.replyQueue.toList
  messages : ∀ message ∈ Action.messages calls.2,
    Encodes State.neutral message ∨ Encodes state message ∨
      ∃ item ∈ adapter.replyQueue.toList, messageId message = item.report.head?

theorem messages_append (actions actions' : List Action) :
    Action.messages (actions ++ actions') = Action.messages actions ++ Action.messages actions' :=
  List.filterMap_append

/-- A handler whose only message is a neutral report. -/
theorem Sends.neutral {state : State} {calls : TimerAdapter × List Action} {message : List UInt8}
    (hrun : calls.1.running = adapter.running)
    (hqueue : calls.1.replyQueue = adapter.replyQueue) (hencodes : Encodes State.neutral message)
    (hmessages : Action.messages calls.2 ⊆ [message]) : Sends adapter state calls := by
  refine ⟨hrun, fun _ hitem => hqueue ▸ hitem, fun message' hmem => Or.inl ?_⟩
  rw [List.mem_singleton.1 (hmessages hmem)]
  exact hencodes

theorem sendNeutralNow_sends (adapter : TimerAdapter) (state : State) (accepted : Bool) :
    Sends adapter state (adapter.sendNeutralNow accepted).calls := by
  obtain ⟨timer, message, hencodes, hsend⟩ := sendNeutralReport_spec adapter accepted
  unfold sendNeutralNow
  split
  · exact .neutral rfl rfl hencodes (List.nil_subset _)
  · rw [hsend]
    cases accepted with
    | false => exact .neutral rfl rfl hencodes (List.Subset.refl _)
    | true => exact .neutral rfl rfl hencodes (List.Subset.refl _)

theorem flushNeutral_sends (adapter : TimerAdapter) (nowMs : UInt32) (state : State)
    (accepted : Bool) : Sends adapter state (adapter.flushNeutral nowMs accepted).calls := by
  obtain ⟨timer, message, hencodes, hcalls | ⟨removed, timeoutMs, hremoved, hcalls⟩⟩ :=
    flushNeutral_spec adapter nowMs accepted
  · rw [hcalls]
    exact .neutral rfl rfl hencodes (List.Subset.refl _)
  · rw [hcalls]
    have hnone : Action.messages removed = [] := by
      apply List.filterMap_eq_nil_iff.2
      intro action haction
      rw [hremoved action haction]
    refine .neutral rfl rfl hencodes ?_
    rw [messages_append, messages_append, hnone]
    exact List.Subset.refl _

/-- After a try to send the head of the queue, the queue has only what it had. -/
theorem sendNext_subset {queue : ReplyQueue} (hsize : 0 < queue.size) (sent : Bool) :
    ∀ item ∈ (queue.sendNext sent).2.toList, item ∈ queue.toList := by
  intro item hitem
  cases sent with
  | false =>
    rw [ReplyQueue.sendNext_of_failed hsize] at hitem
    exact hitem
  | true =>
    rw [(ReplyQueue.sendNext_of_sent hsize).2] at hitem
    exact List.mem_of_mem_tail hitem

theorem flushReply_sends (hsize : 0 < adapter.replyQueue.size) (nowMs : UInt32) (state : State)
    (accepted : Bool) : Sends adapter state (adapter.flushReply nowMs accepted).calls := by
  obtain ⟨sent, timer, actions, hactions, hsend⟩ := sendHidpInputReport_cases adapter
    adapter.replyQueue.headItem.hidCid adapter.replyQueue.headItem.report accepted
  have hsubset := sendNext_subset hsize sent
  have hmessages : ∀ message ∈ Action.messages actions,
      ∃ item ∈ adapter.replyQueue.toList, messageId message = item.report.head? := by
    intro message hmem
    obtain ⟨action, haction, hmessage⟩ := List.mem_filterMap.1 hmem
    rw [hactions action haction] at hmessage
    obtain rfl := Option.some.inj hmessage
    refine ⟨adapter.replyQueue.headItem, ?_, hidpMessage_id _ _⟩
    rw [ReplyQueue.toList_eq_cons hsize]
    exact List.mem_cons_self
  have hremoved : Action.messages (if adapter.timerPending then [.removeTimer] else []) = [] := by
    split <;> rfl
  have hrequest : ∀ (more : Prop) [Decidable more] (hidCid : UInt16),
      Action.messages (if more then [Action.requestCanSendNow hidCid] else []) = [] := by
    intro more _ hidCid
    split <;> rfl
  obtain ⟨timeoutMs, hheld⟩ := holdoffPeriodicAfterReply_eq
    { adapter with
      scheduler := { adapter.scheduler with timer := timer }
      replyQueue := (adapter.replyQueue.sendNext sent).2 } (readingUs nowMs)
  have hrescheduled : Action.messages [.setTimer timeoutMs, .addTimer] = [] := rfl
  unfold flushReply
  simp only [hsend, hheld, ne_eq, not_true_eq_false, if_false]
  split
  · exact ⟨rfl, hsubset, fun message hmem => Or.inr (Or.inr (hmessages message hmem))⟩
  · refine ⟨rfl, hsubset, fun message hmem => Or.inr (Or.inr (hmessages message ?_))⟩
    dsimp only [Handled.calls] at hmem
    rw [messages_append, messages_append, messages_append, hremoved, hrescheduled, hrequest] at hmem
    simpa only [List.append_nil] using hmem

/-- The scheduler gives its callback the report of the state it was given. -/
theorem tick_report {scheduler : Scheduler} {nowUs : UInt64} {state : State} {accepted : Bool}
    {report : List UInt8} (h : (scheduler.tick nowUs state accepted).2.2 = some report) :
    buildStandardFullReport state scheduler.currentOptions standardFullReportSize = .ok report := by
  unfold Scheduler.tick at h
  rw [buildStandardFullReport_eq] at h ⊢
  split_ifs at h
  · obtain rfl := Option.some.inj h
    rfl
  · obtain rfl := Option.some.inj h
    rfl

theorem schedulerSends_encodes {nowUs : UInt64} {state : State} {accepted : Bool}
    {report : Option (List UInt8)}
    (h : (adapter.scheduler.tick nowUs state accepted).2.2 = report) :
    ∀ message ∈ Action.messages (adapter.schedulerSends report accepted),
      Encodes state message := by
  intro message hmem
  cases report with
  | none => exact absurd hmem List.not_mem_nil
  | some report =>
    have hbuild := tick_report h
    obtain ⟨sent, timer, actions, hactions, hsend⟩ :=
      sendHidpInputReport_cases adapter adapter.scheduler.hidCid report accepted
    obtain ⟨action, haction, hmessage⟩ := List.mem_filterMap.1 hmem
    rw [schedulerSends, hsend] at haction
    rw [hactions action haction] at hmessage
    obtain rfl := Option.some.inj hmessage
    exact ⟨_, report, hbuild, hidpMessage_of_standardFull adapter hbuild⟩

theorem notifyReportTick_messages (nowUs : UInt64) (tickResult : Scheduler.Result) :
    Action.messages (notifyReportTick nowUs tickResult) = [] := by
  cases tickResult <;> rfl

theorem scheduleNextTimer_messages (adapter : TimerAdapter) (nowUs : UInt64) :
    Action.messages (adapter.scheduleNextTimer nowUs).actions = [] := rfl

theorem flushPeriodic_sends (adapter : TimerAdapter) (nowMs : UInt32) (state : State)
    (accepted : Bool) : Sends adapter state (adapter.flushPeriodic nowMs state accepted).calls := by
  have hsends : ∀ message ∈ Action.messages (adapter.schedulerSends
      (adapter.scheduler.tick (readingUs nowMs) state accepted).2.2 accepted),
      Encodes state message := schedulerSends_encodes rfl
  unfold flushPeriodic
  dsimp only
  split_ifs
  · exact ⟨rfl, fun _ hitem => hitem, fun _ hmem => absurd hmem List.not_mem_nil⟩
  · refine ⟨rfl, fun _ hitem => hitem, fun message hmem => Or.inr (Or.inl (hsends message ?_))⟩
    simpa [Handled.calls, messages_append, notifyReportTick_messages] using hmem
  · refine ⟨rfl, fun _ hitem => hitem, fun message hmem => Or.inr (Or.inl (hsends message ?_))⟩
    simpa [Handled.calls, messages_append, notifyReportTick_messages, scheduleNextTimer_messages]
      using hmem

/-- **What a can-send event sends.** -/
theorem onCanSendNow_sends (adapter : TimerAdapter) (nowMs : UInt32) (state : State)
    (accepted : Bool) : Sends adapter state (adapter.onCanSendNow nowMs state accepted).calls := by
  have hsilent : ∀ result, Sends adapter state (Handled.calls ⟨result, adapter, []⟩) :=
    fun _ => ⟨rfl, fun _ hitem => hitem, fun _ hmem => absurd hmem List.not_mem_nil⟩
  unfold onCanSendNow
  split_ifs with hstopped hneutral hsize hcan
  · exact hsilent _
  · exact flushNeutral_sends adapter nowMs state accepted
  · exact flushReply_sends hsize nowMs state accepted
  · exact hsilent _
  · exact flushPeriodic_sends adapter nowMs state accepted

end TimerAdapter

end Swbt
