import SwbtDaemon.Bridge.Messages
import SwbtDaemon.Bridge.Proofs.TimerAdapterProofs

/-!
# Proofs: what the timer adapter gives to the HID sender

Each handler gives at most one message to the HID sender: a `0x30` report or the first reply of the
queue. `Emits` says what follows for the timer byte and the queue; the results on runs are instances
of the rules for traces.
-/

namespace Swbt

namespace TimerAdapter

open ReportLoop (Event handle)

variable {adapter : TimerAdapter}

/-! ## What a handler sends -/

/-- Where the message of a handler comes from. -/
inductive Sent where
  | nothing
  | report (hidCid : UInt16) (state : State) (accepted : Bool)
  | reply (item : ReplyItem) (accepted : Bool)

namespace Sent

/-- The message, as the adapter builds it. -/
def attempts (adapter : TimerAdapter) : Sent → List Attempt
  | nothing => []
  | report hidCid state accepted =>
    [⟨hidCid, hidpInputReportHeader :: fullReport state adapter.scheduler.currentOptions, accepted⟩]
  | reply item accepted => [⟨item.hidCid, adapter.hidpMessage item.report, accepted⟩]

/-- The timer byte afterwards. -/
def timer (adapter : TimerAdapter) : Sent → UInt8
  | nothing => adapter.scheduler.timer
  | report _ _ accepted =>
    if accepted then adapter.scheduler.timer + 1 else adapter.scheduler.timer
  | reply item accepted =>
    if accepted && usesSharedTimer item.report then adapter.scheduler.timer + 1
    else adapter.scheduler.timer

/-- The queued replies afterwards. -/
def replies (adapter : TimerAdapter) : Sent → List ReplyItem
  | reply _ true => adapter.replyQueue.toList.tail
  | _ => adapter.replyQueue.toList

end Sent

/-- What a handler does that sends `sent`. -/
structure Emits (adapter : TimerAdapter) (sent : Sent) (calls : TimerAdapter × List Action) :
    Prop where
  attempts : Action.attempts calls.2 = sent.attempts adapter
  timer : calls.1.scheduler.timer = sent.timer adapter
  replies : calls.1.replyQueue.toList = sent.replies adapter
  options : calls.1.scheduler.reportOptions = adapter.scheduler.reportOptions
  period : calls.1.scheduler.reportPeriodUs = adapter.scheduler.reportPeriodUs
  initialized : calls.1.initialized = adapter.initialized

theorem Emits.nothing (adapter : TimerAdapter) (result : Result) :
    Emits adapter .nothing (Handled.calls ⟨result, adapter, []⟩) :=
  ⟨rfl, rfl, rfl, rfl, rfl, rfl⟩

theorem attempts_append (actions actions' : List Action) :
    Action.attempts (actions ++ actions') = Action.attempts actions ++ Action.attempts actions' :=
  List.filterMap_append

/-! ## Neutral reports -/

theorem sendNeutralNow_emits (adapter : TimerAdapter) (accepted : Bool) :
    ∃ sent, Emits adapter sent (adapter.sendNeutralNow accepted).calls ∧
      ∀ item ok, sent ≠ .reply item ok := by
  unfold sendNeutralNow
  split
  · exact ⟨.nothing, .nothing adapter _, by simp⟩
  · refine ⟨.report adapter.hidCid State.neutral accepted, ?_, by simp⟩
    rw [sendNeutralReport_eq]
    cases accepted with
    | false => exact ⟨rfl, rfl, rfl, rfl, rfl, rfl⟩
    | true => exact ⟨rfl, rfl, rfl, rfl, rfl, rfl⟩

theorem flushNeutral_emits (adapter : TimerAdapter) (nowMs : UInt32) (accepted : Bool) :
    Emits adapter (.report adapter.hidCid State.neutral accepted)
      (adapter.flushNeutral nowMs accepted).calls := by
  unfold flushNeutral
  rw [sendNeutralReport_eq]
  cases accepted with
  | false => exact ⟨rfl, rfl, rfl, rfl, rfl, rfl⟩
  | true =>
    simp only [if_true, ne_eq, not_true_eq_false, if_false, cancelPendingTimer]
    split
    · exact ⟨rfl, rfl, rfl, rfl, rfl, rfl⟩
    · exact ⟨rfl, rfl, rfl, rfl, rfl, rfl⟩

/-! ## Replies -/

theorem flushReply_emits (hsize : 0 < adapter.replyQueue.size)
    (hvalid : ReplyQueue.ValidSize adapter.replyQueue.headItem.report) (nowMs : UInt32)
    (accepted : Bool) :
    Emits adapter (.reply adapter.replyQueue.headItem accepted)
      (adapter.flushReply nowMs accepted).calls := by
  have hsend : adapter.sendHidpInputReport adapter.replyQueue.headItem.hidCid
      adapter.replyQueue.headItem.report accepted =
      (accepted, { adapter with scheduler := { adapter.scheduler with
          timer := Sent.timer adapter (.reply adapter.replyQueue.headItem accepted) } },
        [.send adapter.replyQueue.headItem.hidCid
          (adapter.hidpMessage adapter.replyQueue.headItem.report) accepted]) :=
    sendHidpInputReport_eq adapter adapter.replyQueue.headItem.hidCid hvalid accepted
  unfold flushReply
  cases accepted with
  | false =>
    simp only [hsend, ReplyQueue.sendNext_of_failed hsize]
    exact ⟨rfl, rfl, rfl, rfl, rfl, rfl⟩
  | true =>
    obtain ⟨hok, htail⟩ := ReplyQueue.sendNext_of_sent hsize
    obtain ⟨timeoutMs, hheld⟩ := holdoffPeriodicAfterReply_eq
      { adapter with
        scheduler := { adapter.scheduler with
          timer := Sent.timer adapter (.reply adapter.replyQueue.headItem true) }
        replyQueue := (adapter.replyQueue.sendNext true).2 } (readingUs nowMs)
    simp only [hsend, hok, hheld, ne_eq, not_true_eq_false, if_false]
    have hremoved : Action.attempts (if adapter.timerPending then [.removeTimer] else []) = [] := by
      split <;> rfl
    have hrequest : ∀ (more : Prop) [Decidable more] (hidCid : UInt16),
        Action.attempts (if more then [Action.requestCanSendNow hidCid] else []) = [] := by
      intro more _ hidCid
      split <;> rfl
    refine ⟨?_, rfl, htail, rfl, rfl, rfl⟩
    dsimp only [Handled.calls]
    rw [attempts_append, attempts_append, attempts_append, hremoved, hrequest]
    rfl

/-! ## Periodic reports -/

/-- What the scheduler does when a periodic report is tried. -/
theorem tick_cases (scheduler : Scheduler) (nowUs : UInt64) (state : State) (accepted : Bool) :
    (∃ result, scheduler.tick nowUs state accepted = (result, scheduler, none)) ∨
    ∃ result scheduler', scheduler.tick nowUs state accepted =
        (result, scheduler', some (fullReport state scheduler.currentOptions)) ∧
      scheduler'.timer = (if accepted then scheduler.timer + 1 else scheduler.timer) ∧
      scheduler'.reportOptions = scheduler.reportOptions ∧
      scheduler'.reportPeriodUs = scheduler.reportPeriodUs := by
  unfold Scheduler.tick
  rw [buildStandardFullReport_eq]
  split
  · exact .inl ⟨_, rfl⟩
  · split
    · exact .inl ⟨_, rfl⟩
    · split
      · exact .inl ⟨_, rfl⟩
      · refine .inr ?_
        cases accepted with
        | false => exact ⟨_, _, rfl, rfl, rfl, rfl⟩
        | true => exact ⟨_, _, rfl, rfl, rfl, rfl⟩

theorem notifyReportTick_attempts (nowUs : UInt64) (tickResult : Scheduler.Result) :
    Action.attempts (notifyReportTick nowUs tickResult) = [] := by
  cases tickResult <;> rfl

theorem flushPeriodic_emits (adapter : TimerAdapter) (nowMs : UInt32) (state : State)
    (accepted : Bool) :
    ∃ sent, Emits adapter sent (adapter.flushPeriodic nowMs state accepted).calls ∧
      ∀ item ok, sent ≠ .reply item ok := by
  unfold flushPeriodic
  dsimp only
  split
  · exact ⟨.nothing, ⟨rfl, rfl, rfl, rfl, rfl, rfl⟩, by simp⟩
  · rcases tick_cases adapter.scheduler (readingUs nowMs) state accepted with
      ⟨result, htick⟩ | ⟨result, scheduler', htick, htimer, hoptions, hperiod⟩
    · rw [htick]
      refine ⟨.nothing, ?_, by simp⟩
      dsimp only [schedulerSends]
      split
      · exact ⟨notifyReportTick_attempts _ _, rfl, rfl, rfl, rfl, rfl⟩
      · refine ⟨?_, rfl, rfl, rfl, rfl, rfl⟩
        dsimp only [Handled.calls, scheduleNextTimer]
        rw [attempts_append, List.nil_append, notifyReportTick_attempts]
        rfl
    · rw [htick]
      refine ⟨.report adapter.scheduler.hidCid state accepted, ?_, by simp⟩
      dsimp only [schedulerSends]
      rw [sendHidpInputReport_full]
      split
      · refine ⟨?_, htimer, rfl, hoptions, hperiod, rfl⟩
        dsimp only [Handled.calls]
        rw [attempts_append, notifyReportTick_attempts]
        rfl
      · refine ⟨?_, htimer, rfl, hoptions, hperiod, rfl⟩
        dsimp only [Handled.calls, scheduleNextTimer]
        rw [attempts_append, attempts_append, notifyReportTick_attempts]
        rfl

/-! ## Any event -/

/-- An adapter that can be started, whose queue holds replies with the property `P`. -/
structure Sound (P : List UInt8 → Prop) (adapter : TimerAdapter) : Prop where
  initialized : adapter.initialized = true
  valid : adapter.scheduler.isValid = true
  replies : ∀ item ∈ adapter.replyQueue.toList, ReplyQueue.ValidSize item.report ∧ P item.report

variable {P : List UInt8 → Prop}

theorem init_sound {reportPeriodUs : UInt32} {reportOptions : ReportOptions}
    (h : TimerAdapter.init reportPeriodUs reportOptions = .ok adapter) : Sound P adapter := by
  obtain ⟨rfl, hvalid⟩ := init_ok h
  exact ⟨rfl, hvalid, by simp [ReplyQueue.toList_init]⟩

theorem Sound.headItem (h : Sound P adapter) (hsize : 0 < adapter.replyQueue.size) :
    ReplyQueue.ValidSize adapter.replyQueue.headItem.report ∧
      P adapter.replyQueue.headItem.report := by
  apply h.replies
  rw [ReplyQueue.toList_eq_cons hsize]
  exact List.mem_cons_self

/-- The reply that leaves the queue. -/
def Sent.front : Sent → List ReplyItem
  | .reply item true => [item]
  | _ => []

/-- Everything about an event that the HID sender can see, with the message that it sends. -/
structure Handles (adapter : TimerAdapter) (event : Event) (sent : Sent) : Prop where
  attempts : adapter.attempts event = sent.attempts adapter
  timer : (∀ hidCid timeMs, event ≠ .start hidCid timeMs) →
    (adapter.after event).scheduler.timer = sent.timer adapter
  replies : event ≠ .stop → adapter.replyQueue.toList ++ adapter.enqueuedReplies event =
    sent.front ++ (adapter.after event).replyQueue.toList
  stopped : event = .stop → (adapter.after event).replyQueue.toList = []
  /-- A reply comes from the head of the queue, in the branch of the replies. -/
  source : (adapter.flushesReply event = true ∧ 0 < adapter.replyQueue.size ∧
      ∃ accepted, sent = .reply adapter.replyQueue.headItem accepted) ∨
    (adapter.flushesReply event = false ∧ ∀ item accepted, sent ≠ .reply item accepted)
  options : (adapter.after event).scheduler.reportOptions = adapter.scheduler.reportOptions
  period : (adapter.after event).scheduler.reportPeriodUs = adapter.scheduler.reportPeriodUs
  initialized : (adapter.after event).initialized = adapter.initialized

/-- A handler that queues nothing. -/
theorem Emits.handles {sent : Sent} {event : Event} (h : Emits adapter sent (handle adapter event))
    (hstop : event ≠ .stop) (henqueued : adapter.enqueuedReplies event = [])
    (hsource : (adapter.flushesReply event = true ∧ 0 < adapter.replyQueue.size ∧
        ∃ accepted, sent = .reply adapter.replyQueue.headItem accepted) ∨
      (adapter.flushesReply event = false ∧ ∀ item accepted, sent ≠ .reply item accepted)) :
    Handles adapter event sent := by
  refine ⟨h.attempts, fun _ => h.timer, fun _ => ?_, fun heq => absurd heq hstop, hsource,
    h.options, h.period, h.initialized⟩
  have hreplies : (adapter.after event).replyQueue.toList = sent.replies adapter := h.replies
  rw [henqueued, List.append_nil, hreplies]
  rcases hsource with ⟨-, hsize, accepted, rfl⟩ | ⟨-, hnone⟩
  · cases accepted with
    | false => rfl
    | true => exact ReplyQueue.toList_eq_cons hsize
  · cases sent with
    | nothing => rfl
    | report hidCid state accepted => rfl
    | reply item accepted => exact absurd rfl (hnone item accepted)

theorem canSendNow_handles (h : Sound P adapter) (timeMs : Nat) (state : State)
    (accepted : Bool) : ∃ sent, Handles adapter (.canSendNow timeMs state accepted) sent := by
  have hflushes : adapter.flushesReply (.canSendNow timeMs state accepted) =
      (adapter.running && !adapter.neutralSendPending &&
        decide (adapter.replyQueue.size > 0)) := rfl
  suffices hemits : ∃ sent, Emits adapter sent
      (adapter.onCanSendNow (ReportLoop.clockMs timeMs) state accepted).calls ∧
      ((adapter.flushesReply (.canSendNow timeMs state accepted) = true ∧
          0 < adapter.replyQueue.size ∧
          ∃ accepted, sent = .reply adapter.replyQueue.headItem accepted) ∨
        (adapter.flushesReply (.canSendNow timeMs state accepted) = false ∧
          ∀ item accepted, sent ≠ .reply item accepted)) by
    obtain ⟨sent, hsent, hsource⟩ := hemits
    exact ⟨sent, Emits.handles hsent (by simp) rfl hsource⟩
  rw [hflushes]
  unfold onCanSendNow
  split_ifs with hstopped hneutral hsize hcan
  · exact ⟨.nothing, .nothing adapter _, .inr ⟨by simp_all, by simp⟩⟩
  · exact ⟨_, flushNeutral_emits adapter _ accepted, .inr ⟨by simp [hneutral], by simp⟩⟩
  · refine ⟨_, flushReply_emits hsize (h.headItem hsize).1 _ accepted,
      .inl ⟨?_, hsize, accepted, rfl⟩⟩
    simp_all
  · exact ⟨.nothing, .nothing adapter _, .inr ⟨by simp [hsize], by simp⟩⟩
  · obtain ⟨sent, hsent, hnone⟩ := flushPeriodic_emits adapter (ReportLoop.clockMs timeMs) state
      accepted
    exact ⟨sent, hsent, .inr ⟨by simp [hsize], hnone⟩⟩

/-- A start makes the timer byte that of the configured options, and sends nothing. -/
theorem start_calls (h : Sound P adapter) (hidCid : UInt16) (nowUs : UInt64) :
    ∃ scheduler actions,
      scheduler.timer = adapter.scheduler.reportOptions.timer ∧
      scheduler.reportOptions = adapter.scheduler.reportOptions ∧
      scheduler.reportPeriodUs = adapter.scheduler.reportPeriodUs ∧
      Action.attempts actions = [] ∧
      (adapter.start hidCid nowUs).calls =
        ({ adapter with
            scheduler := scheduler
            hidCid := hidCid
            running := true
            timerPending := true
            canSendPending := false
            periodicHoldoffUntilUs := 0
            neutralSendPending := false }, actions) := by
  unfold start Scheduler.start
  rw [if_neg (by simp [h.initialized]), if_neg (by simp [h.valid])]
  exact ⟨{ adapter.scheduler with
    hidCid := hidCid
    running := true
    nextDeadlineUs := nowUs + adapter.scheduler.reportPeriodUs.toUInt64
    timer := adapter.scheduler.reportOptions.timer }, _, rfl, rfl, rfl, rfl, rfl⟩

theorem start_handles (h : Sound P adapter) (hidCid : UInt16) (timeMs : Nat) :
    Handles adapter (.start hidCid timeMs) .nothing := by
  obtain ⟨scheduler, actions, -, hoptions, hperiod, hactions, hcalls⟩ :=
    start_calls h hidCid (readingUs (ReportLoop.clockMs timeMs))
  have hafter : handle adapter (.start hidCid timeMs) = _ := hcalls
  refine ⟨?_, fun hne => absurd rfl (hne hidCid timeMs), fun _ => ?_, by simp,
    .inr ⟨rfl, by simp⟩, ?_, ?_, ?_⟩
  · rw [TimerAdapter.attempts, hafter]
    exact hactions
  · rw [TimerAdapter.after, hafter]
    exact List.append_nil _
  · rw [TimerAdapter.after, hafter]
    exact hoptions
  · rw [TimerAdapter.after, hafter]
    exact hperiod
  · rw [TimerAdapter.after, hafter]

theorem onTimer_emits (adapter : TimerAdapter) (nowMs : UInt32) :
    Emits adapter .nothing (adapter.onTimer nowMs).calls := by
  unfold onTimer
  split
  · exact .nothing adapter _
  · dsimp only
    split
    · exact ⟨rfl, rfl, rfl, rfl, rfl, rfl⟩
    · exact ⟨rfl, rfl, rfl, rfl, rfl, rfl⟩

/-- An enqueue appends the reply and asks to send, or fails and changes nothing. -/
theorem enqueueSubcommandReply_cases (adapter : TimerAdapter) (hidCid : UInt16)
    (report : List UInt8) :
    (∃ queue, ReplyQueue.ValidSize report ∧
        queue.toList = adapter.replyQueue.toList ++ [⟨hidCid, report⟩] ∧
        adapter.enqueueSubcommandReply hidCid report =
          ⟨.ok, { adapter with replyQueue := queue }, [.requestCanSendNow hidCid]⟩) ∨
      ∃ result, result ≠ .ok ∧
        adapter.enqueueSubcommandReply hidCid report = ⟨result, adapter, []⟩ := by
  have hmap : ∀ result, result ≠ .ok → mapReplyQueueResult result ≠ .ok := by
    intro result hresult
    cases result <;> simp_all [mapReplyQueueResult]
  unfold enqueueSubcommandReply
  split
  · exact .inr ⟨_, by simp, rfl⟩
  · split
    · exact .inr ⟨_, by simp, rfl⟩
    · rcases ReplyQueue.enqueue_cases adapter.replyQueue hidCid report with
        ⟨hvalid, -, hok, hlist⟩ | ⟨herr, hsame⟩
      · refine .inl ⟨_, hvalid, hlist, ?_⟩
        dsimp only
        rw [if_neg (by simp [hok])]
      · refine .inr ⟨_, hmap _ herr, ?_⟩
        dsimp only
        rw [if_pos herr, hsame]

theorem enqueueSubcommandReply_handles (adapter : TimerAdapter) (hidCid : UInt16)
    (report : List UInt8) :
    Handles adapter (.enqueueSubcommandReply hidCid report) .nothing := by
  have hafter : handle adapter (.enqueueSubcommandReply hidCid report) =
      (adapter.enqueueSubcommandReply hidCid report).calls := rfl
  rcases enqueueSubcommandReply_cases adapter hidCid report with
    ⟨queue, -, hlist, hcalls⟩ | ⟨result, hresult, hcalls⟩
  · rw [hcalls] at hafter
    have henqueued : adapter.enqueuedReplies (.enqueueSubcommandReply hidCid report) =
        [⟨hidCid, report⟩] := by
      rw [enqueuedReplies, hcalls, if_pos rfl]
    refine ⟨?_, fun _ => ?_, fun _ => ?_, by simp, .inr ⟨rfl, by simp⟩, ?_, ?_, ?_⟩
    · rw [TimerAdapter.attempts, hafter]
      rfl
    · rw [TimerAdapter.after, hafter]
      rfl
    · rw [henqueued, TimerAdapter.after, hafter]
      exact hlist.symm
    all_goals
      rw [TimerAdapter.after, hafter]
      rfl
  · rw [hcalls] at hafter
    have henqueued : adapter.enqueuedReplies (.enqueueSubcommandReply hidCid report) = [] := by
      rw [enqueuedReplies, hcalls, if_neg hresult]
    have hemits : Emits adapter .nothing
        (handle adapter (.enqueueSubcommandReply hidCid report)) := by
      rw [hafter]
      exact .nothing adapter _
    exact hemits.handles (by simp) henqueued (.inr ⟨rfl, by simp⟩)

theorem stop_handles (adapter : TimerAdapter) : Handles adapter .stop .nothing := by
  have hafter : handle adapter .stop = _ := stop_eq adapter
  refine ⟨?_, fun _ => ?_, fun hne => absurd rfl hne, fun _ => ?_, .inr ⟨rfl, by simp⟩, ?_, ?_, ?_⟩
  · rw [TimerAdapter.attempts, hafter]
    split <;> rfl
  all_goals
    rw [TimerAdapter.after, hafter]
    try rfl

/-- **What an event sends.** -/
theorem handles (h : Sound P adapter) (event : Event) : ∃ sent, Handles adapter event sent := by
  cases event with
  | start hidCid timeMs => exact ⟨_, start_handles h hidCid timeMs⟩
  | timer timeMs =>
    exact ⟨_, Emits.handles (onTimer_emits adapter _) (by simp) rfl (.inr ⟨rfl, by simp⟩)⟩
  | canSendNow timeMs state accepted => exact canSendNow_handles h timeMs state accepted
  | enqueueSubcommandReply hidCid report =>
    exact ⟨_, enqueueSubcommandReply_handles adapter hidCid report⟩
  | sendNeutralNow accepted =>
    obtain ⟨sent, hsent, hnone⟩ := sendNeutralNow_emits adapter accepted
    exact ⟨sent, Emits.handles hsent (by simp) rfl (.inr ⟨rfl, hnone⟩)⟩
  | stop => exact ⟨_, stop_handles adapter⟩

theorem mem_enqueuedReplies {event : Event} {item : ReplyItem}
    (h : item ∈ adapter.enqueuedReplies event) :
    event = .enqueueSubcommandReply item.hidCid item.report ∧
      ReplyQueue.ValidSize item.report := by
  cases event with
  | enqueueSubcommandReply hidCid report =>
    rw [enqueuedReplies] at h
    rcases enqueueSubcommandReply_cases adapter hidCid report with
      ⟨queue, hvalid, -, hcalls⟩ | ⟨result, hresult, hcalls⟩
    · rw [hcalls, if_pos rfl] at h
      obtain rfl := List.mem_singleton.1 h
      exact ⟨rfl, hvalid⟩
    · rw [hcalls, if_neg hresult] at h
      exact absurd h List.not_mem_nil
  | _ => exact absurd h List.not_mem_nil

/-- **Step lemma**: an event whose reply has the property keeps the adapter sound. -/
theorem Sound.after (h : Sound P adapter) (event : Event)
    (hP : ∀ hidCid report, event = .enqueueSubcommandReply hidCid report → P report) :
    Sound P (adapter.after event) := by
  obtain ⟨sent, hsent⟩ := handles h event
  refine ⟨hsent.initialized.trans h.initialized, ?_, ?_⟩
  · simpa only [Scheduler.isValid, hsent.period] using h.valid
  · intro item hitem
    by_cases hstop : event = .stop
    · rw [hsent.stopped hstop] at hitem
      exact absurd hitem List.not_mem_nil
    · have hmem : item ∈ adapter.replyQueue.toList ++ adapter.enqueuedReplies event := by
        rw [hsent.replies hstop]
        exact List.mem_append_right _ hitem
      rcases List.mem_append.1 hmem with hold | hnew
      · exact h.replies item hold
      · obtain ⟨hevent, hvalid⟩ := mem_enqueuedReplies hnew
        exact ⟨hvalid, hP _ _ hevent⟩

/-! ## The timer byte -/

/-- The timer byte of a message. -/
def timerByte (message : List UInt8) : Option Nat := message[2]?.map UInt8.toNat

theorem iterate_add_one (t : UInt8) (i : Nat) : ((· + 1)^[i] t).toNat = (t.toNat + i) % 256 := by
  induction i with
  | zero => exact (Nat.mod_eq_of_lt t.toNat_lt).symm
  | succ i ih =>
    rw [Function.iterate_succ_apply', UInt8.toNat_add, ih]
    simp only [UInt8.toNat_one]
    omega

/-- A `0x21` reply is stamped with the timer byte of the scheduler when it is sent. -/
theorem IsReply.message {report : List UInt8} (h : IsReply report) (adapter : TimerAdapter) :
    (adapter.hidpMessage report)[2]? = some adapter.scheduler.timer ∧
      usesSharedTimer report = true := by
  obtain ⟨timer, rest, rfl⟩ := h
  exact ⟨rfl, rfl⟩

/-- The messages of an event are numbered by the timer byte of the scheduler. -/
theorem attempts_numbered (h : Sound IsReply adapter) {event : Event}
    (hstart : ∀ hidCid timeMs, event ≠ .start hidCid timeMs) :
    Runs.Numbered (· + 1) Attempt.accepted (fun attempt t => attempt.message[2]? = some t)
      adapter.scheduler.timer (adapter.attempts event) ∧
    (adapter.after event).scheduler.timer =
      (· + 1)^[(adapter.attempts event).countP Attempt.accepted] adapter.scheduler.timer := by
  obtain ⟨sent, hsent⟩ := handles h event
  rw [hsent.attempts, hsent.timer hstart]
  cases sent with
  | nothing => exact ⟨trivial, rfl⟩
  | report hidCid state accepted =>
    refine ⟨⟨rfl, trivial⟩, ?_⟩
    cases accepted with
    | false => rfl
    | true => rfl
  | reply item accepted =>
    have hitem : IsReply item.report := by
      rcases hsent.source with ⟨-, hsize, accepted', hreply⟩ | ⟨-, hnone⟩
      · obtain ⟨rfl, -⟩ := Sent.reply.inj hreply
        exact (h.headItem hsize).2
      · exact absurd rfl (hnone item accepted)
    obtain ⟨hmessage, hshared⟩ := hitem.message adapter
    refine ⟨⟨hmessage, trivial⟩, ?_⟩
    rw [Sent.timer, hshared, Bool.and_true]
    cases accepted with
    | false => rfl
    | true => rfl

end TimerAdapter

end Swbt
