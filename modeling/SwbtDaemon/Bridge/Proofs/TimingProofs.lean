import SwbtDaemon.Bridge.Proofs.MessageProofs
import SwbtDaemon.Bridge.Timing

/-!
# Proofs: what the handlers do to the times

Each handler leaves the deadline, the hold-off and the timer alone, or arms the timer for the later
of the two from its own clock reading.
-/

namespace Swbt

namespace TimerAdapter

open ReportLoop (Event handle clockMs)

variable {adapter : TimerAdapter}

/-- The calls of `schedule_next_timer`. -/
def arms (adapter : TimerAdapter) (nowUs : UInt64) : List Action :=
  (adapter.scheduleNextTimer nowUs).actions

/-- A call that does not arm the timer. -/
def NoArm (action : Action) : Prop :=
  (∀ timeoutMs, action ≠ .setTimer timeoutMs) ∧ action ≠ .addTimer

theorem periodic_noArm (adapter : TimerAdapter) (report : Option (List UInt8)) (accepted : Bool)
    (nowUs : UInt64) (tickResult : Scheduler.Result) :
    ∀ action ∈ adapter.schedulerSends report accepted ++ notifyReportTick nowUs tickResult,
      NoArm action := by
  intro action haction
  rcases List.mem_append.1 haction with hsend | hnotify
  · cases report with
    | none => exact absurd hsend List.not_mem_nil
    | some report =>
      obtain ⟨sent, timer, actions, hactions, hcalls⟩ :=
        sendHidpInputReport_cases adapter adapter.scheduler.hidCid report accepted
      rw [schedulerSends, hcalls] at hsend
      rw [hactions action hsend]
      simp [NoArm]
  · revert hnotify
    cases tickResult <;> simp +contextual [notifyReportTick, NoArm]

/-! ## Can-send events -/

/-- A pending neutral report that is refused leaves the adapter as it is. -/
theorem flushNeutral_refused (adapter : TimerAdapter) (nowMs : UInt32) :
    ∃ message, (adapter.flushNeutral nowMs false).calls = (adapter,
      [.send adapter.hidCid message false, .requestCanSendNow adapter.hidCid]) := by
  unfold flushNeutral
  rw [sendNeutralReport_eq]
  exact ⟨_, rfl⟩

/-- A pending neutral report that is accepted ends the hold-off and arms the timer. -/
theorem flushNeutral_accepted (adapter : TimerAdapter) (nowMs : UInt32) :
    ∃ message timer after, after = { adapter with
        scheduler := { adapter.scheduler with timer := timer }
        neutralSendPending := false
        canSendPending := false
        periodicHoldoffUntilUs := 0
        timerPending := true } ∧
      (adapter.flushNeutral nowMs true).calls = (after, [.send adapter.hidCid message true] ++
        (if adapter.timerPending then [.removeTimer] else []) ++
          after.arms (readingUs nowMs)) := by
  unfold flushNeutral
  rw [sendNeutralReport_eq]
  simp only [if_true, ne_eq, not_true_eq_false, if_false, cancelPendingTimer_eq]
  exact ⟨_, _, _, rfl, rfl⟩

/-- The adapter in the hold-off after a reply at `nowUs`. -/
def heldOff (adapter : TimerAdapter) (nowUs : UInt64) : TimerAdapter :=
  { adapter with
    periodicHoldoffUntilUs := nowUs + replyPeriodicHoldoffUs
    canSendPending := false
    timerPending := true }

theorem holdoffPeriodicAfterReply_arms (adapter : TimerAdapter) (nowUs : UInt64) :
    adapter.holdoffPeriodicAfterReply nowUs = ⟨.ok, adapter.heldOff nowUs,
      (if adapter.timerPending then [.removeTimer] else []) ++
        (adapter.heldOff nowUs).arms nowUs⟩ := by
  unfold holdoffPeriodicAfterReply
  rw [cancelPendingTimer_eq]
  rfl

/-- A reply that is accepted starts the hold-off and arms the timer. -/
theorem flushReply_accepted (hsize : 0 < adapter.replyQueue.size)
    (hvalid : ReplyQueue.ValidSize adapter.replyQueue.headItem.report) (nowMs : UInt32) :
    ∃ message timer queue after requests,
      after = TimerAdapter.heldOff { adapter with
        scheduler := { adapter.scheduler with timer := timer }
        replyQueue := queue } (readingUs nowMs) ∧
      (∀ action ∈ requests, NoArm action) ∧
      (adapter.flushReply nowMs true).calls =
        (after, [.send adapter.replyQueue.headItem.hidCid message true] ++
          ((if adapter.timerPending then [.removeTimer] else []) ++
            after.arms (readingUs nowMs)) ++ requests) := by
  have hsend := sendHidpInputReport_eq adapter adapter.replyQueue.headItem.hidCid hvalid true
  obtain ⟨hok, -⟩ := ReplyQueue.sendNext_of_sent hsize
  have hrequests : ∀ (more : Prop) [Decidable more] (hidCid : UInt16),
      ∀ action ∈ (if more then [Action.requestCanSendNow hidCid] else []), NoArm action := by
    intro more _ hidCid
    split <;> simp [NoArm]
  unfold flushReply
  simp only [hsend, hok, holdoffPeriodicAfterReply_arms, ne_eq, not_true_eq_false, if_false]
  exact ⟨_, _, _, _, _, rfl, hrequests _ _, rfl⟩

/-- A reply that cannot be sent or is refused leaves the adapter as it is, and nothing is
accepted. -/
theorem flushReply_failed (hsize : 0 < adapter.replyQueue.size) {accepted : Bool}
    (h : accepted = false ∨ ¬ ReplyQueue.ValidSize adapter.replyQueue.headItem.report)
    (nowMs : UInt32) :
    ∃ actions, (∀ action ∈ actions, ∃ hidCid message, action = Action.send hidCid message false) ∧
      (adapter.flushReply nowMs accepted).calls = (adapter, actions) := by
  by_cases hvalid : ReplyQueue.ValidSize adapter.replyQueue.headItem.report
  · obtain rfl := h.resolve_right (not_not.2 hvalid)
    obtain ⟨hidCid, message, hcalls⟩ := flushReply_refused hsize hvalid nowMs
    exact ⟨_, by simp, hcalls⟩
  · have hsend : adapter.sendHidpInputReport adapter.replyQueue.headItem.hidCid
        adapter.replyQueue.headItem.report accepted = (false, adapter, []) := by
      rw [sendHidpInputReport, if_pos (not_not.1 hvalid)]
    unfold flushReply
    simp only [hsend, ReplyQueue.sendNext_of_failed hsize]
    exact ⟨[], by simp, rfl⟩

/-- In the hold-off the timer is armed again. -/
theorem flushPeriodic_early {nowMs : UInt32} (h : readingUs nowMs < adapter.periodicHoldoffUntilUs)
    (state : State) (accepted : Bool) :
    ∃ after, after = { adapter with canSendPending := false, timerPending := true } ∧
      (adapter.flushPeriodic nowMs state accepted).calls =
        (after, after.arms (readingUs nowMs)) := by
  unfold flushPeriodic
  simp only [h, if_true]
  exact ⟨_, rfl, rfl⟩

/-- Outside of it the scheduler ticks, and the timer is armed again when the report is sent. -/
theorem flushPeriodic_tick {nowMs : UInt32} (h : adapter.periodicHoldoffUntilUs ≤ readingUs nowMs)
    (state : State) (accepted : Bool) :
    ∃ actions, (∀ action ∈ actions, NoArm action) ∧
      let ticked := adapter.scheduler.tick (readingUs nowMs) state accepted
      (ticked.1 = .ok → ∃ after, after = { adapter with
            scheduler := ticked.2.1
            canSendPending := false
            periodicHoldoffUntilUs := 0
            timerPending := true } ∧
          (adapter.flushPeriodic nowMs state accepted).calls =
            (after, actions ++ after.arms (readingUs nowMs))) ∧
      (ticked.1 ≠ .ok → (adapter.flushPeriodic nowMs state accepted).calls =
        ({ adapter with scheduler := ticked.2.1, canSendPending := false }, actions)) := by
  have hmap : ∀ result : Scheduler.Result, mapSchedulerResult result ≠ .ok ↔ result ≠ .ok := by
    intro result
    cases result <;> simp [mapSchedulerResult]
  refine ⟨_, periodic_noArm adapter
    (adapter.scheduler.tick (readingUs nowMs) state accepted).2.2 accepted (readingUs nowMs)
    (adapter.scheduler.tick (readingUs nowMs) state accepted).1, ?_, ?_⟩
  · intro hok
    unfold flushPeriodic
    simp only [UInt64.not_lt.2 h, if_false, hmap, hok, ne_eq, not_true_eq_false]
    exact ⟨_, rfl, rfl⟩
  · intro hfailed
    unfold flushPeriodic
    simp only [UInt64.not_lt.2 h, if_false, hmap, hfailed, ne_eq, not_false_eq_true, if_true]
    rfl

/-! ## The branches of a can-send event -/

theorem onCanSendNow_of_pending (hrunning : adapter.running = true)
    (hpending : adapter.neutralSendPending = true) (nowMs : UInt32) (state : State)
    (accepted : Bool) :
    adapter.onCanSendNow nowMs state accepted = adapter.flushNeutral nowMs accepted := by
  rw [onCanSendNow, if_neg (by simp [hrunning]), if_pos hpending]

theorem onCanSendNow_of_replies (hrunning : adapter.running = true)
    (hpending : adapter.neutralSendPending = false) (hsize : 0 < adapter.replyQueue.size)
    (nowMs : UInt32) (state : State) (accepted : Bool) :
    adapter.onCanSendNow nowMs state accepted = adapter.flushReply nowMs accepted := by
  rw [onCanSendNow, if_neg (by simp [hrunning]), if_neg (by simp [hpending]), if_pos hsize]

theorem onCanSendNow_idle (hrunning : adapter.running = true)
    (hpending : adapter.neutralSendPending = false) (hsize : ¬ 0 < adapter.replyQueue.size)
    (hcanSend : adapter.canSendPending = false) (nowMs : UInt32) (state : State)
    (accepted : Bool) : adapter.onCanSendNow nowMs state accepted = ⟨.notDue, adapter, []⟩ := by
  rw [onCanSendNow, if_neg (by simp [hrunning]), if_neg (by simp [hpending]), if_neg hsize,
    if_pos (by simp [hcanSend])]

theorem onCanSendNow_of_periodic (hrunning : adapter.running = true)
    (hpending : adapter.neutralSendPending = false) (hsize : ¬ 0 < adapter.replyQueue.size)
    (hcanSend : adapter.canSendPending = true) (nowMs : UInt32) (state : State)
    (accepted : Bool) :
    adapter.onCanSendNow nowMs state accepted = adapter.flushPeriodic nowMs state accepted := by
  rw [onCanSendNow, if_neg (by simp [hrunning]), if_neg (by simp [hpending]), if_neg hsize,
    if_neg (by simp [hcanSend])]

/-- Where a can-send event goes, with the guards on the way. -/
inductive CanSendBranch (adapter : TimerAdapter) (nowMs : UInt32) (state : State)
    (accepted : Bool) : Prop
  | stopped (hrunning : adapter.running = false)
      (hcalls : (adapter.onCanSendNow nowMs state accepted).calls = (adapter, []))
  | neutral (hrunning : adapter.running = true) (hpending : adapter.neutralSendPending = true)
      (hflush : adapter.onCanSendNow nowMs state accepted = adapter.flushNeutral nowMs accepted)
  | reply (hrunning : adapter.running = true) (hpending : adapter.neutralSendPending = false)
      (hsize : 0 < adapter.replyQueue.size)
      (hflush : adapter.onCanSendNow nowMs state accepted = adapter.flushReply nowMs accepted)
  | idle (hrunning : adapter.running = true) (hpending : adapter.neutralSendPending = false)
      (hsize : ¬ 0 < adapter.replyQueue.size) (hcanSend : adapter.canSendPending = false)
      (hcalls : (adapter.onCanSendNow nowMs state accepted).calls = (adapter, []))
  | periodic (hrunning : adapter.running = true) (hpending : adapter.neutralSendPending = false)
      (hsize : ¬ 0 < adapter.replyQueue.size) (hcanSend : adapter.canSendPending = true)
      (hflush : adapter.onCanSendNow nowMs state accepted =
        adapter.flushPeriodic nowMs state accepted)

theorem canSendNow_branch (adapter : TimerAdapter) (nowMs : UInt32) (state : State)
    (accepted : Bool) : CanSendBranch adapter nowMs state accepted := by
  cases hrunning : adapter.running with
  | false => exact .stopped hrunning (by rw [onCanSendNow, if_pos (by simp [hrunning])]; rfl)
  | true =>
    cases hpending : adapter.neutralSendPending with
    | true =>
      exact .neutral hrunning hpending
        (onCanSendNow_of_pending hrunning hpending nowMs state accepted)
    | false =>
      by_cases hsize : 0 < adapter.replyQueue.size
      · exact .reply hrunning hpending hsize
          (onCanSendNow_of_replies hrunning hpending hsize nowMs state accepted)
      · cases hcanSend : adapter.canSendPending with
        | false =>
          exact .idle hrunning hpending hsize hcanSend
            (by rw [onCanSendNow_idle hrunning hpending hsize hcanSend]; rfl)
        | true =>
          exact .periodic hrunning hpending hsize hcanSend
            (onCanSendNow_of_periodic hrunning hpending hsize hcanSend nowMs state accepted)

/-! ## Readings in microseconds -/

theorem toNat_readingUs (nowMs : UInt32) : (readingUs nowMs).toNat = nowMs.toNat * 1000 := by
  have hnow := nowMs.toNat_lt
  have hthousand : (1000 : UInt64).toNat = 1000 := rfl
  rw [readingUs, UInt64.toNat_mul, UInt32.toNat_toUInt64, hthousand, Nat.mod_eq_of_lt (by omega)]

theorem toNat_holdoffUntil (nowMs : UInt32) :
    (readingUs nowMs + replyPeriodicHoldoffUs).toNat = nowMs.toNat * 1000 + 300000 := by
  have hnow := nowMs.toNat_lt
  have hholdoff : replyPeriodicHoldoffUs.toNat = 300000 := rfl
  rw [UInt64.toNat_add, toNat_readingUs, hholdoff, Nat.mod_eq_of_lt (by omega)]

end TimerAdapter

end Swbt
