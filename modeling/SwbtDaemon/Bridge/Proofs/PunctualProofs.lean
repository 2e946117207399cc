import SwbtDaemon.Bridge.Proofs.SchedulerProofs
import SwbtDaemon.Bridge.Proofs.TimingProofs

/-!
# Proofs: the timer is never early

Delays are rounded up, so a timer that expires no earlier than its delay expires after the deadline
of the scheduler; then the tick of the can-send event that it asks for is due.
-/

namespace Swbt

open ReportLoop (Event handle clockMs)
open TimerAdapter

/-! ## Delays -/

/-- A delay that is not saturated reaches the deadline. -/
theorem delayMsUntil_reaches {nowUs deadlineUs : UInt64}
    (h : deadlineUs.toNat ≤ nowUs.toNat + 2 ^ 32) :
    deadlineUs.toNat ≤ nowUs.toNat + (delayMsUntil nowUs deadlineUs).toNat * 1000 := by
  unfold delayMsUntil
  by_cases hpast : deadlineUs ≤ nowUs
  · rw [if_pos hpast]
    exact le_trans (UInt64.le_iff_toNat_le.1 hpast) (Nat.le_add_right _ _)
  · have hlater : nowUs ≤ deadlineUs := UInt64.le_of_lt (UInt64.not_le.1 hpast)
    have hdelta : (deadlineUs - nowUs).toNat = deadlineUs.toNat - nowUs.toNat :=
      UInt64.toNat_sub_of_le _ _ hlater
    have hdelay : ((deadlineUs - nowUs + 999) / 1000).toNat =
        (deadlineUs.toNat - nowUs.toNat + 999) / 1000 := by
      have h999 : (999 : UInt64).toNat = 999 := rfl
      have h1000 : (1000 : UInt64).toNat = 1000 := rfl
      rw [UInt64.toNat_div, UInt64.toNat_add, hdelta, h999, h1000, Nat.mod_eq_of_lt (by omega)]
    have hfits : ¬ (deadlineUs - nowUs + 999) / 1000 > 0xFFFFFFFF := by
      have hmax : (0xFFFFFFFF : UInt64).toNat = 4294967295 := rfl
      rw [gt_iff_lt, UInt64.lt_iff_toNat_lt, hdelay, hmax]
      omega
    rw [if_neg hpast]
    dsimp only
    rw [if_neg hfits, UInt64.toNat_toUInt32, hdelay, Nat.mod_eq_of_lt (by omega)]
    omega

/-! ## The timer after the calls of a handler -/

variable {adapter : TimerAdapter} {slot : TimerSlot}

theorem foldl_perform_noArm {actions : List Action} (h : ∀ action ∈ actions, NoArm action)
    (nowMs : Nat) (slot : TimerSlot) :
    ((actions.foldl (TimerSlot.perform nowMs) slot).registered = true → slot.registered = true) ∧
      (actions.foldl (TimerSlot.perform nowMs) slot).armedMs = slot.armedMs ∧
      (actions.foldl (TimerSlot.perform nowMs) slot).delayMs = slot.delayMs := by
  induction actions generalizing slot with
  | nil => exact ⟨id, rfl, rfl⟩
  | cons action actions ih =>
    obtain ⟨hset, hadd⟩ := h action List.mem_cons_self
    obtain ⟨hregistered, harmed, hdelay⟩ :=
      ih (fun a ha => h a (List.mem_cons_of_mem action ha)) (slot.perform nowMs action)
    rw [List.foldl_cons, harmed, hdelay]
    cases action with
    | setTimer timeoutMs => exact absurd rfl (hset timeoutMs)
    | addTimer => exact absurd rfl hadd
    | removeTimer => exact ⟨fun hr => absurd (hregistered hr) Bool.false_ne_true, rfl, rfl⟩
    | _ => exact ⟨hregistered, rfl, rfl⟩

/-- A handler that arms the timer at the reading `nowMs` for an adapter whose times are near it. -/
theorem foldl_perform_arms {nowMs : UInt32} (sends : List Action) {requests : List Action}
    (hrequests : ∀ action ∈ requests, NoArm action)
    (hdeadline : adapter.scheduler.nextDeadlineUs.toNat ≤ nowMs.toNat * 1000 + 2 ^ 32)
    (hholdoff : adapter.periodicHoldoffUntilUs.toNat ≤ nowMs.toNat * 1000 + 300000)
    (slot : TimerSlot) :
    let slot' := (sends ++ adapter.arms (readingUs nowMs) ++ requests).foldl
      (TimerSlot.perform nowMs.toNat) slot
    adapter.scheduler.nextDeadlineUs.toNat ≤ (slot'.armedMs + slot'.delayMs) * 1000 := by
  intro slot'
  obtain ⟨-, harmed, hdelay⟩ := foldl_perform_noArm hrequests nowMs.toNat
    ((sends ++ adapter.arms (readingUs nowMs)).foldl (TimerSlot.perform nowMs.toNat) slot)
  have hslot : slot' = _ := List.foldl_append
  rw [hslot, harmed, hdelay, List.foldl_append]
  have hreading := toNat_readingUs nowMs
  generalize readingUs nowMs = nowUs at hreading ⊢
  -- The timer is set for the later of the two times.
  change _ ≤ (nowMs.toNat + (delayMsUntil nowUs
    (if adapter.periodicHoldoffUntilUs > adapter.scheduler.nextDeadlineUs then
      adapter.periodicHoldoffUntilUs else adapter.scheduler.nextDeadlineUs)).toNat) * 1000
  rw [Nat.add_mul, ← hreading]
  by_cases hlater : adapter.periodicHoldoffUntilUs > adapter.scheduler.nextDeadlineUs
  · rw [if_pos hlater]
    refine le_trans (Nat.le_of_lt (UInt64.lt_iff_toNat_lt.1 hlater)) (delayMsUntil_reaches ?_)
    omega
  · rw [if_neg hlater]
    refine delayMsUntil_reaches ?_
    omega

/-! ## The invariant -/

/-- The times of a running adapter with the last clock reading beside it: the deadline and the
hold-off are near the reading, a registered timer expires after the deadline, and a periodic report
that waits for its can-send event is due and has no timer. -/
structure OnTime (adapter : TimerAdapter) (slot : TimerSlot) (lastMs : Nat) : Prop where
  deadline : adapter.scheduler.nextDeadlineUs.toNat ≤
    lastMs * 1000 + adapter.scheduler.reportPeriodUs.toNat
  holdoff : adapter.periodicHoldoffUntilUs.toNat ≤ lastMs * 1000 + 300000
  timer : slot.registered = true →
    adapter.scheduler.nextDeadlineUs.toNat ≤ (slot.armedMs + slot.delayMs) * 1000
  waiting : adapter.canSendPending = true →
    slot.registered = false ∧ adapter.scheduler.nextDeadlineUs.toNat ≤ lastMs * 1000

/-- The adapter is on time while it runs. -/
def Timely (s : Timed × Nat) : Prop :=
  s.1.adapter.running = true → OnTime s.1.adapter s.1.slot s.2

variable {lastMs : Nat}

theorem OnTime.later (h : OnTime adapter slot lastMs) {nowMs : Nat} (hnow : lastMs ≤ nowMs) :
    OnTime adapter slot nowMs where
  deadline := le_trans h.deadline (by omega)
  holdoff := le_trans h.holdoff (by omega)
  timer := h.timer
  waiting hcanSend := ⟨(h.waiting hcanSend).1, le_trans (h.waiting hcanSend).2 (by omega)⟩

/-- Calls that do not arm the timer, of a handler that leaves the times alone. -/
theorem OnTime.quiet {adapter' : TimerAdapter} {actions : List Action}
    (h : OnTime adapter slot lastMs)
    (hdeadline : adapter'.scheduler.nextDeadlineUs = adapter.scheduler.nextDeadlineUs)
    (hperiod : adapter'.scheduler.reportPeriodUs = adapter.scheduler.reportPeriodUs)
    (hholdoff : adapter'.periodicHoldoffUntilUs = adapter.periodicHoldoffUntilUs)
    (hcanSend : adapter'.canSendPending = adapter.canSendPending)
    (hquiet : ∀ action ∈ actions, NoArm action) (nowMs : Nat) :
    OnTime adapter' (actions.foldl (TimerSlot.perform nowMs) slot) lastMs := by
  obtain ⟨hregistered, harmed, hdelay⟩ := foldl_perform_noArm hquiet nowMs slot
  refine ⟨?_, ?_, ?_, ?_⟩
  · rw [hdeadline, hperiod]
    exact h.deadline
  · rw [hholdoff]
    exact h.holdoff
  · rw [hdeadline, harmed, hdelay]
    exact fun hr => h.timer (hregistered hr)
  · rw [hdeadline, hcanSend]
    intro hpending
    obtain ⟨hnone, hdue⟩ := h.waiting hpending
    refine ⟨Bool.eq_false_iff.2 fun hr => ?_, hdue⟩
    exact absurd (hnone.symm.trans (hregistered hr)) Bool.false_ne_true

/-- A handler that arms the timer at its own reading. -/
theorem OnTime.armed {nowMs : UInt32} {sends requests : List Action}
    (hrequests : ∀ action ∈ requests, NoArm action)
    (hdeadline : adapter.scheduler.nextDeadlineUs.toNat ≤
      nowMs.toNat * 1000 + adapter.scheduler.reportPeriodUs.toNat)
    (hholdoff : adapter.periodicHoldoffUntilUs.toNat ≤ nowMs.toNat * 1000 + 300000)
    (hcanSend : adapter.canSendPending = false) (slot : TimerSlot) :
    OnTime adapter ((sends ++ adapter.arms (readingUs nowMs) ++ requests).foldl
      (TimerSlot.perform nowMs.toNat) slot) nowMs.toNat where
  deadline := hdeadline
  holdoff := hholdoff
  timer _ := by
    have hperiod := adapter.scheduler.reportPeriodUs.toNat_lt
    exact foldl_perform_arms sends hrequests (by omega) hholdoff slot
  waiting hpending := absurd (hcanSend.symm.trans hpending) Bool.false_ne_true

/-! ## Can-send events -/

/-- Where a tick leaves the deadline. -/
theorem tick_deadline (scheduler : Scheduler) {nowUs : UInt64} (state : State) (accepted : Bool)
    (hfits : nowUs.toNat + scheduler.reportPeriodUs.toNat < 2 ^ 64) :
    (scheduler.tick nowUs state accepted).2.1.reportPeriodUs = scheduler.reportPeriodUs ∧
      ((scheduler.tick nowUs state accepted).2.1.nextDeadlineUs = scheduler.nextDeadlineUs ∨
        (scheduler.tick nowUs state accepted).2.1.nextDeadlineUs.toNat ≤
          nowUs.toNat + scheduler.reportPeriodUs.toNat) := by
  have hadvance : scheduler.nextDeadlineUs ≤ nowUs →
      (scheduler.advance nowUs).nextDeadlineUs.toNat ≤
        nowUs.toNat + scheduler.reportPeriodUs.toNat := by
    intro hdue
    rw [Scheduler.toNat_advance hdue hfits]
    exact Pacing.next_le (UInt64.le_iff_toNat_le.1 hdue)
  unfold Scheduler.tick
  rw [TimerAdapter.buildStandardFullReport_eq]
  split_ifs with hinvalid hstopped hearly hrefused
  · exact ⟨rfl, .inl rfl⟩
  · exact ⟨rfl, .inl rfl⟩
  · exact ⟨rfl, .inl rfl⟩
  · exact ⟨rfl, .inr (hadvance (UInt64.not_lt.1 hearly))⟩
  · exact ⟨rfl, .inr (hadvance (UInt64.not_lt.1 hearly))⟩

/-- The calls of a handler at the reading `nowMs` leave a running adapter on time. -/
def LeavesOnTime (slot : TimerSlot) (nowMs : Nat) (calls : TimerAdapter × List Action) : Prop :=
  calls.1.running = true → OnTime calls.1 (calls.2.foldl (TimerSlot.perform nowMs) slot) nowMs

/-- A handler that arms the timer. -/
theorem leavesOnTime_of_arms {nowMs : UInt32} {calls : TimerAdapter × List Action}
    {after : TimerAdapter} {sends requests : List Action}
    (hcalls : calls = (after, sends ++ after.arms (readingUs nowMs) ++ requests))
    (hrequests : ∀ action ∈ requests, NoArm action)
    (hdeadline : after.scheduler.nextDeadlineUs.toNat ≤
      nowMs.toNat * 1000 + after.scheduler.reportPeriodUs.toNat)
    (hholdoff : after.periodicHoldoffUntilUs.toNat ≤ nowMs.toNat * 1000 + 300000)
    (hcanSend : after.canSendPending = false) (slot : TimerSlot) :
    LeavesOnTime slot nowMs.toNat calls := by
  rw [LeavesOnTime, hcalls]
  exact fun _ => .armed hrequests hdeadline hholdoff hcanSend slot

theorem flushNeutral_onTime {nowMs : UInt32} (h : OnTime adapter slot nowMs.toNat)
    (accepted : Bool) :
    LeavesOnTime slot nowMs.toNat (adapter.flushNeutral nowMs accepted).calls := by
  cases accepted with
  | false =>
    obtain ⟨message, hcalls⟩ := flushNeutral_refused adapter nowMs
    rw [LeavesOnTime, hcalls]
    exact fun _ => h.quiet rfl rfl rfl rfl (by simp [NoArm]) nowMs.toNat
  | true =>
    obtain ⟨message, timer, after, hafter, hcalls⟩ := flushNeutral_accepted adapter nowMs
    rw [← List.append_nil (_ ++ arms _ _)] at hcalls
    refine leavesOnTime_of_arms hcalls (by simp) ?_ ?_ (by rw [hafter]) slot
    · rw [hafter]
      exact h.deadline
    · rw [hafter]
      exact Nat.zero_le _

theorem flushReply_onTime {nowMs : UInt32} (h : OnTime adapter slot nowMs.toNat)
    (hsize : 0 < adapter.replyQueue.size) (accepted : Bool) :
    LeavesOnTime slot nowMs.toNat (adapter.flushReply nowMs accepted).calls := by
  by_cases hsent : accepted = true ∧ ReplyQueue.ValidSize adapter.replyQueue.headItem.report
  · obtain ⟨rfl, hvalid⟩ := hsent
    obtain ⟨message, timer, queue, after, requests, hafter, hrequests, hcalls⟩ :=
      flushReply_accepted hsize hvalid nowMs
    rw [← List.append_assoc] at hcalls
    refine leavesOnTime_of_arms hcalls hrequests ?_ ?_ (by rw [hafter]; rfl) slot
    · rw [hafter]
      exact h.deadline
    · rw [hafter]
      exact Nat.le_of_eq (toNat_holdoffUntil nowMs)
  · rw [not_and_or, Bool.not_eq_true] at hsent
    obtain ⟨actions, hactions, hcalls⟩ := flushReply_failed hsize hsent nowMs
    have hquiet : ∀ action ∈ actions, NoArm action := by
      intro action haction
      obtain ⟨hidCid, message, rfl⟩ := hactions action haction
      simp [NoArm]
    rw [LeavesOnTime, hcalls]
    exact fun _ => h.quiet rfl rfl rfl rfl hquiet nowMs.toNat

theorem flushPeriodic_onTime {nowMs : UInt32} (h : OnTime adapter slot nowMs.toNat)
    (hcanSend : adapter.canSendPending = true) (state : State) (accepted : Bool) :
    LeavesOnTime slot nowMs.toNat (adapter.flushPeriodic nowMs state accepted).calls := by
  by_cases hearly : readingUs nowMs < adapter.periodicHoldoffUntilUs
  · obtain ⟨after, hafter, hcalls⟩ := flushPeriodic_early hearly state accepted
    rw [← List.append_nil (arms _ _), ← List.nil_append (arms _ _)] at hcalls
    refine leavesOnTime_of_arms hcalls (by simp) ?_ ?_ (by rw [hafter]) slot
    · rw [hafter]
      exact h.deadline
    · rw [hafter]
      exact h.holdoff
  · obtain ⟨actions, hactions, hok, hfailed⟩ :=
      flushPeriodic_tick (UInt64.not_lt.1 hearly) state accepted
    have hnow := nowMs.toNat_lt
    have hperiod := adapter.scheduler.reportPeriodUs.toNat_lt
    have hreading := toNat_readingUs nowMs
    obtain ⟨hsame, hticked⟩ := tick_deadline adapter.scheduler state accepted
      (show (readingUs nowMs).toNat + adapter.scheduler.reportPeriodUs.toNat < 2 ^ 64 by
        rw [hreading]
        omega)
    rw [hreading] at hticked
    generalize adapter.scheduler.tick (readingUs nowMs) state accepted = ticked
      at hok hfailed hsame hticked
    have hdeadline : ticked.2.1.nextDeadlineUs.toNat ≤
        nowMs.toNat * 1000 + ticked.2.1.reportPeriodUs.toNat := by
      rw [hsame]
      rcases hticked with hkept | hmoved
      · rw [hkept]
        exact h.deadline
      · exact hmoved
    by_cases hresult : ticked.1 = .ok
    · obtain ⟨after, hafter, hcalls⟩ := hok hresult
      rw [← List.append_nil (_ ++ arms _ _)] at hcalls
      refine leavesOnTime_of_arms hcalls (by simp) ?_ ?_ (by rw [hafter]) slot
      · rw [hafter]
        exact hdeadline
      · rw [hafter]
        exact Nat.zero_le _
    · -- The timer has expired before: nothing is registered until a reply or a start arms it.
      obtain ⟨hnone, -⟩ := h.waiting hcanSend
      obtain ⟨hregistered, -, -⟩ := foldl_perform_noArm hactions nowMs.toNat slot
      rw [LeavesOnTime, hfailed hresult]
      refine fun _ => ⟨hdeadline, h.holdoff, fun hr => ?_, (nomatch ·)⟩
      exact absurd (hnone.symm.trans (hregistered hr)) Bool.false_ne_true

theorem onCanSendNow_onTime {nowMs : UInt32}
    (h : adapter.running = true → OnTime adapter slot nowMs.toNat) (state : State)
    (accepted : Bool) :
    LeavesOnTime slot nowMs.toNat (adapter.onCanSendNow nowMs state accepted).calls := by
  cases canSendNow_branch adapter nowMs state accepted with
  | stopped hrunning hcalls =>
    rw [LeavesOnTime, hcalls]
    exact h
  | idle hrunning _ _ _ hcalls =>
    rw [LeavesOnTime, hcalls]
    exact h
  | neutral hrunning _ hflush =>
    rw [hflush]
    exact flushNeutral_onTime (h hrunning) accepted
  | reply hrunning _ hsize hflush =>
    rw [hflush]
    exact flushReply_onTime (h hrunning) hsize accepted
  | periodic hrunning _ _ hcanSend hflush =>
    rw [hflush]
    exact flushPeriodic_onTime (h hrunning) hcanSend state accepted

/-! ## The other events -/

/-- A registered timer that expires, which the run loop has taken out of its list. -/
theorem onTimer_onTime {nowMs : UInt32}
    (h : adapter.running = true → OnTime adapter slot nowMs.toNat)
    (hregistered : slot.registered = true)
    (hpunctual : slot.armedMs + slot.delayMs ≤ nowMs.toNat) :
    LeavesOnTime { slot with registered := false } nowMs.toNat (adapter.onTimer nowMs).calls := by
  unfold onTimer
  by_cases hrunning : adapter.running = true
  · have honTime := h hrunning
    rw [if_neg (by simp [hrunning])]
    dsimp only
    by_cases hearly : readingUs nowMs < adapter.periodicHoldoffUntilUs
    · rw [if_pos hearly]
      have hcanSend : adapter.canSendPending = false := by
        by_contra hpending
        rw [Bool.not_eq_false] at hpending
        exact absurd ((honTime.waiting hpending).1.symm.trans hregistered) Bool.false_ne_true
      have hcalls : ({ adapter with timerPending := false }.scheduleNextTimer
          (readingUs nowMs)).calls = ({ adapter with timerPending := true },
            [] ++ arms { adapter with timerPending := true } (readingUs nowMs) ++ []) := rfl
      exact leavesOnTime_of_arms hcalls (by simp) honTime.deadline honTime.holdoff hcanSend _
    · rw [if_neg hearly]
      have hdue := honTime.timer hregistered
      refine fun _ => ⟨honTime.deadline, honTime.holdoff, (nomatch ·), fun _ => ⟨rfl, ?_⟩⟩
      exact le_trans hdue (Nat.mul_le_mul_right 1000 hpunctual)
  · rw [if_pos (by simpa using hrunning)]
    exact fun hr => absurd hr hrunning

/-- A start that has an effect arms the timer for a whole period. -/
theorem start_cases (adapter : TimerAdapter) (hidCid : UInt16) (nowUs : UInt64) :
    (adapter.start hidCid nowUs).calls = (adapter, []) ∨
      ∃ after, after.scheduler.nextDeadlineUs =
          nowUs + adapter.scheduler.reportPeriodUs.toUInt64 ∧
        after.scheduler.reportPeriodUs = adapter.scheduler.reportPeriodUs ∧
        after.periodicHoldoffUntilUs = 0 ∧ after.canSendPending = false ∧
        (adapter.start hidCid nowUs).calls = (after, after.arms nowUs) := by
  unfold start Scheduler.start
  by_cases hinit : (!adapter.initialized) = true
  · exact .inl (by rw [if_pos hinit]; rfl)
  · rw [if_neg hinit]
    by_cases hvalid : (!adapter.scheduler.isValid) = true
    · exact .inl (by rw [if_pos hvalid]; rfl)
    · rw [if_neg hvalid]
      exact .inr ⟨{ adapter with
        scheduler := { adapter.scheduler with
          hidCid := hidCid
          running := true
          nextDeadlineUs := nowUs + adapter.scheduler.reportPeriodUs.toUInt64
          timer := adapter.scheduler.reportOptions.timer }
        hidCid := hidCid
        running := true
        timerPending := true
        canSendPending := false
        periodicHoldoffUntilUs := 0
        neutralSendPending := false }, rfl, rfl, rfl, rfl, rfl⟩

/-- Any other event. -/
theorem quiet_onTime (event : Event)
    (h : adapter.running = true → OnTime adapter slot lastMs) (htimed : event.reading = none)
    (nowMs : Nat) :
    (handle adapter event).1.running = true →
      OnTime (handle adapter event).1
        ((handle adapter event).2.foldl (TimerSlot.perform nowMs) slot) lastMs := by
  cases event with
  | start hidCid timeMs => cases htimed
  | timer timeMs => cases htimed
  | canSendNow timeMs state accepted => cases htimed
  | enqueueSubcommandReply hidCid report =>
    rcases enqueueSubcommandReply_cases adapter hidCid report with
      ⟨queue, -, -, hcalls⟩ | ⟨result, -, hcalls⟩
    · rw [handle, hcalls]
      intro hr
      exact (h hr).quiet (by rfl) (by rfl) (by rfl) (by rfl) (by simp [NoArm, Handled.calls]) nowMs
    · rw [handle, hcalls]
      exact h
  | sendNeutralNow accepted =>
    rw [handle, sendNeutralNow, sendNeutralReport_eq]
    split
    · exact h
    · cases accepted with
      | false =>
        intro hr
        exact (h hr).quiet (by rfl) (by rfl) (by rfl) (by rfl) (by simp [NoArm, Handled.calls])
          nowMs
      | true =>
        intro hr
        exact (h hr).quiet (by rfl) (by rfl) (by rfl) (by rfl) (by simp [NoArm, Handled.calls])
          nowMs
  | stop =>
    rw [handle, stop_eq]
    intro hr
    cases hr

theorem start_onTime {nowMs : UInt32}
    (h : adapter.running = true → OnTime adapter slot nowMs.toNat) (hidCid : UInt16) :
    LeavesOnTime slot nowMs.toNat (adapter.start hidCid (readingUs nowMs)).calls := by
  rcases start_cases adapter hidCid (readingUs nowMs) with
    hcalls | ⟨after, hdeadline, hperiod, hholdoff, hcanSend, hcalls⟩
  · rw [LeavesOnTime, hcalls]
    exact h
  · have hnow := nowMs.toNat_lt
    have hperiodLt := adapter.scheduler.reportPeriodUs.toNat_lt
    rw [← List.append_nil (arms _ _), ← List.nil_append (arms _ _)] at hcalls
    refine leavesOnTime_of_arms hcalls (by simp) ?_ ?_ hcanSend slot
    · rw [hdeadline, hperiod, UInt64.toNat_add, toNat_readingUs, UInt32.toNat_toUInt64,
        Nat.mod_eq_of_lt (by omega)]
    · rw [hholdoff]
      exact Nat.zero_le _

/-! ## Runs -/

/-- **Step lemma**: an event at a reading that does not go back, from a timer that is not early,
keeps a running adapter on time. -/
theorem Timely.step {s : Timed × Nat} {event : Event} (h : Timely s)
    (honward : Runs.Onward Event.reading s event) (hpunctual : s.1.Punctual event) :
    Timely (Runs.clocked Timed.step Event.reading s event) := by
  obtain ⟨⟨adapter, slot⟩, lastMs⟩ := s
  have hlater : ∀ nowMs : UInt32, event.reading = some nowMs.toNat → adapter.running = true →
      OnTime adapter slot nowMs.toNat :=
    fun nowMs hreading hrunning => (h hrunning).later (honward _ hreading)
  cases event with
  | start hidCid timeMs => exact start_onTime (hlater (clockMs timeMs) rfl) hidCid
  | timer timeMs =>
    unfold Timely Runs.clocked Timed.step
    dsimp only
    by_cases hregistered : slot.registered = true
    · rw [if_pos hregistered]
      exact onTimer_onTime (hlater (clockMs timeMs) rfl) hregistered (hpunctual hregistered)
    · rw [if_neg hregistered]
      exact hlater (clockMs timeMs) rfl
  | canSendNow timeMs state accepted =>
    exact onCanSendNow_onTime (hlater (clockMs timeMs) rfl) state accepted
  | enqueueSubcommandReply hidCid report =>
    exact quiet_onTime (.enqueueSubcommandReply hidCid report) h rfl 0
  | sendNeutralNow accepted => exact quiet_onTime (.sendNeutralNow accepted) h rfl 0
  | stop => exact quiet_onTime .stop h rfl 0

/-- A tick from the deadline on is due. -/
theorem tick_ne_notDue {scheduler : Scheduler} {nowUs : UInt64}
    (h : scheduler.nextDeadlineUs ≤ nowUs) (state : State) (accepted : Bool) :
    (scheduler.tick nowUs state accepted).1 ≠ .notDue := by
  unfold Scheduler.tick
  rw [TimerAdapter.buildStandardFullReport_eq, if_neg (UInt64.not_lt.2 h)]
  split_ifs <;> simp

/-- The guards of a tick. -/
theorem tickResult_eq_some {timeMs : Nat} {state : State} {accepted : Bool}
    {result : Scheduler.Result}
    (h : adapter.tickResult (.canSendNow timeMs state accepted) = some result) :
    adapter.running = true ∧ adapter.neutralSendPending = false ∧ adapter.replyQueue.size = 0 ∧
      adapter.canSendPending = true ∧
      adapter.periodicHoldoffUntilUs ≤ readingUs (clockMs timeMs) ∧
      result = (adapter.scheduler.tick (readingUs (clockMs timeMs)) state accepted).1 := by
  unfold tickResult at h
  dsimp only at h
  split at h
  · rename_i hguards
    simp only [Bool.and_eq_true, Bool.not_eq_true', beq_iff_eq, decide_eq_true_eq] at hguards
    obtain ⟨⟨⟨⟨hrunning, hpending⟩, hsize⟩, hcanSend⟩, hholdoff⟩ := hguards
    exact ⟨hrunning, hpending, hsize, hcanSend, hholdoff, (Option.some.inj h).symm⟩
  · exact absurd h (nomatch ·)

/-- A can-send event that gets to a tick returns its result. -/
theorem onCanSendNow_result {timeMs : Nat} {state : State} {accepted : Bool}
    {result : Scheduler.Result}
    (h : adapter.tickResult (.canSendNow timeMs state accepted) = some result) :
    (adapter.onCanSendNow (clockMs timeMs) state accepted).result = mapSchedulerResult result := by
  obtain ⟨hrunning, hpending, hsize, hcanSend, hholdoff, rfl⟩ := tickResult_eq_some h
  have hempty : ¬ 0 < adapter.replyQueue.size := by omega
  rw [onCanSendNow_of_periodic hrunning hpending hempty hcanSend, flushPeriodic]
  dsimp only
  rw [if_neg (UInt64.not_lt.2 hholdoff)]
  by_cases hok : mapSchedulerResult
      (adapter.scheduler.tick (readingUs (clockMs timeMs)) state accepted).1 = .ok
  · rw [if_neg (not_not.2 hok), hok]
    rfl
  · rw [if_pos hok]

theorem Timely.tickResult_ne {s : Timed × Nat} {event : Event} (h : Timely s)
    (honward : Runs.Onward Event.reading s event) :
    s.1.adapter.tickResult event ≠ some .notDue := by
  cases event with
  | canSendNow timeMs state accepted =>
    intro hresult
    obtain ⟨hrunning, -, -, hcanSend, -, hnotDue⟩ := tickResult_eq_some hresult
    have hdue := ((h hrunning).waiting hcanSend).2
    have hnow := honward (clockMs timeMs).toNat rfl
    refine tick_ne_notDue ?_ state accepted hnotDue.symm
    rw [UInt64.le_iff_toNat_le, toNat_readingUs]
    exact le_trans hdue (Nat.mul_le_mul_right 1000 hnow)
  | _ => simp [tickResult]

/-- **The timer is never early**: with clock readings that never go back and timers that expire no
earlier than their delay after the reading it was computed from, each scheduler tick of a run is
due. -/
theorem tickResult_ne_notDue {reportPeriodUs : UInt32} {reportOptions : ReportOptions}
    {adapter : TimerAdapter} (hinit : TimerAdapter.init reportPeriodUs reportOptions = .ok adapter)
    {events : List Event} (hclock : ReportLoop.Nondecreasing events)
    (hpunctual : Runs.AllSteps Timed.step Timed.Punctual (Timed.ofAdapter adapter) events)
    {earlier later : List Event} {event : Event} (hevents : events = earlier ++ event :: later) :
    (Runs.run Timed.step (Timed.ofAdapter adapter) earlier).adapter.tickResult event ≠
      some .notDue := by
  have honward : Runs.AllSteps (Runs.clocked Timed.step Event.reading) (Runs.Onward Event.reading)
      (Timed.ofAdapter adapter, 0) events :=
    Runs.allSteps_onward hclock fun _ _ => Nat.zero_le _
  have hall := honward.and (Runs.allSteps_clocked hpunctual)
  rw [hevents, Runs.allSteps_append] at hall
  obtain ⟨hearlier, ⟨hevent, -⟩, -⟩ := hall
  have hstopped : adapter.running = false := by
    rw [(init_ok hinit).1]
  have hinitial : Timely (Timed.ofAdapter adapter, 0) :=
    fun hrunning => absurd (hstopped.symm.trans hrunning) Bool.false_ne_true
  have hreached := Runs.run_invariant_of_allSteps (P := Timely)
    (fun _ _ h hg => h.step hg.1 hg.2) hinitial hearlier
  rw [← Runs.run_clocked_fst Timed.step Event.reading (Timed.ofAdapter adapter, 0) earlier]
  exact hreached.tickResult_ne hevent

/-- The first report of a run with a period of 7.5 ms: the timer is set for 8 ms. -/
theorem tickResult_ne_notDue_first :
    ∃ adapter, TimerAdapter.init 7500 ⟨0, 0x8E, 0x80⟩ = .ok adapter ∧
      let reached := Runs.run Timed.step (Timed.ofAdapter adapter) [.start 0x42 100, .timer 108]
      reached.adapter.tickResult (.canSendNow 108 State.neutral true) = some .ok ∧
        reached.adapter.tickResult (.canSendNow 108 State.neutral true) ≠ some .notDue := by
  have hinit : TimerAdapter.init 7500 ⟨0, 0x8E, 0x80⟩ = .ok _ := rfl
  have hevents : ([.start 0x42 100, .timer 108, .canSendNow 108 State.neutral true] : List Event) =
      [.start 0x42 100, .timer 108] ++ .canSendNow 108 State.neutral true :: [] := rfl
  have hclock : ReportLoop.Nondecreasing
      [.start 0x42 100, .timer 108, .canSendNow 108 State.neutral true] := by
    unfold ReportLoop.Nondecreasing
    decide
  exact ⟨_, hinit, by decide, tickResult_ne_notDue hinit hclock
    ⟨trivial, fun _ => by decide, trivial, trivial⟩ hevents⟩

end Swbt
