import SwbtDaemon.Bridge.Proofs.TimerAdapterProofs
import SwbtDaemon.Bridge.ReportLoop

/-!
# Proofs: when a wake-up stays outstanding

While the adapter runs, its timer is registered, or its periodic report waits for a requested
can-send event. `Inv` says so; the events that break it are exactly those that `Rearms` excludes.
-/

namespace Swbt

namespace ReportLoop

open TimerAdapter

variable {loop : ReportLoop}

/-- The invariant of the adapter and its run loop. -/
structure Inv (loop : ReportLoop) : Prop where
  initialized : loop.adapter.initialized = true
  period : loop.adapter.scheduler.isValid = true
  scheduler_running : loop.adapter.scheduler.running = loop.adapter.running
  registered : loop.registered = loop.adapter.timerPending
  /-- While the adapter runs, its timer or its periodic report is under way. -/
  woken : loop.adapter.running = true → loop.adapter.timerPending = true ∨
    (loop.adapter.canSendPending = true ∧ loop.requested = true)
  exclusive : loop.adapter.canSendPending = true → loop.adapter.timerPending = false
  stopped : loop.adapter.running = false → loop.adapter.timerPending = false
  replies : ∀ item ∈ loop.adapter.replyQueue.toList, ReplyQueue.ValidSize item.report

theorem Inv.wakeUp (h : Inv loop) : WakeUp loop := by
  intro hrun
  rcases h.woken hrun with htimer | ⟨-, hreq⟩
  · exact Or.inl (by rw [h.registered, htimer])
  · exact Or.inr hreq

/-- A timer that is registered is one of a running adapter. -/
theorem Inv.running_of_registered (h : Inv loop) (hreg : loop.registered = true) :
    loop.adapter.running = true := by
  by_contra hrun
  have hpending := h.stopped (by simpa using hrun)
  rw [h.registered, hpending] at hreg
  exact absurd hreg (by simp)

theorem init_inv {reportPeriodUs : UInt32} {reportOptions : ReportOptions}
    {adapter : TimerAdapter} (h : TimerAdapter.init reportPeriodUs reportOptions = .ok adapter) :
    Inv (ofAdapter adapter) := by
  obtain ⟨rfl, hvalid⟩ := TimerAdapter.init_ok h
  exact ⟨rfl, hvalid, rfl, rfl, (nomatch ·), (nomatch ·), fun _ => rfl,
    by simp [ofAdapter, ReplyQueue.toList_init]⟩

/-- A loop whose timer has just been registered for a running adapter. -/
theorem Inv.of_registered (hinit : loop.adapter.initialized = true)
    (hperiod : loop.adapter.scheduler.isValid = true)
    (hsched : loop.adapter.scheduler.running = loop.adapter.running)
    (hrun : loop.adapter.running = true) (hreg : loop.registered = true)
    (htimer : loop.adapter.timerPending = true) (hcan : loop.adapter.canSendPending = false)
    (hreplies : ∀ item ∈ loop.adapter.replyQueue.toList, ReplyQueue.ValidSize item.report) :
    Inv loop :=
  ⟨hinit, hperiod, hsched, by rw [hreg, htimer], fun _ => Or.inl htimer, by simp [hcan],
    by simp [hrun], hreplies⟩

/-! ## One event -/

theorem start_inv (h : Inv loop) (hidCid : UInt16) (timeMs : Nat) :
    Inv (loop.step (.start hidCid timeMs)) := by
  obtain ⟨scheduler, hperiod, hsched, hstart⟩ :=
    start_of_valid h.initialized h.period hidCid (readingUs (clockMs timeMs))
  have hvalid : scheduler.isValid = true := by
    simpa only [Scheduler.isValid, hperiod] using h.period
  change Inv (loop.after (loop.adapter.start hidCid _).calls)
  rw [hstart]
  exact .of_registered h.initialized hvalid hsched rfl rfl rfl rfl h.replies

theorem timer_inv (h : Inv loop) (timeMs : Nat) : Inv (loop.step (.timer timeMs)) := by
  by_cases hreg : loop.registered = true
  · have hrun := h.running_of_registered hreg
    have htimer : loop.adapter.timerPending = true := by rw [← h.registered, hreg]
    have hcan : loop.adapter.canSendPending = false := by
      by_contra hcan
      simp [h.exclusive (by simpa using hcan)] at htimer
    have hstep : loop.step (.timer timeMs) =
        { loop with registered := false }.after (loop.adapter.onTimer (clockMs timeMs)).calls := by
      simp [step, deliver, hreg, handle]
    rw [hstep]
    unfold onTimer
    rw [if_neg (by simp [hrun])]
    dsimp only
    split
    · exact .of_registered h.initialized h.period h.scheduler_running hrun rfl rfl hcan h.replies
    · -- the timer is gone and a can-send event has been requested in its place
      exact ⟨h.initialized, h.period, h.scheduler_running, rfl, fun _ => Or.inr ⟨rfl, rfl⟩,
        fun _ => rfl, fun _ => rfl, h.replies⟩
  · have hstep : loop.step (.timer timeMs) = loop := by simp [step, deliver, hreg]
    rw [hstep]
    exact h

theorem enqueueSubcommandReply_inv (h : Inv loop) (hidCid : UInt16) (report : List UInt8) :
    Inv (loop.step (.enqueueSubcommandReply hidCid report)) := by
  change Inv (loop.after (loop.adapter.enqueueSubcommandReply hidCid report).calls)
  unfold enqueueSubcommandReply
  rw [if_neg (by simp [h.initialized])]
  by_cases hrun : loop.adapter.running = true
  · rw [if_neg (by simp [hrun])]
    rcases ReplyQueue.enqueue_cases loop.adapter.replyQueue hidCid report with
      ⟨hvalid, -, hok, hlist⟩ | ⟨herr, hsame⟩
    · dsimp only
      rw [if_neg (by simp [hok])]
      refine ⟨h.initialized, h.period, h.scheduler_running, h.registered, ?_, h.exclusive,
        h.stopped, ?_⟩
      · intro _
        exact (h.woken hrun).imp_right fun hboth => ⟨hboth.1, rfl⟩
      · intro item hitem
        rcases List.mem_append.1 (hlist ▸ hitem) with hold | hnew
        · exact h.replies item hold
        · rw [List.mem_singleton.1 hnew]
          exact hvalid
    · dsimp only
      rw [if_pos herr, hsame]
      exact h
  · rw [if_pos (by simp [hrun])]
    exact h

theorem sendNeutralNow_inv (h : Inv loop) (accepted : Bool) :
    Inv (loop.step (.sendNeutralNow accepted)) := by
  change Inv (loop.after (loop.adapter.sendNeutralNow accepted).calls)
  unfold sendNeutralNow
  by_cases hrun : loop.adapter.running = true
  · rw [if_neg (by simp [hrun])]
    obtain ⟨timer, message, -, hsend⟩ := sendNeutralReport_spec loop.adapter accepted
    rw [hsend]
    cases accepted with
    | false =>
      refine ⟨h.initialized, h.period, h.scheduler_running, h.registered, ?_, h.exclusive,
        h.stopped, h.replies⟩
      intro _
      exact (h.woken hrun).imp_right fun hboth => ⟨hboth.1, rfl⟩
    | true =>
      exact ⟨h.initialized, h.period, h.scheduler_running, h.registered, h.woken, h.exclusive,
        h.stopped, h.replies⟩
  · rw [if_pos (by simp [hrun])]
    exact h

theorem stop_inv (h : Inv loop) : Inv (loop.step .stop) := by
  have hempty : ∀ item ∈ ReplyQueue.init.toList, ReplyQueue.ValidSize item.report := by
    simp [ReplyQueue.toList_init]
  change Inv (loop.after loop.adapter.stop)
  rw [stop_eq]
  by_cases htimer : loop.adapter.timerPending = true
  · rw [if_pos htimer]
    exact ⟨h.initialized, h.period, rfl, rfl, (nomatch ·), (nomatch ·), fun _ => rfl,
      hempty⟩
  · rw [if_neg htimer]
    have hregistered : loop.registered = false := h.registered.trans (by simpa using htimer)
    exact ⟨h.initialized, h.period, rfl, hregistered, (nomatch ·), (nomatch ·), fun _ => rfl,
      hempty⟩

/-! ## A can-send event -/

theorem after_adapter (loop : ReportLoop) (calls : TimerAdapter × List Action) :
    (loop.after calls).adapter = calls.1 := by
  have hfold : ∀ (actions : List Action) (loop : ReportLoop),
      (actions.foldl perform loop).adapter = loop.adapter := by
    intro actions
    induction actions with
    | nil => exact fun _ => rfl
    | cons action actions ih =>
      intro loop
      rw [List.foldl_cons, ih]
      cases action <;> rfl
  exact hfold calls.2 _

/-- Calls without effect on the run loop. -/
theorem after_quiet (loop : ReportLoop) (adapter : TimerAdapter) {actions : List Action}
    (h : ∀ action ∈ actions, action.Quiet) :
    loop.after (adapter, actions) = { loop with adapter := adapter } := by
  unfold after
  dsimp only
  generalize { loop with adapter := adapter } = loop
  induction actions generalizing loop with
  | nil => rfl
  | cons action actions ih =>
    have hsame : loop.perform action = loop := by
      have hquiet := h action List.mem_cons_self
      cases action <;> first | rfl | exact hquiet.elim
    rw [List.foldl_cons, hsame]
    exact ih (fun a ha => h a (List.mem_cons_of_mem _ ha)) loop

/-- Once the timer has been added, requests leave it registered. -/
theorem after_scheduled (loop : ReportLoop) (adapter : TimerAdapter) (actions : List Action)
    (timeoutMs : UInt32) {requests : List Action}
    (h : ∀ action ∈ requests, ∃ hidCid, action = Action.requestCanSendNow hidCid) :
    (loop.after (adapter, actions ++ [.setTimer timeoutMs, .addTimer] ++ requests)).registered =
      true := by
  have hkeep : ∀ (requests : List Action) (loop : ReportLoop), loop.registered = true →
      (∀ action ∈ requests, ∃ hidCid, action = Action.requestCanSendNow hidCid) →
      (requests.foldl perform loop).registered = true := by
    intro requests
    induction requests with
    | nil => exact fun _ hreg _ => hreg
    | cons request requests ih =>
      intro loop hreg hreqs
      obtain ⟨hidCid, rfl⟩ := hreqs request List.mem_cons_self
      exact ih _ hreg fun action ha => hreqs action (List.mem_cons_of_mem _ ha)
  unfold after
  rw [List.foldl_append, List.foldl_append]
  exact hkeep requests _ rfl h

/-- A delivered can-send event. -/
theorem step_canSendNow (hreq : loop.requested = true) (timeMs : Nat) (state : State)
    (accepted : Bool) :
    loop.step (.canSendNow timeMs state accepted) =
      { loop with requested := false }.after
        (loop.adapter.onCanSendNow (clockMs timeMs) state accepted).calls := by
  simp [step, deliver, hreq, handle]

/-- The loop after a can-send event that has registered the timer again. -/
theorem Inv.rescheduled (h : Inv loop) (hrun : loop.adapter.running = true)
    {adapter : TimerAdapter} {after : ReportLoop} (hafter : after.adapter = adapter)
    (hreg : after.registered = true)
    (hinit : adapter.initialized = loop.adapter.initialized)
    (hperiod : adapter.scheduler.reportPeriodUs = loop.adapter.scheduler.reportPeriodUs)
    (hsched : adapter.scheduler.running = loop.adapter.scheduler.running)
    (hrunning : adapter.running = loop.adapter.running) (htimer : adapter.timerPending = true)
    (hcan : adapter.canSendPending = false)
    (hreplies : ∀ item ∈ adapter.replyQueue.toList, item ∈ loop.adapter.replyQueue.toList) :
    Inv after := by
  subst hafter
  refine .of_registered (hinit.trans h.initialized) ?_ ?_ (hrunning.trans hrun) hreg htimer hcan
    fun item hitem => h.replies item (hreplies item hitem)
  · simpa only [Scheduler.isValid, hperiod] using h.period
  · rw [hsched, hrunning, h.scheduler_running]

theorem flushNeutral_inv (h : Inv loop) (hrun : loop.adapter.running = true) (nowMs : UInt32)
    (accepted : Bool) :
    Inv ({ loop with requested := false }.after
      (loop.adapter.flushNeutral nowMs accepted).calls) := by
  obtain ⟨timer, message, -, hcalls | ⟨removed, timeoutMs, -, hcalls⟩⟩ :=
    flushNeutral_spec loop.adapter nowMs accepted
  · rw [hcalls]
    refine ⟨h.initialized, h.period, h.scheduler_running, h.registered, ?_, h.exclusive,
      h.stopped, h.replies⟩
    intro _
    exact (h.woken hrun).imp_right fun hboth => ⟨hboth.1, rfl⟩
  · rw [hcalls, ← List.append_nil (_ ++ _)]
    exact h.rescheduled hrun (after_adapter _ _) (after_scheduled _ _ _ _ (by simp)) rfl rfl rfl
      rfl rfl rfl fun _ hitem => hitem

/-- The head of the queue has a valid size. -/
theorem Inv.headItem_valid (h : Inv loop) (hsize : 0 < loop.adapter.replyQueue.size) :
    ReplyQueue.ValidSize loop.adapter.replyQueue.headItem.report := by
  apply h.replies
  rw [ReplyQueue.toList_eq_cons hsize]
  exact List.mem_cons_self

theorem flushReply_inv (h : Inv loop) (hrun : loop.adapter.running = true)
    (hsize : 0 < loop.adapter.replyQueue.size) (nowMs : UInt32) {accepted : Bool}
    (hg : accepted = true ∨ loop.registered = true) :
    Inv ({ loop with requested := false }.after
      (loop.adapter.flushReply nowMs accepted).calls) := by
  cases accepted with
  | true =>
    obtain ⟨timer, queue, holdoff, actions, timeoutMs, requests, htail, hrequests, hcalls⟩ :=
      flushReply_sent hsize (h.headItem_valid hsize) nowMs
    rw [hcalls]
    refine h.rescheduled hrun (after_adapter _ _) (after_scheduled _ _ _ _ hrequests) rfl rfl rfl
      rfl rfl rfl fun item hitem => ?_
    rw [htail] at hitem
    exact List.mem_of_mem_tail hitem
  | false =>
    have hreg : loop.registered = true := by simpa using hg
    obtain ⟨hidCid, message, hcalls⟩ := flushReply_refused hsize (h.headItem_valid hsize) nowMs
    rw [hcalls]
    exact ⟨h.initialized, h.period, h.scheduler_running, h.registered,
      fun _ => Or.inl (h.registered.symm.trans hreg), h.exclusive, h.stopped, h.replies⟩

theorem flushPeriodic_inv (h : Inv loop) (hrun : loop.adapter.running = true) (nowMs : UInt32)
    (state : State) {accepted : Bool}
    (hg : loop.adapter.periodicHoldoffUntilUs ≤ readingUs nowMs →
      accepted = true ∧ loop.adapter.scheduler.nextDeadlineUs ≤ readingUs nowMs) :
    Inv ({ loop with requested := false }.after
      (loop.adapter.flushPeriodic nowMs state accepted).calls) := by
  by_cases hheld : loop.adapter.periodicHoldoffUntilUs ≤ readingUs nowMs
  · obtain ⟨rfl, hdue⟩ := hg hheld
    obtain ⟨scheduler, actions, timeoutMs, hperiod, hsched, hcalls⟩ :=
      flushPeriodic_sent h.period (h.scheduler_running.trans hrun) hheld hdue state
    rw [hcalls, ← List.append_nil (actions ++ _)]
    exact h.rescheduled hrun (after_adapter _ _) (after_scheduled _ _ _ _ (by simp)) rfl hperiod
      hsched rfl rfl rfl fun _ hitem => hitem
  · obtain ⟨timeoutMs, hcalls⟩ := flushPeriodic_held (UInt64.not_le.1 hheld) state accepted
    rw [hcalls]
    exact h.rescheduled hrun rfl rfl rfl rfl rfl rfl rfl rfl fun _ hitem => hitem

theorem canSendNow_inv (h : Inv loop) (timeMs : Nat) (state : State) (accepted : Bool)
    (hg : Rearms loop (.canSendNow timeMs state accepted)) :
    Inv (loop.step (.canSendNow timeMs state accepted)) := by
  by_cases hreq : loop.requested = true
  · rw [step_canSendNow hreq]
    unfold onCanSendNow
    split_ifs with hstopped hneutral hsize hcan
    · have hrun : loop.adapter.running = false := by simpa using hstopped
      exact ⟨h.initialized, h.period, h.scheduler_running, h.registered,
        fun hrun' => absurd (hrun.symm.trans hrun') (by simp), h.exclusive, h.stopped, h.replies⟩
    · exact flushNeutral_inv h (by simpa using hstopped) _ accepted
    all_goals
      have hrun : loop.adapter.running = true := by simpa using hstopped
      have hguard := hg hreq hrun (by simpa using hneutral)
    · exact flushReply_inv h hrun hsize _ (hguard.1 hsize)
    · -- nothing to send: the timer is registered
      have hcan : loop.adapter.canSendPending = false := by simpa using hcan
      refine ⟨h.initialized, h.period, h.scheduler_running, h.registered, ?_, h.exclusive,
        h.stopped, h.replies⟩
      intro _
      rcases h.woken hrun with htimer | ⟨hcan', -⟩
      · exact Or.inl htimer
      · exact absurd (hcan.symm.trans hcan') (by simp)
    · exact flushPeriodic_inv h hrun _ state (hguard.2 (by omega) (by simpa using hcan))
  · have hstep : loop.step (.canSendNow timeMs state accepted) = loop := by
      simp [step, deliver, hreq]
    rw [hstep]
    exact h

/-- A can-send event that the guard excludes leaves no wake-up. -/
theorem rearms_of_wakeUp (h : Inv loop) (timeMs : Nat) (state : State) (accepted : Bool)
    (hw : WakeUp (loop.step (.canSendNow timeMs state accepted))) :
    Rearms loop (.canSendNow timeMs state accepted) := by
  intro hreq hrun hneutral
  rw [step_canSendNow hreq] at hw
  unfold onCanSendNow at hw
  rw [if_neg (by simp [hrun]), if_neg (by simp [hneutral])] at hw
  constructor
  · intro hsize
    rw [if_pos hsize] at hw
    cases accepted with
    | true => exact Or.inl rfl
    | false =>
      obtain ⟨hidCid, message, hcalls⟩ :=
        flushReply_refused hsize (h.headItem_valid hsize) (clockMs timeMs)
      rw [hcalls] at hw
      rcases hw hrun with hreg | hreq'
      · exact Or.inr hreg
      · exact absurd hreq' (by simp [after, perform])
  · intro hsize hcan hheld
    rw [if_neg (by omega), if_neg (by simp [hcan])] at hw
    by_contra hmissed
    obtain ⟨scheduler, actions, hquiet, hcalls⟩ := flushPeriodic_missed h.period
      (h.scheduler_running.trans hrun) hheld state hmissed
    rw [hcalls, after_quiet _ _ hquiet] at hw
    have hreg : loop.registered = false := h.registered.trans (h.exclusive hcan)
    rcases hw hrun with hreg' | hreq'
    · exact absurd (hreg.symm.trans hreg') (by simp)
    · exact absurd hreq' (by simp)

/-! ## Runs -/

/-- **Step lemma**: an event that meets the guard keeps the invariant. -/
theorem step_inv (h : Inv loop) (event : Event) (hg : Rearms loop event) :
    Inv (loop.step event) := by
  cases event with
  | start hidCid timeMs => exact start_inv h hidCid timeMs
  | timer timeMs => exact timer_inv h timeMs
  | canSendNow timeMs state accepted => exact canSendNow_inv h timeMs state accepted hg
  | enqueueSubcommandReply hidCid report => exact enqueueSubcommandReply_inv h hidCid report
  | sendNeutralNow accepted => exact sendNeutralNow_inv h accepted
  | stop => exact stop_inv h

theorem step_exact (h : Inv loop) (event : Event) (hw : WakeUp (loop.step event)) :
    Rearms loop event := by
  cases event with
  | canSendNow timeMs state accepted => exact rearms_of_wakeUp h timeMs state accepted hw
  | _ => trivial

/-- **When a wake-up stays outstanding.** From a fresh adapter, over any sequence of events with
any times, reports and answers of the HID sender: after each event of the run a wake-up of the
running adapter is outstanding, if and only if every event meets `Rearms`. -/
theorem wakeUp_iff_rearms {reportPeriodUs : UInt32} {reportOptions : ReportOptions}
    {adapter : TimerAdapter} (h : TimerAdapter.init reportPeriodUs reportOptions = .ok adapter)
    (events : List Event) :
    (∀ before, before <+: events → WakeUp (Runs.run step (ofAdapter adapter) before)) ↔
      Runs.AllSteps step Rearms (ofAdapter adapter) events :=
  Runs.run_forall_iff_allSteps (P := Inv) (fun _ hinv => hinv.wakeUp)
    (fun _ event hinv hg => step_inv hinv event hg)
    (fun _ event hinv hw => step_exact hinv event hw) (init_inv h) events

/-- The adapter with the default options of the daemon. -/
theorem wakeUp_iff_rearms_default :
    ∃ adapter, TimerAdapter.init 8000 ⟨0, 0x8E, 0x80⟩ = .ok adapter ∧
      ∀ events, (∀ before, before <+: events →
          WakeUp (Runs.run step (ofAdapter adapter) before)) ↔
        Runs.AllSteps step Rearms (ofAdapter adapter) events :=
  ⟨_, rfl, wakeUp_iff_rearms (show TimerAdapter.init 8000 ⟨0, 0x8E, 0x80⟩ = _ from rfl)⟩

/-- One refused periodic report stalls the adapter: it runs, its timer is not registered and no
can-send event is requested. -/
theorem refused_report_stalls :
    ∃ adapter, TimerAdapter.init 8000 ⟨0, 0x8E, 0x80⟩ = .ok adapter ∧
      ¬ WakeUp (Runs.run step (ofAdapter adapter)
        [.start 1 0, .timer 8, .canSendNow 8 State.neutral false]) := by
  refine ⟨_, rfl, ?_⟩
  intro hw
  have hstalled := hw rfl
  revert hstalled
  decide

end ReportLoop

end Swbt
