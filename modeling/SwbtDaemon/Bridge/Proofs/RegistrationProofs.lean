import SwbtDaemon.Bridge.Proofs.TimerAdapterProofs
import SwbtDaemon.Bridge.Registration

/-!
# Proofs: the timer is registered when the adapter says so

`Keeps` is what a handler does to the timer list when `timer_pending` was right before it: it never
misuses the timer, and `timer_pending` is right again. The run theorem follows by induction.
-/

namespace Swbt

namespace Registration

open ReportLoop (Event handle clockMs)
open TimerAdapter

/-- The calls of a handler keep `timerPending` right, which was `pending` before. -/
structure Keeps (pending : Bool) (adapter : TimerAdapter) (calls : TimerAdapter × List Action) :
    Prop where
  timers : calls.2.foldl TimerList.perform ⟨pending, false⟩ = ⟨calls.1.timerPending, false⟩
  running : calls.1.running = adapter.running
  /-- A periodic report that waits for its can-send event has no timer. -/
  exclusive : calls.1.canSendPending = true → calls.1.timerPending = false

variable {adapter : TimerAdapter} {pending : Bool}

/-- Calls without effect on the timer list. -/
theorem foldl_perform_quiet {actions : List Action}
    (h : ∀ action ∈ actions, action ≠ .addTimer ∧ action ≠ .removeTimer) (timers : TimerList) :
    actions.foldl TimerList.perform timers = timers := by
  induction actions with
  | nil => rfl
  | cons action actions ih =>
    obtain ⟨hadd, hremove⟩ := h action List.mem_cons_self
    have hsame : timers.perform action = timers := by
      cases action with
      | addTimer => exact absurd rfl hadd
      | removeTimer => exact absurd rfl hremove
      | _ => rfl
    rw [List.foldl_cons, hsame]
    exact ih fun a ha => h a (List.mem_cons_of_mem action ha)

/-- The timer is taken out of the list when it is there, and put in again. -/
theorem foldl_perform_rescheduled (pending : Bool) {sends : List Action}
    (hsends : ∀ action ∈ sends, action ≠ .addTimer ∧ action ≠ .removeTimer) (timeoutMs : UInt32) :
    (sends ++ (if pending then [Action.removeTimer] else []) ++
        [Action.setTimer timeoutMs, .addTimer]).foldl TimerList.perform ⟨pending, false⟩ =
      ⟨true, false⟩ := by
  rw [List.foldl_append, List.foldl_append, foldl_perform_quiet hsends]
  cases pending with
  | false => rfl
  | true => rfl

/-! ## The handlers -/

theorem Keeps.nothing (hexclusive : adapter.canSendPending = true → adapter.timerPending = false)
    (result : Result) : Keeps adapter.timerPending adapter (Handled.calls ⟨result, adapter, []⟩) :=
  ⟨rfl, rfl, hexclusive⟩

theorem sendNeutralNow_keeps
    (hexclusive : adapter.canSendPending = true → adapter.timerPending = false)
    (accepted : Bool) :
    Keeps adapter.timerPending adapter (adapter.sendNeutralNow accepted).calls := by
  obtain ⟨timer, message, -, hsend⟩ := sendNeutralReport_spec adapter accepted
  unfold sendNeutralNow
  split
  · exact .nothing hexclusive _
  · rw [hsend]
    cases accepted with
    | false => exact ⟨rfl, rfl, hexclusive⟩
    | true => exact ⟨rfl, rfl, hexclusive⟩

theorem enqueueSubcommandReply_keeps
    (hexclusive : adapter.canSendPending = true → adapter.timerPending = false)
    (hidCid : UInt16) (report : List UInt8) :
    Keeps adapter.timerPending adapter (adapter.enqueueSubcommandReply hidCid report).calls := by
  unfold enqueueSubcommandReply
  split
  · exact .nothing hexclusive _
  · split
    · exact .nothing hexclusive _
    · dsimp only
      split
      · exact ⟨rfl, rfl, hexclusive⟩
      · exact ⟨rfl, rfl, hexclusive⟩

theorem flushNeutral_keeps
    (hexclusive : adapter.canSendPending = true → adapter.timerPending = false)
    (nowMs : UInt32) (accepted : Bool) :
    Keeps adapter.timerPending adapter (adapter.flushNeutral nowMs accepted).calls := by
  obtain ⟨timer, message, -, hsend⟩ := sendNeutralReport_spec adapter accepted
  unfold flushNeutral
  rw [hsend]
  cases accepted with
  | false => exact ⟨rfl, rfl, hexclusive⟩
  | true =>
    simp only [if_true, ne_eq, not_true_eq_false, if_false, cancelPendingTimer_eq]
    refine ⟨?_, rfl, (nomatch ·)⟩
    have hsends : ∀ action ∈ [Action.send adapter.hidCid message true],
        action ≠ .addTimer ∧ action ≠ .removeTimer := by simp
    exact foldl_perform_rescheduled adapter.timerPending hsends _

theorem flushReply_keeps
    (hexclusive : adapter.canSendPending = true → adapter.timerPending = false)
    (nowMs : UInt32) (accepted : Bool) :
    Keeps adapter.timerPending adapter (adapter.flushReply nowMs accepted).calls := by
  obtain ⟨sent, timer, actions, hactions, hsend⟩ := sendHidpInputReport_cases adapter
    adapter.replyQueue.headItem.hidCid adapter.replyQueue.headItem.report accepted
  have hquiet : ∀ action ∈ actions, action ≠ .addTimer ∧ action ≠ .removeTimer := by
    intro action haction
    rw [hactions action haction]
    exact ⟨by simp, by simp⟩
  obtain ⟨timeoutMs, hheld⟩ := holdoffPeriodicAfterReply_eq
    { adapter with
      scheduler := { adapter.scheduler with timer := timer }
      replyQueue := (adapter.replyQueue.sendNext sent).2 } (readingUs nowMs)
  unfold flushReply
  simp only [hsend, hheld, ne_eq, not_true_eq_false, if_false]
  split
  · exact ⟨foldl_perform_quiet hquiet _, rfl, hexclusive⟩
  · refine ⟨?_, rfl, (nomatch ·)⟩
    dsimp only [Handled.calls]
    rw [List.foldl_append, ← List.append_assoc, foldl_perform_rescheduled _ hquiet]
    refine foldl_perform_quiet ?_ _
    intro action haction
    split at haction
    · rw [List.mem_singleton.1 haction]
      exact ⟨by simp, by simp⟩
    · exact absurd haction List.not_mem_nil

theorem flushPeriodic_keeps (hpending : adapter.timerPending = false) (nowMs : UInt32)
    (state : State) (accepted : Bool) :
    Keeps adapter.timerPending adapter (adapter.flushPeriodic nowMs state accepted).calls := by
  unfold flushPeriodic
  dsimp only
  split
  · rw [hpending]
    exact ⟨rfl, rfl, (nomatch ·)⟩
  · generalize adapter.scheduler.tick (readingUs nowMs) state accepted = ticked
    obtain ⟨result, scheduler, report⟩ := ticked
    have hquiet : ∀ action ∈ adapter.schedulerSends report accepted ++
        notifyReportTick (readingUs nowMs) result, action ≠ .addTimer ∧ action ≠ .removeTimer :=
      fun action haction => (periodic_quiet adapter report accepted _ result action haction).timers
    dsimp only
    split
    · exact ⟨foldl_perform_quiet hquiet _, rfl, (nomatch ·)⟩
    · refine ⟨?_, rfl, (nomatch ·)⟩
      have htimers := foldl_perform_rescheduled false hquiet
      rw [hpending]
      simp only [Bool.false_eq_true, if_false, List.append_nil] at htimers
      exact htimers _

theorem onCanSendNow_keeps
    (hexclusive : adapter.canSendPending = true → adapter.timerPending = false)
    (nowMs : UInt32) (state : State) (accepted : Bool) :
    Keeps adapter.timerPending adapter (adapter.onCanSendNow nowMs state accepted).calls := by
  unfold onCanSendNow
  split
  · exact .nothing hexclusive _
  · split
    · exact flushNeutral_keeps hexclusive nowMs accepted
    · split
      · exact flushReply_keeps hexclusive nowMs accepted
      · split
        · exact .nothing hexclusive _
        · rename_i hcan
          exact flushPeriodic_keeps (hexclusive (by simpa using hcan)) nowMs state accepted

/-- The timer has just been taken out of the list. -/
theorem onTimer_keeps (hrunning : adapter.running = true) (hcan : adapter.canSendPending = false)
    (nowMs : UInt32) : Keeps false adapter (adapter.onTimer nowMs).calls := by
  unfold onTimer
  rw [if_neg (by simp [hrunning])]
  dsimp only
  split
  · exact ⟨rfl, rfl, fun h => absurd (hcan.symm.trans h) (by simp)⟩
  · exact ⟨rfl, rfl, fun _ => rfl⟩

/-! ## Runs -/

/-- The invariant of the adapter and the timer list. -/
structure Inv (state : Registration) : Prop where
  timers : state.timers = ⟨state.adapter.timerPending, false⟩
  exclusive : state.adapter.canSendPending = true → state.adapter.timerPending = false
  stopped : state.adapter.running = false → state.adapter.timerPending = false

variable {state : Registration}

/-- The calls of a handler of a running adapter. -/
theorem Keeps.inv (hrunning : state.adapter.running = true) {calls : TimerAdapter × List Action}
    (h : Keeps pending state.adapter calls) :
    Inv (after ⟨pending, false⟩ calls) ∧
      (after ⟨pending, false⟩ calls).adapter.running = state.adapter.running := by
  refine ⟨⟨h.timers, h.exclusive, fun hstopped => ?_⟩, h.running⟩
  have hfalse : false = true := hstopped.symm.trans (h.running.trans hrunning)
  exact absurd hfalse (by simp)

/-- A start of an adapter that does not run. -/
theorem start_inv (h : Inv state) (hrunning : state.adapter.running = false) (hidCid : UInt16)
    (timeMs : Nat) : Inv (state.step (.start hidCid timeMs)) := by
  have htimers : state.timers = ⟨false, false⟩ := by rw [h.timers, h.stopped hrunning]
  have hstep : state.step (.start hidCid timeMs) =
      after state.timers (state.adapter.start hidCid (readingUs (clockMs timeMs))).calls := rfl
  rw [hstep, htimers]
  unfold TimerAdapter.start Scheduler.start
  by_cases hinit : (!state.adapter.initialized) = true
  · rw [if_pos hinit]
    exact ⟨by rw [← htimers]; exact h.timers, h.exclusive, h.stopped⟩
  · rw [if_neg hinit]
    by_cases hvalid : (!state.adapter.scheduler.isValid) = true
    · rw [if_pos hvalid]
      exact ⟨by rw [← htimers]; exact h.timers, h.exclusive, h.stopped⟩
    · rw [if_neg hvalid]
      exact ⟨rfl, (nomatch ·), (nomatch ·)⟩

theorem stop_inv (h : Inv state) :
    Inv (state.step .stop) ∧ (state.step .stop).adapter.running = false := by
  have hstep : state.step .stop = after state.timers state.adapter.stop := rfl
  rw [hstep, h.timers, stop_eq]
  cases state.adapter.timerPending with
  | false => exact ⟨⟨rfl, (nomatch ·), fun _ => rfl⟩, rfl⟩
  | true => exact ⟨⟨rfl, (nomatch ·), fun _ => rfl⟩, rfl⟩

/-- The timer is called only while it is registered, so that `timer_pending` is set. -/
theorem timer_inv (h : Inv state) (hrunning : state.adapter.running = true) (timeMs : Nat) :
    Inv (state.step (.timer timeMs)) ∧
      (state.step (.timer timeMs)).adapter.running = state.adapter.running := by
  by_cases hregistered : state.timers.registered = true
  · have hpending : state.adapter.timerPending = true := by
      rw [h.timers] at hregistered
      exact hregistered
    have hcan : state.adapter.canSendPending = false := by
      by_contra hcan
      have hnot := h.exclusive (by simpa using hcan)
      rw [hpending] at hnot
      exact absurd hnot (by simp)
    have hstep : state.step (.timer timeMs) =
        after ⟨false, false⟩ (state.adapter.onTimer (clockMs timeMs)).calls := by
      unfold step
      dsimp only
      rw [if_pos hregistered, h.timers]
      rfl
    rw [hstep]
    exact (onTimer_keeps hrunning hcan _).inv hrunning
  · have hstep : state.step (.timer timeMs) = state := if_neg hregistered
    rw [hstep]
    exact ⟨h, rfl⟩

/-- An adapter that does not run ignores every event but a start and a stop. -/
theorem step_of_stopped (h : Inv state) (hstopped : state.adapter.running = false) {event : Event}
    (hstart : ∀ hidCid timeMs, event ≠ .start hidCid timeMs) (hstop : event ≠ .stop) :
    state.step event = state := by
  have hhandle := handle_of_stopped hstopped hstart hstop
  have hunregistered : ¬ state.timers.registered = true := by
    rw [h.timers, h.stopped hstopped]
    simp
  unfold step
  split
  · exact if_neg hunregistered
  · rw [hhandle]
    rfl

/-- **Step lemma**: every other event keeps the invariant, and the adapter running or not. -/
theorem step_inv (h : Inv state) {event : Event}
    (hstart : ∀ hidCid timeMs, event ≠ .start hidCid timeMs) (hstop : event ≠ .stop) :
    Inv (state.step event) ∧ (state.step event).adapter.running = state.adapter.running := by
  by_cases hrunning : state.adapter.running = true
  · cases event with
    | start hidCid timeMs => exact absurd rfl (hstart hidCid timeMs)
    | stop => exact absurd rfl hstop
    | timer timeMs => exact timer_inv h hrunning timeMs
    | canSendNow timeMs gamepad accepted =>
      have hstep : state.step (.canSendNow timeMs gamepad accepted) = after state.timers
        (state.adapter.onCanSendNow (clockMs timeMs) gamepad accepted).calls := rfl
      rw [hstep, h.timers]
      exact (onCanSendNow_keeps h.exclusive _ gamepad accepted).inv hrunning
    | enqueueSubcommandReply hidCid report =>
      have hstep : state.step (.enqueueSubcommandReply hidCid report) = after state.timers
        (state.adapter.enqueueSubcommandReply hidCid report).calls := rfl
      rw [hstep, h.timers]
      exact (enqueueSubcommandReply_keeps h.exclusive hidCid report).inv hrunning
    | sendNeutralNow accepted =>
      have hstep : state.step (.sendNeutralNow accepted) = after state.timers
        (state.adapter.sendNeutralNow accepted).calls := rfl
      rw [hstep, h.timers]
      exact (sendNeutralNow_keeps h.exclusive accepted).inv hrunning
  · rw [step_of_stopped h (by simpa using hrunning) hstart hstop]
    exact ⟨h, rfl⟩

/-- **Run lemma**: an adapter that is started only while no start is open. -/
theorem run_inv {events : List Event} {opened : Bool} (h : Inv state)
    (hopened : state.adapter.running = true → opened = true) (hevents : Alternates opened events) :
    Inv (Runs.run step state events) := by
  induction events generalizing state opened with
  | nil => exact h
  | cons event events ih =>
    rw [Runs.run_cons]
    have hother : (∀ hidCid timeMs, event ≠ .start hidCid timeMs) → event ≠ .stop → _ :=
      step_inv h
    cases event with
    | start hidCid timeMs =>
      obtain ⟨hclosed, hevents⟩ := hevents
      have hrunning : state.adapter.running = false := by
        by_contra hrunning
        have htrue := hopened (by simpa using hrunning)
        rw [hclosed] at htrue
        exact absurd htrue (by simp)
      exact ih (start_inv h hrunning hidCid timeMs) (fun _ => rfl) hevents
    | stop =>
      obtain ⟨hinv, hstopped⟩ := stop_inv h
      refine ih hinv (fun hrunning => ?_) hevents
      rw [hstopped] at hrunning
      exact absurd hrunning (by simp)
    | _ =>
      obtain ⟨hinv, hsame⟩ := hother (by simp) (by simp)
      exact ih hinv (fun hrunning => hopened (hsame.symm.trans hrunning)) hevents

/-- **The timer registration.** After every list of events in which opened and closed events
alternate, whatever the HID sender answers and the clock reads, the timer has never been misused, it
is registered exactly when `timer_pending` is set, and it is not registered after a stop. -/
theorem registered_iff_timerPending {reportPeriodUs : UInt32} {reportOptions : ReportOptions}
    (h : TimerAdapter.init reportPeriodUs reportOptions = .ok adapter) (events : List Event)
    (hevents : Alternates false events) :
    let state := Runs.run step (ofAdapter adapter) events
    (state.timers.registered = true ↔ state.adapter.timerPending = true) ∧
      state.timers.misused = false ∧
      ∀ before, events = before ++ [.stop] → state.timers.registered = false := by
  intro state
  obtain ⟨rfl, -⟩ := init_ok h
  have hinv : Inv state :=
    run_inv ⟨rfl, (nomatch ·), fun _ => rfl⟩ (nomatch ·) hevents
  refine ⟨by rw [hinv.timers], by rw [hinv.timers], ?_⟩
  rintro before rfl
  have hpending : state.adapter.timerPending = false := by
    rw [show state = _ from Runs.run_append ..]
    exact congrArg TimerAdapter.timerPending (congrArg Prod.fst (stop_eq _))
  rw [hinv.timers]
  exact hpending

/-- A reply is sent while the timer is registered, and the adapter is stopped and started again. -/
theorem registered_iff_timerPending_reply :
    ∃ adapter, TimerAdapter.init 8000 ⟨0, 0x8E, 0x80⟩ = .ok adapter ∧
      let state := Runs.run step (ofAdapter adapter)
        [.start 64 0, .enqueueSubcommandReply 64 [0x21, 0], .canSendNow 1 State.neutral true,
          .stop, .start 65 2]
      (state.timers.registered = true ↔ state.adapter.timerPending = true) ∧
        state.timers.misused = false ∧ state.timers.registered = true := by
  refine ⟨_, rfl, ?_⟩
  have hinit : TimerAdapter.init 8000 ⟨0, 0x8E, 0x80⟩ = _ := rfl
  obtain ⟨hregistered, hmisused, -⟩ := registered_iff_timerPending hinit
    [.start 64 0, .enqueueSubcommandReply 64 [0x21, 0], .canSendNow 1 State.neutral true,
      .stop, .start 65 2] ⟨rfl, rfl, trivial⟩
  exact ⟨hregistered, hmisused, hregistered.2 (by decide)⟩

end Registration

end Swbt
