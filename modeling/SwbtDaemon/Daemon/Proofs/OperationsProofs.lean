import SwbtDaemon.Daemon.Proofs.UpdatesProofs
import SwbtDaemon.Domain.Proofs.TickProofs

/-!
# Proofs: the events of the daemon as operations of its domain

Whatever the daemon does to its domain is a sequence of domain operations: those of the IPC, and
those of the host, which record the periodic reports and the output reports.
-/

namespace Swbt

open Ipc

/-! ## The ticks of the adapter -/

namespace TimerAdapter

variable {adapter : TimerAdapter}

theorem ticks_append (actions actions' : List Action) :
    Action.ticks (actions ++ actions') = Action.ticks actions ++ Action.ticks actions' :=
  List.filterMap_append

theorem ticks_eq_nil {actions : List Action}
    (h : ∀ action ∈ actions, ∀ nowUs sent, action ≠ .reportTick nowUs sent) :
    Action.ticks actions = [] := by
  refine List.filterMap_eq_nil_iff.2 fun action hmem => ?_
  cases action with
  | reportTick nowUs sent => exact absurd rfl (h _ hmem nowUs sent)
  | _ => rfl

theorem sendNeutralReport_ticks (adapter : TimerAdapter) (accepted : Bool) :
    Action.ticks (adapter.sendNeutralReport accepted).actions = [] := by
  rw [sendNeutralReport_eq]
  cases accepted <;> rfl

theorem flushNeutral_ticks (adapter : TimerAdapter) (nowMs : UInt32) (accepted : Bool) :
    Action.ticks (adapter.flushNeutral nowMs accepted).actions = [] := by
  have hneutral := sendNeutralReport_ticks adapter accepted
  unfold flushNeutral cancelPendingTimer
  dsimp only
  split_ifs
  · rw [ticks_append, hneutral]
    rfl
  · dsimp only [scheduleNextTimer]
    rw [ticks_append, ticks_append, hneutral]
    rfl
  · dsimp only [scheduleNextTimer]
    rw [ticks_append, ticks_append, hneutral]
    rfl

theorem flushReply_ticks (adapter : TimerAdapter) (nowMs : UInt32) (accepted : Bool) :
    Action.ticks (adapter.flushReply nowMs accepted).actions = [] := by
  obtain ⟨sent, timer, actions, hactions, hsend⟩ := sendHidpInputReport_cases adapter
    adapter.replyQueue.headItem.hidCid adapter.replyQueue.headItem.report accepted
  have hnone : Action.ticks actions = [] := by
    refine ticks_eq_nil fun action hmem nowUs sent => ?_
    rw [hactions action hmem]
    simp
  have hheld : ∀ (after : TimerAdapter),
      Action.ticks (after.holdoffPeriodicAfterReply (readingUs nowMs)).actions = [] := by
    intro after
    obtain ⟨timeoutMs, heq⟩ := holdoffPeriodicAfterReply_eq after (readingUs nowMs)
    rw [heq]
    dsimp only
    split <;> rfl
  unfold flushReply
  dsimp only
  rw [hsend]
  dsimp only
  split_ifs
  · exact hnone
  · rw [ticks_append, hnone, hheld]
    rfl
  · rw [ticks_append, ticks_append, hnone, hheld]
    rfl
  · rw [ticks_append, ticks_append, hnone, hheld]
    rfl

/-- The scheduler reports the answer of the HID sender exactly when it gives a report to it. -/
theorem tick_reported (scheduler : Scheduler) (nowUs : UInt64) (state : State) (accepted : Bool) :
    (∃ result, scheduler.tick nowUs state accepted = (result, scheduler, none) ∧
        notifyReportTick nowUs result = []) ∨
      ∃ scheduler', scheduler.tick nowUs state accepted =
        (if accepted then .ok else .sendFailed, scheduler',
          some (fullReport state scheduler.currentOptions)) := by
  unfold Scheduler.tick
  rw [buildStandardFullReport_eq]
  split
  · exact Or.inl ⟨_, rfl, rfl⟩
  split
  · exact Or.inl ⟨_, rfl, rfl⟩
  split
  · exact Or.inl ⟨_, rfl, rfl⟩
  · cases accepted <;> exact Or.inr ⟨_, rfl⟩

/-- A periodic report is a tick when it is given to the HID sender. -/
theorem flushPeriodic_ticks (adapter : TimerAdapter) (nowMs : UInt32) (state : State)
    (accepted : Bool) :
    Action.ticks (adapter.flushPeriodic nowMs state accepted).actions =
      (Action.attempts (adapter.flushPeriodic nowMs state accepted).actions).map fun _ =>
        (readingUs nowMs, Metrics.ReportSendResult.ofSent accepted) := by
  unfold flushPeriodic
  dsimp only
  split
  · rfl
  rcases tick_reported adapter.scheduler (readingUs nowMs) state accepted with
    ⟨result, htick, hsilent⟩ | ⟨scheduler, htick⟩
  · rw [htick]
    dsimp only [schedulerSends]
    rw [hsilent]
    split <;> rfl
  · rw [htick]
    dsimp only [schedulerSends]
    rw [sendHidpInputReport_full]
    cases accepted <;> rfl

/-- **The ticks of a can-send event** are the periodic reports that it gives to the HID sender. -/
theorem canSendNow_ticks (adapter : TimerAdapter) (timeMs : Nat) (state : State)
    (accepted : Bool) :
    adapter.ticks (.canSendNow timeMs state accepted) =
      if adapter.neutralSendPending ∨ adapter.replyQueue.size > 0 then []
      else (adapter.attempts (.canSendNow timeMs state accepted)).map fun _ =>
        (readingUs (ReportLoop.clockMs timeMs), Metrics.ReportSendResult.ofSent accepted) := by
  unfold ticks attempts ReportLoop.handle onCanSendNow
  dsimp only [Handled.calls]
  by_cases hpending : adapter.neutralSendPending = true
  · rw [if_pos (Or.inl hpending), if_pos hpending]
    split_ifs
    · rfl
    · exact flushNeutral_ticks adapter _ accepted
  by_cases hsize : adapter.replyQueue.size > 0
  · rw [if_pos (Or.inr hsize), if_neg hpending, if_pos hsize]
    split_ifs
    · rfl
    · exact flushReply_ticks adapter _ accepted
  rw [if_neg (not_or.2 ⟨hpending, hsize⟩), if_neg hpending, if_neg hsize]
  split_ifs
  · rfl
  · rfl
  · exact flushPeriodic_ticks adapter _ state accepted

/-- Only can-send events have ticks. -/
theorem ticks_of_ne {event : ReportLoop.Event}
    (h : ∀ timeMs state accepted, event ≠ .canSendNow timeMs state accepted) :
    adapter.ticks event = [] := by
  cases event with
  | start hidCid timeMs =>
    unfold ticks ReportLoop.handle start
    dsimp only [Handled.calls]
    split_ifs <;> rfl
  | timer timeMs =>
    unfold ticks ReportLoop.handle onTimer
    dsimp only [Handled.calls]
    split_ifs <;> rfl
  | canSendNow timeMs state accepted => exact absurd rfl (h timeMs state accepted)
  | enqueueSubcommandReply hidCid report =>
    unfold ticks ReportLoop.handle enqueueSubcommandReply
    dsimp only [Handled.calls]
    split_ifs <;> rfl
  | sendNeutralNow accepted =>
    have hneutral := sendNeutralReport_ticks adapter accepted
    unfold ticks ReportLoop.handle sendNeutralNow
    dsimp only [Handled.calls]
    split_ifs
    · rfl
    · rw [ticks_append, hneutral]
      rfl
    · exact hneutral
  | stop => exact Host.ticks_stop adapter

end TimerAdapter

/-! ## The operations of the IPC -/

namespace Production

/-- The domain `after` is the domain `app` after operations of the IPC. -/
def AfterIpc (app after : Domain) : Prop :=
  ∃ ops, (∀ op ∈ ops, op.ofIpc = true) ∧ after = Runs.run Domain.step app ops

theorem AfterIpc.refl (app : Domain) : AfterIpc app app := ⟨[], by simp, rfl⟩

theorem afterIpc_of_op (app : Domain) {op : Domain.Op} (h : op.ofIpc = true) :
    AfterIpc app (app.step op) := ⟨[op], by simpa using h, rfl⟩

theorem afterIpc_of_byClient {control after : Control} {clientId : UInt32}
    (h : ByClient control clientId after) : AfterIpc control.app after.app := by
  rcases h with rfl | ⟨op, hop, rfl⟩
  · exact .refl _
  · refine afterIpc_of_op control.app ?_
    cases hop <;> rfl

theorem serve_afterIpc [Platform] (control : Control) (connection : Connection)
    (heartbeat : Option UInt64) (io : ServeIo) :
    AfterIpc control.app
      (serveConnectionOnceInternal control connection heartbeat io).control.app := by
  by_cases hlive : connection.Live
  · have hserve : (serveConnectionOnceInternal control connection heartbeat io).Drops control
          connection ∨
        (serveConnectionOnceInternal control connection heartbeat io).Keeps control connection :=
      serve_cases hlive heartbeat io
    rcases hserve with ⟨-, hcontrol, -⟩ | hkeeps
    · rw [hcontrol]
      exact afterIpc_of_op control.app
        (rfl : (Domain.Op.revoke .disconnect connection.clientId).ofIpc = true)
    · exact afterIpc_of_byClient hkeeps.2.2.2.2
  · rw [serve_of_not_live hlive]
    exact .refl _

/-- **A poll** is operations of the IPC. -/
theorem poll_afterIpc [Platform] (runner : IpcRunner) (control : Control) (nowMs : UInt64)
    (io : IpcRunner.PollIo) :
    AfterIpc control.app (runner.pollOnceAt control nowMs io).control.app := by
  have hserve := serve_afterIpc control runner.connection (some nowMs) io.serve
  unfold IpcRunner.pollOnceAt
  split
  · exact .refl _
  split
  · split <;> exact .refl _
  split
  · exact .refl _
  · unfold IpcRunner.checkHeartbeat
    by_cases hdue : runner.connection.HeartbeatDue nowMs
    · rw [checkHeartbeat_of_due hdue]
      exact afterIpc_of_op control.app
        (rfl : (Domain.Op.revoke .heartbeatTimeout runner.connection.clientId).ofIpc = true)
    · rw [checkHeartbeat_of_not_due hdue]
      exact .refl _
  · unfold IpcRunner.serveConnection IpcRunner.afterServe
    split_ifs <;> exact hserve

/-! ## Events -/

variable {s : Shutdown Host} {event : Event}

/-- The ticks of the calls of an event are the periodic reports that it gives to the HID sender. -/
theorem emitted_ticks [Platform] (s : Shutdown Host) (event : Event) :
    Runs.emitted TimerAdapter.after TimerAdapter.ticks s.host.adapter (adapterCalls s event) =
      periodicReports s event := by
  have hne : ∀ calls : List ReportLoop.Event,
      (∀ call ∈ calls, ∀ timeMs state accepted, call ≠ .canSendNow timeMs state accepted) →
      Runs.emitted TimerAdapter.after TimerAdapter.ticks s.host.adapter calls = [] := by
    intro calls hcalls
    have hnone : ∀ tick ∈ Runs.emitted TimerAdapter.after TimerAdapter.ticks s.host.adapter calls,
        False :=
      Runs.forall_mem_emitted (P := fun _ => True) (Q := fun _ => False)
        (g := fun _ call => ∀ timeMs state accepted, call ≠ .canSendNow timeMs state accepted)
        (fun adapter call _ hcall => ⟨trivial, by
          rw [TimerAdapter.ticks_of_ne hcall]
          exact fun _ => List.not_mem_nil⟩) trivial
        (Runs.allSteps_of_forall (fun _ => hcalls) _)
    exact List.eq_nil_iff_forall_not_mem.2 fun tick hmem => hnone tick hmem
  cases event with
  | shutdown event =>
    cases event with
    | canSendNow input answer =>
      have hperforms : Host.Performs (adapterCalls s (.shutdown (.canSendNow input answer)))
          (baseHost s (.shutdown (.canSendNow input answer)))
          (step s (.shutdown (.canSendNow input answer))).host :=
        step_performs s (by simp)
      have hsends : (step s (.shutdown (.canSendNow input answer))).host.sends =
          (Runs.emitted TimerAdapter.after TimerAdapter.attempts s.host.adapter
            (adapterCalls s (.shutdown (.canSendNow input answer)))).map Attempt.message :=
        hperforms.sends
      unfold periodicReports
      dsimp only
      rw [hsends, List.map_map]
      unfold adapterCalls
      dsimp only
      by_cases hset : s.reportTimerInitialized = true
      · rw [if_pos hset]
        simp only [Runs.emitted, List.append_nil]
        rw [TimerAdapter.canSendNow_ticks]
        rfl
      · rw [if_neg hset]
        simp [Runs.emitted]
    | callback input answer =>
      refine hne _ fun call hmem => ?_
      simp only [adapterCalls] at hmem
      split_ifs at hmem
      · obtain rfl := List.mem_singleton.1 hmem
        simp
      · exact absurd hmem List.not_mem_nil
    | opened status hidCid input =>
      refine hne _ fun call hmem => ?_
      simp only [adapterCalls] at hmem
      split_ifs at hmem
      · obtain rfl := List.mem_singleton.1 hmem
        simp
      · exact absurd hmem List.not_mem_nil
    | _ => rfl
  | reportTimer timeMs =>
    refine hne _ fun call hmem => ?_
    obtain rfl := List.mem_singleton.1 hmem
    simp
  | outputReport hidCid report deviceInfo timeMs =>
    refine hne _ fun call hmem => ?_
    obtain ⟨reply, -, rfl⟩ := List.mem_map.1 hmem
    simp
  | poll timeMs io => rfl

theorem hostOps_not_ofIpc [Platform] (s : Shutdown Host) (event : Event) :
    (hostOps s event).filter (fun op => !op.ofIpc) = hostOps s event := by
  refine List.filter_eq_self.2 fun op hmem => ?_
  rcases List.mem_append.1 hmem with hown | htick
  · unfold ownOps at hown
    split at hown
    · split_ifs at hown
      · obtain rfl := List.mem_singleton.1 hown
        rfl
      · exact absurd hown List.not_mem_nil
    · obtain rfl := List.mem_singleton.1 hown
      rfl
    · exact absurd hown List.not_mem_nil
  · obtain ⟨tick, -, rfl⟩ := List.mem_map.1 htick
    rfl

/-- **Step lemma**: an event is operations of the domain: those of the host, with operations of the
IPC in between. -/
theorem step_ops [Platform] (s : Shutdown Host) (event : Event) :
    ∃ ops, (step s event).host.sys.control.app = Runs.run Domain.step s.host.sys.control.app ops ∧
      ops.filter (fun op => !op.ofIpc) = hostOps s event := by
  by_cases hpoll : ∃ timeMs io, event = .poll timeMs io
  · obtain ⟨timeMs, io, rfl⟩ := hpoll
    obtain ⟨ops, hipc, happ⟩ := poll_afterIpc s.host.sys.runner s.host.sys.control
      (IpcRunner.clockReading timeMs) io
    refine ⟨ops, happ, ?_⟩
    exact List.filter_eq_nil_iff.2 fun op hmem => by simp [hipc op hmem]
  · have hperforms := step_performs s fun timeMs io heq => hpoll ⟨timeMs, io, heq⟩
    refine ⟨hostOps s event, ?_, hostOps_not_ofIpc s event⟩
    rw [hperforms.app, hostOps, Runs.run_append, ← emitted_ticks]
    rfl

/-- **The daemon refines its domain**: over a run, the domain does the operations of the host, in
the order of the events, with operations of the IPC in between. -/
theorem run_ops [Platform] (s : Shutdown Host) (events : List Event) :
    ∃ ops, (Runs.run step s events).host.sys.control.app =
        Runs.run Domain.step s.host.sys.control.app ops ∧
      ops.filter (fun op => !op.ofIpc) = Runs.emitted step hostOps s events :=
  Runs.run_refines hostOps (fun s : Shutdown Host => s.host.sys.control.app)
    (List.filter fun op => !op.ofIpc) rfl (fun _ _ => List.filter_append _ _) step_ops s events

end Production

end Swbt
