import SwbtDaemon.Bridge.Proofs.DeliveryProofs
import SwbtDaemon.Daemon.EndToEnd
import SwbtDaemon.Daemon.Proofs.ProductionProofs

/-!
# Proofs: an event of the daemon as calls of its adapter

`step_performs` reduces every event but a poll to the calls of the timer adapter.
-/

namespace Swbt

open Ipc

theorem Action.messages_eq (actions : List Action) :
    Action.messages actions = (Action.attempts actions).map Attempt.message := by
  unfold Action.messages Action.attempts
  rw [List.map_filterMap]
  congr 1
  funext action
  cases action <;> rfl

namespace Host

open TimerAdapter (attempts)

/-- The host `after` is the host `before` after the calls `calls` of the adapter and possibly some
stops. Nothing of this touches the runner, and the domain only sees the report ticks. -/
structure Performs (calls : List ReportLoop.Event) (before after : Host) : Prop where
  adapter : ∃ stops, after.adapter =
    Runs.run TimerAdapter.after before.adapter (calls ++ List.replicate stops .stop)
  sends : after.sends = before.sends ++
    (Runs.emitted TimerAdapter.after attempts before.adapter calls).map Attempt.message
  runner : after.sys.runner = before.sys.runner
  app : after.sys.control.app = Runs.run Domain.step before.sys.control.app
    ((Runs.emitted TimerAdapter.after TimerAdapter.ticks before.adapter calls).map Domain.Op.ofTick)
  options : after.reportOptions = before.reportOptions

variable {before host : Host} {calls : List ReportLoop.Event}

theorem Performs.refl (host : Host) : Performs [] host host :=
  ⟨⟨0, rfl⟩, by simp [Runs.emitted], rfl, rfl, rfl⟩

/-- The report ticks leave the lease and the controller state. -/
theorem run_ticks_frame (app : Domain) (ticks : List Metrics.Tick) :
    (Runs.run Domain.step app (ticks.map Domain.Op.ofTick)).lease = app.lease ∧
      (Runs.run Domain.step app (ticks.map Domain.Op.ofTick)).state = app.state := by
  induction ticks generalizing app with
  | nil => exact ⟨rfl, rfl⟩
  | cons tick ticks ih =>
    have hother : (Domain.Op.ofTick tick).event = .other := rfl
    obtain ⟨hlease, hstate⟩ := Domain.step_of_other app hother
    rw [List.map_cons, Runs.run_cons]
    exact ⟨(ih _).1.trans hlease, (ih _).2.trans hstate⟩

theorem Performs.lease (h : Performs calls before host) :
    host.sys.control.app.lease = before.sys.control.app.lease := by
  rw [h.app]
  exact (run_ticks_frame _ _).1

theorem Performs.state (h : Performs calls before host) :
    host.sys.control.app.state = before.sys.control.app.state := by
  rw [h.app]
  exact (run_ticks_frame _ _).2

/-- The domain records the report ticks of a handler. -/
theorem recordTicks_eq (app : Domain) (actions : List Action) :
    recordTicks app actions =
      Runs.run Domain.step app ((Action.ticks actions).map Domain.Op.ofTick) := by
  induction actions generalizing app with
  | nil => rfl
  | cons action actions ih =>
    cases action with
    | reportTick nowUs sent =>
      exact ih (app.recordReportTick nowUs (if sent then .ok else .failed)).2
    | _ => exact ih app

/-- One call of the adapter. -/
theorem performs_after (host : Host) (event : ReportLoop.Event) :
    Performs [event] host (host.after (ReportLoop.handle host.adapter event)) where
  adapter := ⟨0, rfl⟩
  sends := by
    simp only [Host.after, Runs.emitted, List.append_nil, TimerAdapter.attempts, Host.withApp,
      Action.messages_eq]
  runner := rfl
  app := by
    rw [Runs.emitted, Runs.emitted, List.append_nil]
    exact recordTicks_eq _ _
  options := rfl

/-- A call after a change of the domain alone. -/
theorem Performs.call (h : Performs [] before host) (event : ReportLoop.Event)
    (hadapter : host.adapter = before.adapter) :
    Performs [event] before (host.after (ReportLoop.handle host.adapter event)) := by
  have hcall := performs_after host event
  have happ : host.sys.control.app = before.sys.control.app := h.app
  refine ⟨?_, ?_, hcall.runner.trans h.runner, ?_, hcall.options.trans h.options⟩
  · rw [← hadapter]
    exact hcall.adapter
  · rw [hcall.sends, h.sends, hadapter]
    simp [Runs.emitted]
  · rw [hcall.app, happ, hadapter]

/-- A stop of the adapter sends nothing. -/
theorem attempts_stop (adapter : TimerAdapter) : attempts adapter .stop = [] := by
  rw [attempts, ReportLoop.handle, TimerAdapter.stop_eq]
  dsimp only
  split <;> rfl

theorem ticks_stop (adapter : TimerAdapter) : TimerAdapter.ticks adapter .stop = [] := by
  rw [TimerAdapter.ticks, ReportLoop.handle, TimerAdapter.stop_eq]
  dsimp only
  split <;> rfl

theorem Performs.stop (h : Performs calls before host) : Performs calls before host.stop := by
  obtain ⟨stops, hadapter⟩ := h.adapter
  have hstop := performs_after host .stop
  refine ⟨⟨stops + 1, ?_⟩, ?_, hstop.runner.trans h.runner, ?_, hstop.options.trans h.options⟩
  · rw [List.replicate_succ', ← List.append_assoc, Runs.run_append, ← hadapter]
    rfl
  · -- a stop sends nothing
    have hsends : host.stop.sends = host.sends ++ _ := hstop.sends
    rw [hsends, h.sends, Runs.emitted, attempts_stop]
    exact List.append_nil _
  · have happ : host.stop.sys.control.app = _ := hstop.app
    rw [happ, ← h.app, Runs.emitted, ticks_stop]
    rfl

end Host

namespace Production

open Host (Performs)

variable {s : Shutdown Host}

/-- The host that the calls of an event start from. -/
def baseHost (s : Shutdown Host) (event : Event) : Host :=
  (cleared s).host.withApp (Runs.run Domain.step s.host.sys.control.app (ownOps s event))

theorem sendNeutralNow_performs (host : Host) (input : HidInput) :
    Performs [.sendNeutralNow input.accepted] host.storeNeutral (host.sendNeutralNow input).2 := by
  have hcall := Host.performs_after host.storeNeutral (.sendNeutralNow input.accepted)
  unfold Host.sendNeutralNow
  dsimp only
  split
  · rename_i hstopped
    have hnothing : ReportLoop.handle host.storeNeutral.adapter (.sendNeutralNow input.accepted) =
        (host.storeNeutral.adapter, []) := by
      simp only [ReportLoop.handle, TimerAdapter.sendNeutralNow, if_pos hstopped]
      rfl
    rw [hnothing] at hcall
    have hsame : host.storeNeutral.after (host.storeNeutral.adapter, []) = host.storeNeutral := by
      simp [Host.after, Host.recordTicks, Action.messages, Host.withApp, Host.storeNeutral]
    rwa [hsame] at hcall
  · exact hcall

/-- What the callback's finish keeps, and every other finish. -/
theorem performs_kept (calls : List ReportLoop.Event) (before : Host) :
    Shutdown.Kept Host.port (Shutdown.Holds fun _ host => Performs calls before host) :=
  Shutdown.Holds.kept fun _ _ h => h.stop

/-- The callback that runs: the neutral send, then possibly a finish. -/
theorem onMainThread_performs (s : Shutdown Host) (input : HidInput)
    (answer : DisconnectAnswer) :
    Performs [.sendNeutralNow input.accepted] s.host.storeNeutral
      (s.onMainThread Host.port input answer).host := by
  have hcalls := sendNeutralNow_performs s.host input
  unfold Shutdown.onMainThread
  dsimp only
  split
  · exact (performs_kept _ _).finish answer hcalls
  · exact hcalls
  · exact (performs_kept _ _).finish answer hcalls

theorem opened_performs (s : Shutdown Host) (status : UInt8) (hidCid : UInt16) (input : HidInput) :
    Performs
      (if status = 0 ∧ s.reportTimerInitialized = true then [.start hidCid input.timeMs] else [])
      s.host (s.handleConnectionOpened Host.port status hidCid input).host := by
  have hhost := Shutdown.cancelActiveReconnectTimeoutTimer_host s
  have hinit : s.cancelActiveReconnectTimeoutTimer.reportTimerInitialized =
      s.reportTimerInitialized := by
    unfold Shutdown.cancelActiveReconnectTimeoutTimer
    split <;> rfl
  unfold Shutdown.handleConnectionOpened
  dsimp only
  rw [hinit, hhost]
  by_cases hstatus : status = 0
  · by_cases hset : s.reportTimerInitialized = true
    · simp only [hstatus, hset, ne_eq, not_true_eq_false, Bool.not_true, Bool.false_eq_true, if_false,
        and_self, if_true]
      exact Host.performs_after s.host (.start hidCid input.timeMs)
    · simp only [hstatus, hset, ne_eq, not_true_eq_false, Bool.not_false, if_false,
        if_true, hhost]
      exact .refl _
  · simp only [hstatus, ne_eq, not_false_eq_true, if_true, false_and, if_false, hhost]
    exact .refl _

theorem canSendNow_performs (s : Shutdown Host) (input : HidInput)
    (answer : DisconnectAnswer) :
    Performs
      (if s.reportTimerInitialized then
        [.canSendNow input.timeMs s.host.readState input.accepted] else [])
      s.host (s.handleCanSendNow Host.port input answer).host := by
  have hcall := Host.performs_after s.host (.canSendNow input.timeMs s.host.readState input.accepted)
  unfold Shutdown.handleCanSendNow
  by_cases hset : s.reportTimerInitialized = true
  · rw [if_pos hset, if_neg (by simp [hset])]
    dsimp only
    split_ifs
    · exact (performs_kept _ _).finish answer hcall
    · exact (performs_kept _ _).finish answer hcall
    · exact hcall
  · rw [if_neg hset, if_pos (by simp [hset])]
    exact .refl _

/-- The events of the shutdown, up to the stops of a finish. -/
theorem shutdown_performs [Platform] (s : Shutdown Host) (event : Shutdown.Event HidInput) :
    Performs (adapterCalls s (.shutdown event)) (baseHost s (.shutdown event))
      (step s (.shutdown event)).host := by
  change Performs _ _ (Shutdown.step Host.port (cleared s) event).host
  cases event with
  | request =>
    simp only [Shutdown.step, Shutdown.request]
    split <;> exact .refl _
  | callback input answer =>
    by_cases hqueued : s.callbackQueued = true
    · have hbase : baseHost s (.shutdown (.callback input answer)) =
          (cleared s).host.storeNeutral := by
        rw [baseHost, ownOps, if_pos hqueued]
        rfl
      have hstep : Shutdown.step Host.port (cleared s) (.callback input answer) =
          Shutdown.onMainThread Host.port
            { cleared s with callbackQueued := false, callbackRan := true } input answer :=
        if_pos hqueued
      rw [hbase, hstep, adapterCalls, if_pos hqueued]
      exact onMainThread_performs { cleared s with callbackQueued := false, callbackRan := true }
        input answer
    · have hbase : baseHost s (.shutdown (.callback input answer)) = (cleared s).host := by
        rw [baseHost, ownOps, if_neg hqueued]
        rfl
      have hstep : Shutdown.step Host.port (cleared s) (.callback input answer) = cleared s :=
        if_neg hqueued
      rw [hbase, hstep, adapterCalls, if_neg hqueued]
      exact .refl _
  | opened status hidCid input => exact opened_performs (cleared s) status hidCid input
  | canSendNow input answer => exact canSendNow_performs (cleared s) input answer
  | closed answer =>
    exact (performs_kept [] _).closed (fun _ h => (performs_kept _ _).finish answer h) (.refl _)
  | disconnectTimeout answer =>
    simp only [Shutdown.step, Shutdown.shutdownDisconnectTimeout]
    split_ifs
    · exact .refl _
    · exact (performs_kept [] _).finish answer ((performs_kept _ _).stopActive (.refl _))
    · exact .refl _

/-- A reply of the dispatcher has a request with a subcommand. -/
theorem handleOutputReport_answered (app : Domain) (report : OutputReport)
    (reportOptions : ReportOptions) (deviceInfo : DeviceInfo) (updatedAtMs : UInt64) :
    (report.subcommand = none →
        (app.handleOutputReport report reportOptions deviceInfo updatedAtMs).2.1.action ≠ .reply) ∧
      ∀ id data, report.subcommand = some (id, data) →
        Answered id (dispatch ⟨app.state, reportOptions, app.spi, deviceInfo⟩ app.playerLights
            report).1
          (app.handleOutputReport report reportOptions deviceInfo updatedAtMs).2.1 := by
  refine ⟨fun hnone => ?_, fun id data hsome => dispatch_answered hsome⟩
  have hreset : (app.handleOutputReport report reportOptions deviceInfo updatedAtMs).2.1 =
      DispatchResponse.reset := by
    unfold Domain.handleOutputReport dispatch
    rw [hnone]
  rw [hreset]
  exact (nomatch ·)

/-- An output report: the domain first, then the reply if there is one. -/
theorem outputReport_performs (s : Shutdown Host) (hidCid : UInt16) (report : OutputReport)
    (deviceInfo : DeviceInfo) (timeMs : Nat) :
    Performs (adapterCalls s (.outputReport hidCid report deviceInfo timeMs))
      (s.host.withApp (s.host.sys.control.app.step (.handleOutputReport report s.host.reportOptions
        deviceInfo (ReportLoop.clockMs timeMs).toUInt64)))
      (s.host.onOutputReport hidCid report deviceInfo timeMs) := by
  have hnone := (handleOutputReport_answered s.host.sys.control.app report s.host.reportOptions
    deviceInfo (ReportLoop.clockMs timeMs).toUInt64).1
  unfold Host.onOutputReport adapterCalls dispatchedReplies Domain.step Domain.perform
  dsimp only
  generalize s.host.sys.control.app.handleOutputReport report s.host.reportOptions
    deviceInfo (ReportLoop.clockMs timeMs).toUInt64 = handled at hnone
  obtain ⟨result, response, app⟩ := handled
  dsimp only at hnone ⊢
  cases hsubcommand : report.subcommand with
  | none =>
    rw [if_pos (Or.inr (hnone hsubcommand))]
    exact .refl _
  | some subcommand =>
    dsimp only
    split_ifs with hskip
    · exact .refl _
    · exact Host.performs_after (s.host.withApp app)
        (.enqueueSubcommandReply hidCid (response.report.take response.reportSize))

/-- **Step lemma**: every event but a poll is the calls of its adapter. -/
theorem step_performs [Platform] (s : Shutdown Host) {event : Event}
    (hpoll : ∀ timeMs io, event ≠ .poll timeMs io) :
    Performs (adapterCalls s event) (baseHost s event) (step s event).host := by
  cases event with
  | shutdown event => exact shutdown_performs s event
  | reportTimer timeMs => exact Host.performs_after (cleared s).host (.timer timeMs)
  | outputReport hidCid report deviceInfo timeMs =>
    exact outputReport_performs (cleared s) hidCid report deviceInfo timeMs
  | poll timeMs io => exact absurd rfl (hpoll timeMs io)

end Production

end Swbt
