import SwbtDaemon.Daemon.Proofs.ProductionProofs
import SwbtDaemon.Daemon.ReconnectOutcome

/-!
# Proofs: what the events leave alone

No event of the main thread writes the hardware status. The flag of the reconnect timer follows its
registration in the run loop, and before a shutdown only an opened event cancels the timer.
-/

namespace Swbt

open Ipc TimerAdapter

/-! ## Who writes the hardware status -/

namespace Domain

theorem step_hardware (app : Domain) {op : Op} (h : ∀ status, op ≠ .setHardwareStatus status) :
    (app.step op).hardware = app.hardware := by
  cases op with
  | setHardwareStatus status => exact absurd rfl (h status)
  | setState clientId state sequence =>
    simp only [Domain.step, perform, setState]
    split_ifs <;> rfl
  | revoke reason clientId =>
    cases reason <;> simp only [Domain.step, perform, revoke] <;> first | rfl | (split_ifs <;> rfl)
  | recordReportTick nowUs sendResult =>
    simp only [Domain.step, perform, recordReportTick]
    split <;> rfl
  | _ => rfl

theorem revoke_hardware (app : Domain) (reason : RevokeReason) (clientId : UInt32) :
    (app.revoke reason clientId).2.hardware = app.hardware := by
  change (app.step (.revoke reason clientId)).hardware = app.hardware
  exact app.step_hardware fun _ heq => nomatch heq

end Domain

theorem Ipc.ByClient.hardware {control after : Control} {clientId : UInt32}
    (h : ByClient control clientId after) : after.app.hardware = control.app.hardware := by
  rcases h with rfl | ⟨op, hop, rfl⟩
  · rfl
  · refine control.app.step_hardware fun status heq => ?_
    cases hop <;> cases heq

namespace Production

theorem serve_hardware [Platform] (control : Control) (connection : Connection)
    (heartbeat : Option UInt64) (io : ServeIo) :
    (serveConnectionOnceInternal control connection heartbeat io).control.app.hardware =
      control.app.hardware := by
  by_cases hlive : connection.Live
  · have hserve : (serveConnectionOnceInternal control connection heartbeat io).Drops control
          connection ∨
        (serveConnectionOnceInternal control connection heartbeat io).Keeps control connection :=
      serve_cases hlive heartbeat io
    rcases hserve with ⟨-, hcontrol, -⟩ | hkeeps
    · rw [hcontrol]
      exact control.app.revoke_hardware .disconnect connection.clientId
    · exact hkeeps.2.2.2.2.hardware
  · rw [serve_of_not_live hlive]

theorem poll_hardware [Platform] (runner : IpcRunner) (control : Control) (nowMs : UInt64)
    (io : IpcRunner.PollIo) :
    (runner.pollOnceAt control nowMs io).control.app.hardware = control.app.hardware := by
  have hserve := serve_hardware control runner.connection (some nowMs) io.serve
  unfold IpcRunner.pollOnceAt
  split
  · rfl
  split
  · split <;> rfl
  split
  · rfl
  · unfold IpcRunner.checkHeartbeat
    by_cases hdue : runner.connection.HeartbeatDue nowMs
    · rw [checkHeartbeat_of_due hdue]
      exact control.app.revoke_hardware .heartbeatTimeout runner.connection.clientId
    · rw [checkHeartbeat_of_not_due hdue]
      rfl
  · unfold IpcRunner.serveConnection IpcRunner.afterServe
    split_ifs <;> exact hserve

/-! ## The host -/

theorem recordTicks_hardware (app : Domain) (actions : List Action) :
    (Host.recordTicks app actions).hardware = app.hardware := by
  refine recordTicks_frame (fun app nowUs sendResult => ?_) app actions
  change (app.step (.recordReportTick nowUs sendResult)).hardware = app.hardware
  exact app.step_hardware fun _ heq => nomatch heq

/-- The hardware status of the host is `status`. -/
def HasHardware (status : HardwareStatus) (host : Host) : Prop :=
  host.sys.control.app.hardware = status

variable {status : HardwareStatus} {host : Host}

theorem HasHardware.after (h : HasHardware status host) (calls : TimerAdapter × List Action) :
    HasHardware status (host.after calls) :=
  (recordTicks_hardware _ _).trans h

theorem HasHardware.sendNeutralNow (h : HasHardware status host) (input : HidInput) :
    HasHardware status (host.sendNeutralNow input).2 := by
  have hstored : HasHardware status host.storeNeutral := h
  unfold Host.sendNeutralNow
  dsimp only
  split
  · exact hstored
  · exact hstored.after _

theorem HasHardware.onOutputReport (h : HasHardware status host) (hidCid : UInt16)
    (report : OutputReport) (deviceInfo : DeviceInfo) (timeMs : Nat) :
    HasHardware status (host.onOutputReport hidCid report deviceInfo timeMs) := by
  have happ : HasHardware status (host.withApp (host.sys.control.app.handleOutputReport report
      host.reportOptions deviceInfo (ReportLoop.clockMs timeMs).toUInt64).2.2) := h
  unfold Host.onOutputReport
  dsimp only
  split
  · exact happ
  · exact happ.after _

/-- No event of the main thread writes the hardware status. -/
theorem step_hasHardware [Platform] {s : Shutdown Host} (h : HasHardware status s.host)
    (event : Event) : HasHardware status (step s event).host := by
  have hclear : HasHardware status { s.host with sends := [] } := h
  cases event with
  | shutdown event =>
    change Shutdown.Holds (fun _ => HasHardware status)
      (Shutdown.step Host.port { s with host := { s.host with sends := [] } } event)
    have hholds : Shutdown.Holds (fun _ => HasHardware status)
        { s with host := { s.host with sends := [] } } := hclear
    refine Shutdown.step_holds ?_ ?_ ?_ ?_ hholds event
    · exact fun _ _ hhost => hhost.after _
    · exact fun _ _ _ _ hhost => hhost.after _
    · exact fun _ _ _ hhost => hhost.after _
    · exact fun input => hclear.sendNeutralNow input
  | reportTimer timeMs => exact hclear.after _
  | outputReport hidCid report deviceInfo timeMs =>
    exact hclear.onOutputReport hidCid report deviceInfo timeMs
  | poll timeMs io => exact (poll_hardware _ _ _ _).trans h

theorem onTimer_running (adapter : TimerAdapter) (nowMs : UInt32) :
    (adapter.onTimer nowMs).adapter.running = adapter.running := by
  unfold TimerAdapter.onTimer
  dsimp only
  split_ifs <;> rfl

theorem enqueueSubcommandReply_running (adapter : TimerAdapter) (hidCid : UInt16)
    (report : List UInt8) :
    (adapter.enqueueSubcommandReply hidCid report).adapter.running = adapter.running := by
  unfold enqueueSubcommandReply
  dsimp only
  split_ifs <;> rfl

theorem onOutputReport_running (host : Host) (hidCid : UInt16) (report : OutputReport)
    (deviceInfo : DeviceInfo) (timeMs : Nat) :
    (host.onOutputReport hidCid report deviceInfo timeMs).adapter.running =
      host.adapter.running := by
  unfold Host.onOutputReport
  dsimp only
  split
  · rfl
  · exact enqueueSubcommandReply_running _ _ _

end Production

/-! ## The flag of the timer -/

namespace Shutdown

open Reconnecting (registeredAfter)

variable {τ ι : Type*} {port : HostPort τ ι} {s : Shutdown τ} {base : List PortCall}
  {registered requested : Bool}

/-- Since the calls `base`, with the reconnect timer registered or not, the flag of the timer has
followed its registration, and nobody has armed it. -/
structure Follows (base : List PortCall) (registered requested : Bool) (s : Shutdown τ) :
    Prop where
  requested : s.requested = requested
  calls : ∃ more, s.calls = base ++ more ∧
    more.foldl registeredAfter registered = s.activeReconnectTimeoutTimerPending
  kept : s.activeReconnectTimeoutTimerPending = true → registered = true

theorem Follows.refl (s : Shutdown τ) :
    Follows s.calls s.activeReconnectTimeoutTimerPending s.requested s :=
  ⟨rfl, ⟨[], by simp⟩, id⟩

/-- A call that is not about the reconnect timer. -/
theorem Follows.call (h : Follows base registered requested s) {c : PortCall}
    (hother : ∀ b, registeredAfter b c = b) : Follows base registered requested (s.call c) := by
  obtain ⟨more, hcalls, hfold⟩ := h.calls
  refine ⟨h.requested, ⟨more ++ [c], ?_, ?_⟩, h.kept⟩
  · rw [← List.append_assoc, ← hcalls]
    rfl
  · rw [List.foldl_append, hfold]
    exact hother _

theorem Follows.cancelActive (h : Follows base registered requested s) :
    Follows base registered requested s.cancelActiveReconnectTimeoutTimer := by
  unfold cancelActiveReconnectTimeoutTimer
  split
  · obtain ⟨more, hcalls, -⟩ := h.calls
    refine ⟨h.requested, ⟨more ++ [.removeTimer .activeReconnectTimeout], ?_, ?_⟩, nofun⟩
    · rw [← List.append_assoc, ← hcalls]
      rfl
    · rw [List.foldl_append]
      rfl
  · exact h

theorem cancelActive_pending (s : Shutdown τ) :
    s.cancelActiveReconnectTimeoutTimer.activeReconnectTimeoutTimerPending = false := by
  unfold cancelActiveReconnectTimeoutTimer
  split
  · rfl
  · rename_i hpending
    simpa using hpending

/-- A change of anything but the calls, the flag of the timer and the request. -/
theorem Follows.congr (h : Follows base registered requested s) {s' : Shutdown τ}
    (hrequested : s'.requested = s.requested) (hcalls : s'.calls = s.calls)
    (hpending : s'.activeReconnectTimeoutTimerPending = s.activeReconnectTimeoutTimerPending) :
    Follows base registered requested s' :=
  ⟨hrequested.trans h.requested, by rw [hcalls, hpending]; exact h.calls, by
    rw [hpending]; exact h.kept⟩

theorem Follows.arm (h : Follows base registered requested s) :
    Follows base registered requested s.armShutdownDisconnectTimer := by
  have hset := h.call (c := .setTimer .shutdownDisconnect disconnectTimeoutMs) fun _ => rfl
  have hadd := hset.call (c := .addTimer .shutdownDisconnect) fun _ => rfl
  unfold armShutdownDisconnectTimer
  split
  · exact h
  · exact hadd.congr rfl rfl rfl

theorem Follows.exit (h : Follows base registered requested s) :
    Follows base registered requested s.exit := by
  have hcancel : Follows base registered requested s.cancelShutdownDisconnectTimer := by
    have hremove := h.call (c := .removeTimer .shutdownDisconnect) fun _ => rfl
    unfold cancelShutdownDisconnectTimer
    split
    · exact hremove.congr rfl rfl rfl
    · exact h
  have hactive := hcancel.cancelActive
  have hoff : Follows base registered requested s.cancelShutdownDisconnectTimer.powerOff := by
    unfold powerOff
    dsimp only
    split
    · exact (hactive.call (c := .powerOff) fun _ => rfl).congr rfl rfl rfl
    · exact hactive
  exact hoff.call fun _ => rfl

theorem Follows.keptByCalls : KeptByCalls (τ := τ) (Follows base registered requested) where
  same h hcalls _ hpending hrequested := h.congr hrequested hcalls hpending
  disconnect h _ := h.call fun _ => rfl
  arm h := h.arm
  exit h := h.exit
  cancelActive h := h.cancelActive

/-- **Step lemma**: no event of the shutdown parts the flag from the registration, and the request
is not taken back. -/
theorem step_follows (s : Shutdown τ) (event : Event ι) :
    ∃ requested, (s.requested = true → requested = true) ∧
      Follows s.calls s.activeReconnectTimeoutTimerPending requested (s.step port event) := by
  have h := Follows.refl s
  by_cases hrequest : event = .request
  · subst hrequest
    simp only [step, request]
    split
    · exact ⟨s.requested, id, h⟩
    · have hrequested : Follows s.calls s.activeReconnectTimeoutTimerPending true
          { s with requested := true, callbackQueued := true } := ⟨rfl, h.calls, h.kept⟩
      exact ⟨true, fun _ => rfl, hrequested.call fun _ => rfl⟩
  · exact ⟨s.requested, id, Follows.keptByCalls.step port h hrequest⟩

end Shutdown

/-! ## Before a shutdown -/

namespace Shutdown

variable {τ ι : Type*} {port : HostPort τ ι} {s : Shutdown τ}

/-- Before a shutdown is requested, an event other than an opened one leaves the flag of the
reconnect timer and starts no report timer. -/
theorem step_of_not_requested (port : HostPort τ ι) (h : Inv s) (hreq : s.requested = false)
    {event : Event ι}
    (hevent : ∀ status hidCid input, event ≠ .opened status hidCid input) :
    (s.step port event).activeReconnectTimeoutTimerPending =
        s.activeReconnectTimeoutTimerPending ∧
      (port.running s.host = false → port.running (s.step port event).host = false) := by
  obtain ⟨hqueued, hran⟩ := h.sound.idle hreq
  obtain ⟨hneutral, hdisc, -⟩ := h.phase.waiting_of_not_ran hran
  cases event with
  | opened status hidCid input => exact absurd rfl (hevent status hidCid input)
  | request =>
    simp only [step, request]
    split <;> exact ⟨rfl, id⟩
  | callback input answer =>
    simp only [step]
    rw [if_neg (by simp [hqueued])]
    exact ⟨rfl, id⟩
  | canSendNow input answer =>
    simp only [step, handleCanSendNow]
    rw [if_neg (by simp [h.sound.initialized]), if_neg (by simp [hneutral]),
      if_neg (by simp [hneutral])]
    exact ⟨rfl, fun hrun => (port.running_onCanSendNow _ _).trans hrun⟩
  | closed answer =>
    simp only [step, handleConnectionClosed]
    rw [if_neg (by simp [h.sound.initialized]), if_neg (by simp [hneutral]),
      if_neg (by simp [hdisc])]
    exact ⟨rfl, fun _ => port.running_stop _⟩
  | disconnectTimeout answer =>
    simp only [step, shutdownDisconnectTimeout]
    split
    · rw [if_pos (by simp [hdisc])]
      exact ⟨rfl, id⟩
    · exact ⟨rfl, id⟩

theorem Inv.withHost (h : Inv s) (host : τ) : Inv { s with host := host } :=
  ⟨⟨h.sound.initialized, h.sound.armed, h.sound.queued, h.sound.idle⟩, h.phase.host host⟩

/-- The timeout of the reconnect keeps the invariant of the shutdown. -/
theorem activeReconnectTimeout_inv (h : Inv s) (port : HostPort τ ι) (reportFailed : τ → τ) :
    Inv (s.activeReconnectTimeout port reportFailed) := by
  have hpending : Inv { s with activeReconnectTimeoutTimerPending := false } :=
    ⟨⟨h.sound.initialized, h.sound.armed, h.sound.queued, h.sound.idle⟩,
      h.phase.continues ⟨⟨[], by simp⟩, rfl, rfl, rfl, rfl, id⟩⟩
  unfold activeReconnectTimeout
  dsimp only
  split
  · exact hpending
  · exact hpending.withHost _

theorem activeReconnectTimeout_requested (s : Shutdown τ) (port : HostPort τ ι)
    (reportFailed : τ → τ) :
    (s.activeReconnectTimeout port reportFailed).requested = s.requested := by
  unfold activeReconnectTimeout
  dsimp only
  split <;> rfl

/-- A timeout without a running report timer reports the failure. -/
theorem activeReconnectTimeout_of_stopped (hrun : port.running s.host = false)
    (reportFailed : τ → τ) : s.activeReconnectTimeout port reportFailed =
      { s with
        activeReconnectTimeoutTimerPending := false
        host := reportFailed s.host } := by
  unfold activeReconnectTimeout
  dsimp only
  rw [if_neg (by simp [hrun])]

end Shutdown

/-! ## One event of the main thread -/

namespace Production

open Shutdown (Follows)

variable {s : Shutdown Host}

theorem step_inv [Platform] (h : Shutdown.Inv s) (event : Event) : Shutdown.Inv (step s event) := by
  cases event with
  | shutdown event => exact Shutdown.step_inv (h.withHost _) event
  | _ => exact h.withHost _

theorem step_follows [Platform] (s : Shutdown Host) (event : Event) :
    ∃ requested, (s.requested = true → requested = true) ∧
      Follows s.calls s.activeReconnectTimeoutTimerPending requested (step s event) := by
  cases event with
  | shutdown event =>
    exact Shutdown.step_follows { s with host := { s.host with sends := [] } } event
  | _ => exact ⟨s.requested, id, (Follows.refl s).congr rfl rfl rfl⟩

/-- Before a shutdown is requested, an event that does not open the connection leaves the flag of
the reconnect timer, unless it is a failed open, and starts no report timer. -/
theorem step_of_not_requested [Platform] (h : Shutdown.Inv s) (hreq : s.requested = false)
    {event : Event} (hopens : Reconnecting.opens event = false) :
    (s.host.adapter.running = false → (step s event).host.adapter.running = false) ∧
      ((∀ status hidCid input, event ≠ .shutdown (.opened status hidCid input)) →
        (step s event).activeReconnectTimeoutTimerPending =
          s.activeReconnectTimeoutTimerPending) := by
  cases event with
  | reportTimer timeMs => exact ⟨fun hrun => (onTimer_running _ _).trans hrun, fun _ => rfl⟩
  | outputReport hidCid report deviceInfo timeMs =>
    exact ⟨fun hrun => (onOutputReport_running _ _ _ _ _).trans hrun, fun _ => rfl⟩
  | poll timeMs io => exact ⟨id, fun _ => rfl⟩
  | shutdown event =>
    have hclear := h.withHost { s.host with sends := [] }
    by_cases hevent : ∃ status hidCid input, event = .opened status hidCid input
    · obtain ⟨status, hidCid, input, rfl⟩ := hevent
      have hstatus : status ≠ 0 := by simpa [Reconnecting.opens] using hopens
      refine ⟨fun hrun => ?_, fun hno => absurd rfl (hno status hidCid input)⟩
      change (Shutdown.handleConnectionOpened Host.port _ status hidCid
        input).host.adapter.running = false
      unfold Shutdown.handleConnectionOpened
      dsimp only
      rw [if_pos hstatus, Shutdown.cancelActiveReconnectTimeoutTimer_host]
      exact hrun
    · push Not at hevent
      obtain ⟨hpending, hrun⟩ := Shutdown.step_of_not_requested Host.port hclear hreq hevent
      exact ⟨hrun, fun _ => hpending⟩

end Production

end Swbt
