import SwbtDaemon.Daemon.Production
import SwbtDaemon.Daemon.Proofs.ShutdownProofs
import SwbtDaemon.Ipc.Proofs.ServerProofs
import SwbtDaemon.Switch.Proofs.SubcommandProofs
import Mathlib.Logic.Relation

/-!
# Proofs: neutral reports after the shutdown

The shutdown callback stores the neutral state. Only an accepted update of a client can change it
again, and every `0x30` report carries the stored state or the neutral one.
-/

namespace Swbt

open Ipc TimerAdapter

/-! ## The state after a request -/

namespace Domain

/-- The controller state after a state update. -/
theorem setState_state (app : Domain) (clientId : UInt32) (state : State) (sequence : UInt64) :
    (app.setState clientId state sequence).2.state = app.state ∨
      (app.lease.HeldBy clientId ∧ app.lease.lastSequence ≤ sequence ∧
        (app.setState clientId state sequence).2.state = state) := by
  unfold setState
  split_ifs with howner hstale
  · exact Or.inl rfl
  · exact Or.inl rfl
  · have howner : app.lease.HeldBy clientId := by simpa [Lease.HeldBy] using howner
    have haccept : app.lease.acceptSequence clientId sequence =
        (.ok, { app.lease with lastSequence := sequence }) := by
      simp [Lease.acceptSequence, howner.1, howner.2]
    refine Or.inr ⟨howner, UInt64.not_lt.1 hstale, ?_⟩
    simp [haccept, mapLeaseResult]

/-- A revoke leaves the controller state or makes it neutral. -/
theorem revoke_state (app : Domain) (reason : RevokeReason) (clientId : UInt32) :
    (app.revoke reason clientId).2.state = app.state ∨
      (app.revoke reason clientId).2.state = State.neutral := by
  cases reason with
  | release =>
    simp only [revoke]
    split
    · exact Or.inl rfl
    · exact Or.inr rfl
  | disconnect =>
    simp only [revoke]
    split
    · exact Or.inr rfl
    · exact Or.inl rfl
  | heartbeatTimeout =>
    simp only [revoke]
    split
    · exact Or.inr rfl
    · exact Or.inl rfl
  | shutdown => exact Or.inr rfl

theorem revoke_neutral {app : Domain} (h : app.state = State.neutral) (reason : RevokeReason)
    (clientId : UInt32) : (app.revoke reason clientId).2.state = State.neutral := by
  rcases app.revoke_state reason clientId with hsame | hneutral
  · rw [hsame, h]
  · exact hneutral

end Domain

namespace Production

variable {control : Control} {clientId : UInt32}

/-- A command keeps the neutral state, unless it is an accepted update to another one. -/
theorem executeCommand_neutral (h : control.app.state = State.neutral) {command : Command}
    (hupdate : AcceptedUpdate control.app clientId command → command.state = State.neutral) :
    (executeCommand control clientId command).2.app.state = State.neutral := by
  unfold executeCommand
  cases htype : command.type with
  | none => exact h
  | hello => exact h
  | acquire =>
    dsimp only
    split <;> exact h
  | release =>
    have hrelease : (control.releaseClient clientId).2.app.state = State.neutral :=
      Domain.revoke_neutral h .release clientId
    dsimp only
    split
    · exact h
    · split <;> exact hrelease
  | setState =>
    dsimp only
    split
    · exact h
    · rename_i hmatches
      have hmatches : command.ownerClientId = some clientId := by
        simpa [commandOwnerMatchesClient] using hmatches
      have hset : (control.submitClientState clientId command.state
          command.sequence).2.app.state = State.neutral := by
        rcases control.app.setState_state clientId command.state command.sequence with
          hsame | ⟨howner, hseq, hnew⟩
        · exact hsame.trans h
        · exact hnew.trans (hupdate ⟨htype, hmatches, howner, hseq⟩)
      split <;> exact hset
  | getStatus =>
    dsimp only
    split <;> exact h

theorem handleLine_neutral [Platform] (h : control.app.state = State.neutral) {line : List UInt8}
    (hupdate : ∀ command, decodeCommand line = .ok command →
      AcceptedUpdate control.app clientId command → command.state = State.neutral)
    (responseSize : Nat) :
    (handleLine control clientId line responseSize).2.app.state = State.neutral := by
  unfold handleLine
  split
  · exact h
  · split
    · exact h
    · rename_i command hdecode
      exact executeCommand_neutral h (hupdate command hdecode)

theorem serveLine_neutral [Platform] {connection : Connection}
    (h : control.app.state = State.neutral) {line : List UInt8}
    (hupdate : ∀ command, decodeCommand (CString.ofArray line) = .ok command →
      AcceptedUpdate control.app connection.clientId command → command.state = State.neutral)
    (inbox : List UInt8) (sent : Bool) :
    (serveLine control connection line inbox sent).control.app.state = State.neutral := by
  have hline := handleLine_neutral h hupdate jsonResponseMax
  unfold serveLine
  split <;> rename_i heq <;> rw [heq] at hline <;> exact hline

/-- A connection that is not live is not served. -/
theorem serve_of_not_live [Platform] {connection : Connection} (hlive : ¬ connection.Live)
    (heartbeat : Option UInt64) (io : ServeIo) :
    (serveConnectionOnceInternal control connection heartbeat io).control = control := by
  unfold serveConnectionOnceInternal readLine
  by_cases hopen : connection.opened = true
  · have hsock : connection.socketOpen = false := by
      by_contra hsock
      exact hlive ⟨hopen, by simpa using hsock⟩
    simp [hopen, hsock]
  · simp [hopen]

theorem serve_neutral [Platform] {connection : Connection} (h : control.app.state = State.neutral)
    (heartbeat : Option UInt64) {io : ServeIo}
    (hupdate : ∀ line command,
      (readLoop (jsonLineMax + 1) connection.line io.inbox io.answers).1 = .complete line →
      decodeCommand (CString.ofArray line) = .ok command →
      AcceptedUpdate control.app connection.clientId command → command.state = State.neutral) :
    (serveConnectionOnceInternal control connection heartbeat io).control.app.state =
      State.neutral := by
  by_cases hlive : connection.Live
  · rw [serve_of_live control hlive]
    have hdisconnect := Domain.revoke_neutral h .disconnect connection.clientId
    split
    · exact h
    · rename_i line inbox hread
      apply serveLine_neutral h
      intro command hdecode haccepted
      rw [afterLine_clientId] at haccepted
      exact hupdate line command (by rw [hread]) hdecode haccepted
    · exact hdisconnect
    · exact hdisconnect
  · rw [serve_of_not_live hlive]
    exact h

/-- A poll keeps the neutral state, unless it completes a line with an accepted update. -/
theorem poll_neutral [Platform] {runner : IpcRunner} (h : control.app.state = State.neutral)
    (nowMs : UInt64) {io : IpcRunner.PollIo}
    (hupdate : ∀ line command, CompletesLine runner io line →
      decodeCommand (CString.ofArray line) = .ok command →
      AcceptedUpdate control.app runner.connection.clientId command →
        command.state = State.neutral) :
    (runner.pollOnceAt control nowMs io).control.app.state = State.neutral := by
  unfold IpcRunner.pollOnceAt
  split
  · exact h
  · rename_i hrun
    split
    · split <;> exact h
    · rename_i hconn
      have hrun : runner.running = true := by simpa using hrun
      have hconn : runner.hasConnection = true := by simpa using hconn
      split
      · exact h
      · unfold IpcRunner.checkHeartbeat
        by_cases hdue : runner.connection.HeartbeatDue nowMs
        · rw [checkHeartbeat_of_due hdue]
          exact Domain.revoke_neutral h .heartbeatTimeout runner.connection.clientId
        · rw [checkHeartbeat_of_not_due hdue]
          exact h
      · rename_i hpending
        have hready : io.dataPending = .ready := by
          unfold Connection.hasPendingData at hpending
          split at hpending
          · simp at hpending
          · cases hd : io.dataPending <;> simp [hd] at hpending ⊢
        have hserve : (serveConnectionOnceInternal control runner.connection (some nowMs)
            io.serve).control.app.state = State.neutral :=
          serve_neutral h (some nowMs) fun line command hline =>
            hupdate line command ⟨hrun, hconn, hready, hline⟩
        unfold IpcRunner.serveConnection
        rw [if_neg (by simp [hrun]), if_neg (by simp [hconn])]
        unfold IpcRunner.afterServe
        split <;> exact hserve

/-! ## The host -/

/-- What holds of the host when the shutdown callback has run, or not yet: its replies are `0x21`
reports, and after the callback its state is neutral and its `0x30` reports are. -/
structure HostInv (ran : Bool) (host : Host) : Prop where
  replies : ∀ item ∈ host.adapter.replyQueue.toList,
    item.report.head? = some inputReportSubcommandReply
  neutral : ran = true → host.sys.control.app.state = State.neutral
  sends : ran = true → ∀ message ∈ host.sends,
    messageId message = some inputReportStandardFull → Encodes State.neutral message

theorem recordReportTick_state (app : Domain) (nowUs : UInt64)
    (sendResult : Metrics.ReportSendResult) :
    (app.recordReportTick nowUs sendResult).2.state = app.state := by
  unfold Domain.recordReportTick
  split <;> rfl

/-- The recorded ticks keep what one tick keeps. -/
theorem recordTicks_frame {α : Type*} {f : Domain → α}
    (hf : ∀ app nowUs sendResult, f (app.recordReportTick nowUs sendResult).2 = f app)
    (app : Domain) (actions : List Action) : f (Host.recordTicks app actions) = f app := by
  unfold Host.recordTicks
  induction actions generalizing app with
  | nil => rfl
  | cons action actions ih =>
    rw [List.foldl_cons, ih]
    cases action with
    | reportTick nowUs sent => exact hf app nowUs _
    | _ => rfl

theorem recordTicks_state (app : Domain) (actions : List Action) :
    (Host.recordTicks app actions).state = app.state :=
  recordTicks_frame recordReportTick_state app actions

variable {ran : Bool} {host : Host}

/-- A handler of the adapter that sends nothing and queues nothing. -/
theorem HostInv.silent (h : HostInv ran host) {calls : TimerAdapter × List Action}
    (hqueue : ∀ item ∈ calls.1.replyQueue.toList, item ∈ host.adapter.replyQueue.toList)
    (hmessages : Action.messages calls.2 = []) : HostInv ran (host.after calls) := by
  refine ⟨fun item hitem => h.replies item (hqueue item hitem), fun hran => ?_, fun hran => ?_⟩
  · exact (recordTicks_state _ _).trans (h.neutral hran)
  · have hsame : (host.after calls).sends = host.sends := by simp [Host.after, hmessages]
    rw [hsame]
    exact h.sends hran

/-- A handler of the adapter that sends. -/
theorem HostInv.sending (h : HostInv ran host) {calls : TimerAdapter × List Action}
    (hsends : Sends host.adapter host.readState calls) : HostInv ran (host.after calls) := by
  refine ⟨fun item hitem => h.replies item (hsends.replies item hitem), fun hran => ?_,
    fun hran message hmem hid => ?_⟩
  · exact (recordTicks_state _ _).trans (h.neutral hran)
  · rcases List.mem_append.1 hmem with hold | hnew
    · exact h.sends hran message hold hid
    · rcases hsends.messages message hnew with hneutral | hstate | ⟨item, hitem, hreply⟩
      · exact hneutral
      · have hread : host.readState = State.neutral := h.neutral hran
        rwa [hread] at hstate
      · rw [hid, h.replies item hitem] at hreply
        exact absurd hreply (by decide)

theorem HostInv.stop (h : HostInv ran host) : HostInv ran host.stop := by
  apply h.silent
  · intro item hitem
    have hempty : host.adapter.stop.1.replyQueue.toList = [] := rfl
    rw [hempty] at hitem
    exact absurd hitem List.not_mem_nil
  · unfold TimerAdapter.stop cancelPendingTimer
    by_cases htimer : host.adapter.timerPending = true
    · rw [if_pos htimer]
      rfl
    · rw [if_neg htimer]
      rfl

theorem HostInv.start (h : HostInv ran host) (hidCid : UInt16) (input : HidInput) :
    HostInv ran (host.start hidCid input) := by
  apply h.silent
  · unfold TimerAdapter.start
    split
    · exact fun _ hitem => hitem
    · dsimp only
      split <;> exact fun _ hitem => hitem
  · unfold TimerAdapter.start
    split
    · rfl
    · dsimp only
      split <;> rfl

theorem HostInv.onCanSendNow (h : HostInv ran host) (input : HidInput) :
    HostInv ran (host.onCanSendNow input).2 :=
  h.sending (onCanSendNow_sends host.adapter _ host.readState input.accepted)

/-- The neutral send of the shutdown callback. -/
theorem HostInv.sendNeutralNow (h : HostInv false host) (hsends : host.sends = [])
    (input : HidInput) : HostInv true (host.sendNeutralNow input).2 := by
  have hstored : HostInv true host.storeNeutral :=
    ⟨h.replies, fun _ => rfl, fun _ message hmem => by
      have hempty : host.storeNeutral.sends = [] := hsends
      rw [hempty] at hmem
      exact absurd hmem List.not_mem_nil⟩
  unfold Host.sendNeutralNow
  dsimp only
  split
  · exact hstored
  · exact hstored.sending (sendNeutralNow_sends _ _ input.accepted)

theorem HostInv.onTimer (h : HostInv ran host) (nowMs : UInt32) :
    HostInv ran (host.after (host.adapter.onTimer nowMs).calls) := by
  apply h.silent
  · unfold TimerAdapter.onTimer
    split
    · exact fun _ hitem => hitem
    · dsimp only
      split <;> exact fun _ hitem => hitem
  · unfold TimerAdapter.onTimer
    split
    · rfl
    · dsimp only
      split <;> rfl

/-! ## Output reports -/

/-- A reply of the dispatcher is a `0x21` report. -/
theorem handleOutputReport_reply (app : Domain) (report : OutputReport)
    (reportOptions : ReportOptions) (deviceInfo : DeviceInfo) (updatedAtMs : UInt64) :
    let response := (app.handleOutputReport report reportOptions deviceInfo updatedAtMs).2.1
    response.action = .reply →
      (response.report.take response.reportSize).head? = some inputReportSubcommandReply := by
  intro response haction
  cases hsubcommand : report.subcommand with
  | none =>
    have hreset : response = DispatchResponse.reset := by
      change (dispatch _ app.playerLights report).2.1 = DispatchResponse.reset
      unfold dispatch
      rw [hsubcommand]
    rw [hreset] at haction
    cases haction
  | some subcommand => exact (dispatch_answered hsubcommand).head haction

theorem HostInv.enqueue (h : HostInv ran host) (hidCid : UInt16) {report : List UInt8}
    (hreply : report.head? = some inputReportSubcommandReply) :
    HostInv ran (host.after (host.adapter.enqueueSubcommandReply hidCid report).calls) := by
  have hsame : ∀ result, HostInv ran (host.after (Handled.calls ⟨result, host.adapter, []⟩)) :=
    fun _ => h.silent (fun _ hitem => hitem) rfl
  unfold enqueueSubcommandReply
  split
  · exact hsame _
  split
  · exact hsame _
  rcases ReplyQueue.enqueue_cases host.adapter.replyQueue hidCid report with
    ⟨-, -, hok, hlist⟩ | ⟨herr, hqueue⟩
  · dsimp only
    rw [if_neg (by simp [hok])]
    refine ⟨?_, h.neutral, ?_⟩
    · intro item hitem
      rcases List.mem_append.1 (hlist ▸ hitem) with hold | hnew
      · exact h.replies item hold
      · rw [List.mem_singleton.1 hnew]
        exact hreply
    · intro hran message hmem
      exact h.sends hran message (by simpa [Host.after, Host.withApp, Handled.calls,
        Action.messages] using hmem)
  · dsimp only
    rw [if_pos herr, hqueue]
    exact hsame _

theorem HostInv.onOutputReport (h : HostInv ran host) (hidCid : UInt16) (report : OutputReport)
    (deviceInfo : DeviceInfo) (timeMs : Nat) :
    HostInv ran (host.onOutputReport hidCid report deviceInfo timeMs) := by
  have hreply := handleOutputReport_reply host.sys.control.app report host.reportOptions deviceInfo
    (ReportLoop.clockMs timeMs).toUInt64
  have happ : HostInv ran (host.withApp (host.sys.control.app.handleOutputReport report
      host.reportOptions deviceInfo (ReportLoop.clockMs timeMs).toUInt64).2.2) :=
    ⟨h.replies, h.neutral, h.sends⟩
  unfold Host.onOutputReport
  dsimp only
  by_cases hskip : (host.sys.control.app.handleOutputReport report host.reportOptions deviceInfo
      (ReportLoop.clockMs timeMs).toUInt64).1 ≠ .ok ∨
      (host.sys.control.app.handleOutputReport report host.reportOptions deviceInfo
        (ReportLoop.clockMs timeMs).toUInt64).2.1.action ≠ .reply
  · rw [if_pos hskip]
    exact happ
  · rw [if_neg hskip]
    have haction := not_not.1 (not_or.1 hskip).2
    exact happ.enqueue hidCid (hreply haction)

/-! ## The shutdown -/

variable {s : Shutdown Host}

/-- **Step lemma**: an event that meets the guard keeps what holds of the host. -/
theorem step_hostInv [Platform] (h : HostInv s.callbackRan s.host) (event : Event)
    (hg : KeepsNeutral s event) :
    HostInv (step s event).callbackRan (step s event).host := by
  have hclear : HostInv s.callbackRan { s.host with sends := [] } :=
    ⟨h.replies, h.neutral, fun _ _ hmem => absurd hmem List.not_mem_nil⟩
  cases event with
  | shutdown event =>
    have hbefore : HostInv false { s.host with sends := [] } :=
      ⟨h.replies, (nomatch ·), (nomatch ·)⟩
    change Shutdown.Holds HostInv
      (Shutdown.step Host.port { s with host := { s.host with sends := [] } } event)
    have hholds : Shutdown.Holds HostInv { s with host := { s.host with sends := [] } } := hclear
    refine Shutdown.step_holds ?_ ?_ ?_ ?_ hholds event
    · exact fun _ _ hhost => hhost.stop
    · exact fun _ _ hidCid input hhost => hhost.start hidCid input
    · exact fun _ _ input hhost => hhost.onCanSendNow input
    · exact fun input => hbefore.sendNeutralNow rfl input
  | reportTimer timeMs => exact hclear.onTimer _
  | outputReport hidCid report deviceInfo timeMs =>
    exact hclear.onOutputReport hidCid report deviceInfo timeMs
  | poll timeMs io =>
    refine ⟨h.replies, fun hran => ?_, fun _ _ hmem => absurd hmem List.not_mem_nil⟩
    exact poll_neutral (h.neutral hran) _ fun line command => hg hran line command

/-- **Neutral reports after the shutdown.** From a started daemon with any IPC runner and domain:
when after the shutdown callback no poll completes a line with an accepted update to a state other
than the neutral one, every `0x30` report handed to the HID sender after the callback, in any order
of events, encodes the neutral state. -/
theorem neutral_after_shutdown [Platform] {reportPeriodUs : UInt32} {reportOptions : ReportOptions}
    {adapter : TimerAdapter} (hinit : TimerAdapter.init reportPeriodUs reportOptions = .ok adapter)
    (sys : IpcRunner.System) (reconnecting : Bool) {events : List Event}
    (hg : Runs.AllSteps step KeepsNeutral (started adapter sys reportOptions reconnecting) events) :
    ∀ before, before <+: events →
      NeutralSends (Runs.run step (started adapter sys reportOptions reconnecting) before) := by
  rintro before ⟨after, rfl⟩
  rw [Runs.allSteps_append] at hg
  have hstarted : HostInv false (started adapter sys reportOptions reconnecting).host := by
    refine ⟨?_, (nomatch ·), (nomatch ·)⟩
    unfold TimerAdapter.init at hinit
    split at hinit
    · exact absurd hinit (by simp)
    · obtain rfl := Except.ok.inj hinit
      exact fun _ hitem => absurd hitem List.not_mem_nil
  have hinv := Runs.run_invariant_of_allSteps
    (P := fun s : Shutdown Host => HostInv s.callbackRan s.host)
    (fun _ event h hevent => step_hostInv h event hevent) hstarted hg.1
  exact hinv.sends

/-- The daemon with its default configuration, started over a fresh domain. -/
def startedDefault (app : Domain) (adapter : TimerAdapter) : Shutdown Host :=
  let runner := (IpcRunner.init.start ⟨CString.bytes "127.0.0.1", 0, 1, 1000⟩ (some 5000)).2
  started adapter ⟨runner, Control.init app none⟩ ⟨0, 0x8E, 0x80⟩ false

/-- A poll at `timeMs` that reads the line `line`. -/
def pollLine (timeMs : Nat) (line : String) : Event :=
  let bytes := CString.bytes line
  .poll timeMs ⟨.notReady, false, .ready, ⟨bytes, List.replicate bytes.length .ready, true⟩⟩

/-- A connected daemon is told to shut down. -/
def shutdownEvents : List Event :=
  [.shutdown (.opened 0 1 ⟨0, true⟩),
    .poll 1 ⟨.ready, true, .notReady, ⟨[], [], true⟩⟩,
    .shutdown .request,
    .shutdown (.callback ⟨2, true⟩ .requested)]

/-- A shutdown during which no client sends anything. -/
theorem neutral_after_quiet_shutdown :
    ∃ app adapter, Domain.init = .ok app ∧ TimerAdapter.init 8000 ⟨0, 0x8E, 0x80⟩ = .ok adapter ∧
      let _ : Platform := Platform.lp64
      NeutralSends (Runs.run step (startedDefault app adapter) shutdownEvents) := by
  refine ⟨_, _, rfl, rfl, ?_⟩
  let _ : Platform := Platform.lp64
  have hinit : TimerAdapter.init 8000 ⟨0, 0x8E, 0x80⟩ = .ok _ := rfl
  have hguard : ∀ app adapter,
      Runs.AllSteps step KeepsNeutral (startedDefault app adapter) shutdownEvents :=
    fun _ _ => ⟨trivial, (nomatch ·), trivial, trivial, trivial⟩
  exact neutral_after_shutdown hinit _ _ (hguard _ _) _ (List.prefix_refl _)

/-- A `0x30` report with a button pressed is not neutral. -/
theorem not_neutralSends {s : Shutdown Host}
    (h : s.callbackRan = true ∧ ∃ message ∈ s.host.sends,
      messageId message = some inputReportStandardFull ∧ message[4]? ≠ some 0) :
    ¬ NeutralSends s := by
  obtain ⟨hran, message, hmem, hid, hbuttons⟩ := h
  intro hneutral
  obtain ⟨options, report, hbuild, rfl⟩ := hneutral hran message hmem hid
  obtain rfl := Except.ok.inj hbuild
  exact hbuttons rfl

/-- After the shutdown callback, while the disconnect is pending, a client acquires the lease and
presses the button A. -/
def lateUpdate : List Event :=
  [pollLine 3 "\x7b\"v\":1,\"type\":\"acquire\"\x7d\n",
    pollLine 4 ("\x7b\"v\":1,\"type\":\"set_state\",\"owner_id\":\"00000001\",\"seq\":1," ++
      "\"state\":\x7b\"buttons\":8,\"lx\":2048,\"ly\":2048,\"rx\":2048,\"ry\":2048," ++
      "\"accel_x\":0,\"accel_y\":0,\"accel_z\":0,\"gyro_x\":0,\"gyro_y\":0,\"gyro_z\":0\x7d\x7d\n")]

/-- The next periodic report carries the late update. -/
theorem late_update_is_reported :
    ∃ app adapter, Domain.init = .ok app ∧ TimerAdapter.init 8000 ⟨0, 0x8E, 0x80⟩ = .ok adapter ∧
      let _ : Platform := Platform.lp64
      ¬ NeutralSends (Runs.run step (startedDefault app adapter)
        (shutdownEvents ++ lateUpdate ++
          [.reportTimer 8, .shutdown (.canSendNow ⟨8, true⟩ .requested)])) := by
  refine ⟨_, _, rfl, rfl, not_neutralSends ?_⟩
  decide +kernel

end Production

end Swbt
