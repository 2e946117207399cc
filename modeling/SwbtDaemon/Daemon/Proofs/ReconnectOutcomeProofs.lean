import SwbtDaemon.Daemon.Proofs.ReconnectTimerProofs

/-!
# Proofs: the outcome of an active reconnect

The outcome is reported unless a connection fails to open while the timer is pending: that event
cancels the timer and reports nothing.
-/

namespace Swbt

/-! ## The started process -/

/-- The hardware status of the domain of a process, if it has one, is the one of a new domain. -/
def Process.FreshHardware (process : Process) : Prop :=
  ∀ app, process.runtime.app = some app → app.hardware = HardwareStatus.default

theorem Process.init_freshHardware {runner : ProductionRunner} {process : Process}
    (h : Process.init runner = .ok process) : process.FreshHardware := by
  have happ : ∀ app, Domain.init = .ok app → app.hardware = HardwareStatus.default := by
    intro app happ
    unfold Domain.init at happ
    split at happ
    · cases happ
    · obtain rfl := Except.ok.inj happ
      rfl
  unfold Process.init RuntimeHost.init at h
  split at h
  · cases h
  cases hdomain : Domain.init with
  | error result =>
    rw [hdomain] at h
    cases h
  | ok app =>
    rw [hdomain] at h
    obtain rfl := Except.ok.inj h
    rintro _ ⟨⟩
    exact happ app hdomain

/-- A start that succeeds leaves the domain of the runtime. -/
theorem RuntimeHost.start_app {runtime : RuntimeHost} {runner : ProductionRunner}
    {answers : StartAnswers} (h : (runtime.start runner answers).1 = .ok) :
    (runtime.start runner answers).2.1.app = runtime.app := by
  unfold RuntimeHost.start at h ⊢
  dsimp only at h ⊢
  split_ifs at h ⊢ <;> rfl

theorem Process.FreshHardware.start {process process' : Process} (h : process.FreshHardware)
    {answers : StartAnswers} (hstart : process.start answers = (.ok, process')) :
    process'.FreshHardware := by
  unfold Process.start at hstart
  dsimp only at hstart
  split_ifs at hstart with hinit hrunning hipc hruntime
  · exact nomatch (Prod.mk.inj hstart).1
  · obtain rfl := (Prod.mk.inj hstart).2
    exact h
  · exact nomatch (Prod.mk.inj hstart).1
  · exact nomatch (Prod.mk.inj hstart).1
  · obtain rfl := (Prod.mk.inj hstart).2
    intro app happ
    have hsame := RuntimeHost.start_app (not_not.1 hruntime)
    obtain ⟨before, hbefore, rfl⟩ := Option.map_eq_some_iff.1 happ
    exact h before (hsame.symm.trans hbefore)

/-- A process that the main function has started has reported no hardware status yet. -/
theorem Process.Started.freshHardware {process : Process} (h : process.Started) :
    process.FreshHardware := by
  obtain ⟨runner, answers, initial, hinit, hstart⟩ := h
  have hinitial := Process.init_freshHardware hinit
  have happroved : (initial.setHardwareApproval .approved).2.FreshHardware := by
    unfold Process.setHardwareApproval
    split
    · exact hinitial
    · next app happ =>
      rintro _ ⟨⟩
      exact hinitial app happ
  exact happroved.start hstart

/-! ## The reconnect -/

namespace Reconnecting

variable {s : Reconnecting}

/-- The flag of the timer says whether the timer is registered, and after an opened event with
status 0 it is not. -/
structure Timed (s : Reconnecting) : Prop where
  shutdown : Shutdown.Inv s.daemon
  registered : s.registered = s.daemon.activeReconnectTimeoutTimerPending
  silent : s.opened = true → s.registered = false

/-- An event of a daemon that reconnects is one that the run loop of the main function delivers. -/
theorem step_delivered [Platform] (s : Reconnecting) (event : Event) :
    ∃ events : List (MainEvent Host HidInput),
      (s.step event).daemon = Runs.run (Shutdown.deliver Host.port) s.daemon events := by
  cases event with
  | timeout =>
    unfold Reconnecting.step
    dsimp only
    split
    · exact ⟨[.activeReconnectTimeout Host.reportFailed], rfl⟩
    · exact ⟨[], rfl⟩
  | production event =>
    cases event with
    | shutdown event => exact ⟨[.host fun host => { host with sends := [] }, .shutdown event], rfl⟩
    | reportTimer timeMs =>
      exact ⟨[.host fun host => { host with sends := [] }, .host fun host =>
        host.after (host.adapter.onTimer (ReportLoop.clockMs timeMs)).calls], rfl⟩
    | outputReport hidCid report deviceInfo timeMs =>
      exact ⟨[.host fun host => { host with sends := [] }, .host fun host =>
        host.onOutputReport hidCid report deviceInfo timeMs], rfl⟩
    | poll timeMs io =>
      exact ⟨[.host fun host => { host with sends := [] }, .host fun host => host.poll timeMs io],
        rfl⟩

/-- The calls of an event leave the registration as the flag says. -/
theorem registered_step [Platform] (h : Timed s) (event : Production.Event) :
    (s.step (.production event)).registered =
      (Production.step s.daemon event).activeReconnectTimeoutTimerPending := by
  obtain ⟨requested, -, hfollows⟩ := Production.step_follows s.daemon event
  obtain ⟨more, hcalls, hfold⟩ := hfollows.calls
  change ((Production.step s.daemon event).calls.drop s.daemon.calls.length).foldl registeredAfter
    s.registered = _
  rw [hcalls, List.drop_left, h.registered, hfold]

/-- An opened event cancels the timer. -/
theorem opened_pending [Platform] (s : Shutdown Host) (status : UInt8) (hidCid : UInt16)
    (input : HidInput) :
    (Production.step s
      (.shutdown (.opened status hidCid input))).activeReconnectTimeoutTimerPending = false := by
  have hcancel := Shutdown.cancelActive_pending { s with host := { s.host with sends := [] } }
  change (Shutdown.handleConnectionOpened Host.port _ status hidCid
    input).activeReconnectTimeoutTimerPending = false
  unfold Shutdown.handleConnectionOpened
  dsimp only
  split_ifs <;> exact hcancel

/-- **Step lemma**: every event keeps the flag and the registration together. -/
theorem Timed.step [Platform] (h : Timed s) (event : Event) : Timed (s.step event) := by
  cases event with
  | timeout =>
    unfold Reconnecting.step
    dsimp only
    split
    · refine ⟨Shutdown.activeReconnectTimeout_inv h.shutdown _ _, ?_, fun _ => rfl⟩
      unfold Shutdown.activeReconnectTimeout
      dsimp only
      split <;> rfl
    · exact h
  | production event =>
    have hregistered := registered_step h event
    refine ⟨Production.step_inv h.shutdown event, hregistered, fun hopened => ?_⟩
    rw [hregistered]
    have hcases : s.opened = true ∨ opens event = true := by
      simpa [Reconnecting.step] using hopened
    rcases hcases with hbefore | hopens
    · obtain ⟨requested, -, hfollows⟩ := Production.step_follows s.daemon event
      have hpending := h.silent hbefore
      rw [h.registered] at hpending
      by_contra hne
      have hkept := hfollows.kept (by simpa using hne)
      rw [hpending] at hkept
      cases hkept
    · cases event with
      | shutdown event =>
        cases event with
        | opened status hidCid input => exact opened_pending _ _ _ _
        | _ => cases hopens
      | _ => cases hopens

/-- A shutdown has not been requested, and the connection has not been opened. -/
def Undecided (s : Reconnecting) : Prop := s.daemon.requested = false ∧ s.opened = false

/-- The invariant of the reconnect. -/
structure Inv (s : Reconnecting) : Prop where
  timed : Timed s
  stopped : s.Undecided → s.daemon.host.adapter.running = false
  fresh : s.Undecided → s.daemon.activeReconnectTimeoutTimerPending = true →
    s.hardware = HardwareStatus.default
  reported : Reported s

/-- What is undecided after an event was so before. -/
theorem undecided_of_step [Platform] {event : Production.Event}
    (h : (s.step (.production event)).Undecided) : s.Undecided ∧ opens event = false := by
  obtain ⟨hreq, hopened⟩ := h
  obtain ⟨requested, hmono, hfollows⟩ := Production.step_follows s.daemon event
  have hboth : s.opened = false ∧ opens event = false := by
    simpa [Reconnecting.step] using hopened
  refine ⟨⟨?_, hboth.1⟩, hboth.2⟩
  by_contra hbefore
  have hafter := hfollows.requested.trans (hmono (by simpa using hbefore))
  exact absurd (hafter.symm.trans hreq) (by decide)

/-- While the outcome is undecided, an event that is no failed open leaves the flag of the timer. -/
theorem pending_step [Platform] (h : Inv s) {event : Production.Event}
    (hg : NoFailedOpen s (.production event)) (hund : (s.step (.production event)).Undecided) :
    (s.step (.production event)).daemon.activeReconnectTimeoutTimerPending =
      s.daemon.activeReconnectTimeoutTimerPending := by
  obtain ⟨hbefore, hopens⟩ := undecided_of_step hund
  have hother := (Production.step_of_not_requested h.timed.shutdown hbefore.1 hopens).2
  cases event with
  | shutdown event =>
    cases event with
    | opened status hidCid input =>
      -- the timer is not pending any more, so there is nothing to cancel
      have hstatus : status ≠ 0 := by simpa [opens] using hopens
      have hpending : s.daemon.activeReconnectTimeoutTimerPending = false := by
        by_contra hne
        exact hstatus (hg hbefore.1 hbefore.2 (by simpa using hne))
      exact (opened_pending _ _ _ _).trans hpending.symm
    | _ =>
      refine hother fun _ _ _ heq => ?_
      cases heq
  | _ =>
    refine hother fun _ _ _ heq => ?_
    cases heq

theorem Inv.production [Platform] (h : Inv s) {event : Production.Event}
    (hg : NoFailedOpen s (.production event)) : Inv (s.step (.production event)) := by
  have hsame : (s.step (.production event)).hardware = s.hardware :=
    Production.step_hasHardware rfl event
  refine ⟨h.timed.step _, fun hund => ?_, fun hund hpending => ?_, fun hreq hopened hpending => ?_⟩
  · obtain ⟨hbefore, hopens⟩ := undecided_of_step hund
    exact (Production.step_of_not_requested h.timed.shutdown hbefore.1 hopens).1
      (h.stopped hbefore)
  · rw [pending_step h hg hund] at hpending
    exact hsame.trans (h.fresh (undecided_of_step hund).1 hpending)
  · have hund : (s.step (.production event)).Undecided := ⟨hreq, hopened⟩
    obtain ⟨hbefore, -⟩ := undecided_of_step hund
    rw [pending_step h hg hund] at hpending
    rw [hsame]
    exact h.reported hbefore.1 hbefore.2 hpending

theorem Inv.timeout [Platform] (h : Inv s) : Inv (s.step .timeout) := by
  have htimed := h.timed.step .timeout
  by_cases hregistered : s.registered = true
  · have hstep : s.step .timeout =
        { s with
          daemon := s.daemon.activeReconnectTimeout Host.port Host.reportFailed
          registered := false } := if_pos hregistered
    have hbefore : (s.step .timeout).Undecided → s.Undecided := by
      rw [hstep]
      rintro ⟨hreq, hopened⟩
      exact ⟨(Shutdown.activeReconnectTimeout_requested _ _ _).symm.trans hreq, hopened⟩
    -- the report timer is not running, so the end of the timer is reported
    have hfailed : s.Undecided → (s.step .timeout).daemon =
        { s.daemon with
          activeReconnectTimeoutTimerPending := false
          host := s.daemon.host.reportFailed } := by
      intro hund
      rw [hstep]
      exact Shutdown.activeReconnectTimeout_of_stopped (h.stopped hund) Host.reportFailed
    refine ⟨htimed, fun hund => ?_, fun hund hpending => ?_, fun hreq hopened _ => ?_⟩
    · rw [hfailed (hbefore hund)]
      exact h.stopped (hbefore hund)
    · rw [hfailed (hbefore hund)] at hpending
      cases hpending
    · unfold hardware
      rw [hfailed (hbefore ⟨hreq, hopened⟩)]
      exact ⟨rfl, rfl⟩
  · have hstep : s.step .timeout = s := if_neg hregistered
    rw [hstep]
    exact h

/-- **Step lemma**: an event that is no failed open keeps the invariant. -/
theorem Inv.step [Platform] (h : Inv s) (event : Event) (hg : NoFailedOpen s event) :
    Inv (s.step event) := by
  cases event with
  | production event => exact h.production hg
  | timeout => exact h.timeout

/-- The hardware status after a request that was made. -/
theorem requestActive_outcome {config : Config} {device : Device} {port : ConnectRequest → Int}
    {app : Domain} (h : (Reconnect.requestActive config device port app).1 ≠ .none) :
    Reconnect.requestActive config device port app = (.requested, app) ∨
      Reconnect.requestActive config device port app = (.failed, Reconnect.reportFailed app) := by
  unfold Reconnect.requestActive at h ⊢
  split
  · next hnone =>
    rw [hnone] at h
    exact absurd rfl h
  · exact Or.inr rfl
  · split
    · exact Or.inr rfl
    · exact Or.inl rfl

section Started

variable {reportPeriodUs : UInt32} {reportOptions : ReportOptions} {adapter : TimerAdapter}
  {process : Process} {sys : IpcRunner.System} {config : Config} {port : ConnectRequest → Int}

theorem started_inv (hinit : TimerAdapter.init reportPeriodUs reportOptions = .ok adapter)
    (hprocess : process.Started) (happ : process.runtime.app = some sys.control.app)
    (hrequest :
      (Reconnect.requestActive config process.runner.device port sys.control.app).1 ≠ .none) :
    Inv (started process adapter sys reportOptions config port) := by
  have hstopped : adapter.running = false := by
    unfold TimerAdapter.init at hinit
    split at hinit
    · cases hinit
    · obtain rfl := Except.ok.inj hinit
      rfl
  have hfresh : sys.control.app.hardware = HardwareStatus.default :=
    hprocess.freshHardware _ happ
  unfold started
  rcases requestActive_outcome hrequest with hresult | hresult
  · rw [hresult]
    exact ⟨⟨Shutdown.prepared_inv _ _, rfl, nofun⟩, fun _ => hstopped, fun _ _ => hfresh,
      fun _ _ hpending => nomatch hpending⟩
  · rw [hresult]
    exact ⟨⟨Shutdown.prepared_inv _ _, rfl, nofun⟩, fun _ => hstopped,
      fun _ hpending => (nomatch hpending), fun _ _ _ => ⟨rfl, rfl⟩⟩

end Started

theorem Timed.timeoutSilent [Platform] (h : Timed s) : TimeoutSilent s := by
  intro hopened
  have hstep : s.step .timeout = s := if_neg (by simp [h.silent hopened])
  rw [hstep]

/-- A failed open while the timer is pending leaves the outcome unreported. -/
theorem noFailedOpen_of_reported [Platform] (h : Inv s) (event : Event)
    (hreported : Reported (s.step event)) : NoFailedOpen s event := by
  cases event with
  | timeout => trivial
  | production event =>
    cases event with
    | shutdown event =>
      cases event with
      | opened status hidCid input =>
        intro hreq hopened hpending
        by_contra hstatus
        have hsame : (s.step (.production (.shutdown (.opened status hidCid input)))).hardware =
            s.hardware := Production.step_hasHardware rfl _
        have hstill : (s.step (.production (.shutdown
            (.opened status hidCid input)))).daemon.requested = false := by
          change (Shutdown.handleConnectionOpened Host.port _ status hidCid input).requested = false
          unfold Shutdown.handleConnectionOpened Shutdown.cancelActiveReconnectTimeoutTimer
          dsimp only
          split_ifs <;> exact hreq
        have hunopened : (s.step (.production (.shutdown
            (.opened status hidCid input)))).opened = false := by
          simpa [Reconnecting.step, opens, hopened] using hstatus
        have hfailed := (hreported hstill hunopened (opened_pending _ _ _ _)).1
        rw [hsame, h.fresh ⟨hreq, hopened⟩ hpending] at hfailed
        cases hfailed
      | _ => trivial
    | _ => trivial

/-- **The outcome of a reconnect.** From a started process whose reconnect was requested or failed
at once, in any order of events: the outcome is reported in every state that is reached, and the
timeout reports nothing after the connection was opened, exactly when before a shutdown no
connection fails to open while the timer is pending and none was opened yet. The timeout reports
nothing after the connection was opened in any case. -/
theorem reported_iff_noFailedOpen [Platform] {reportPeriodUs : UInt32}
    {reportOptions : ReportOptions} {adapter : TimerAdapter} {process : Process}
    {sys : IpcRunner.System} {config : Config} {port : ConnectRequest → Int}
    (hinit : TimerAdapter.init reportPeriodUs reportOptions = .ok adapter)
    (hprocess : process.Started) (happ : process.runtime.app = some sys.control.app)
    (hrequest :
      (Reconnect.requestActive config process.runner.device port sys.control.app).1 ≠ .none)
    (events : List Event) :
    let s := started process adapter sys reportOptions config port
    ((∀ before, before <+: events →
        Reported (Runs.run step s before) ∧ TimeoutSilent (Runs.run step s before)) ↔
      Runs.AllSteps step NoFailedOpen s events) ∧
    ∀ before, before <+: events → TimeoutSilent (Runs.run step s before) := by
  intro s
  have hinv : Inv s := started_inv hinit hprocess happ hrequest
  constructor
  · exact Runs.run_forall_iff_allSteps (P := Inv) (Q := fun s => Reported s ∧ TimeoutSilent s)
      (fun _ h => ⟨h.reported, h.timed.timeoutSilent⟩) (fun _ event h hg => h.step event hg)
      (fun _ event h hgood => noFailedOpen_of_reported h event hgood.1) hinv events
  · intro before _
    exact (Runs.run_invariant (P := Timed) (fun _ event h => h.step event) hinv.timed
      before).timeoutSilent

/-- A configuration with a learned address. -/
def learnedConfig : Config :=
  { Config.default with
    learnedSwitchAddress := #v[0x30, 0x31, 0x3A, 0x32, 0x33, 0x3A, 0x34, 0x35, 0x3A, 0x36, 0x37,
      0x3A, 0x38, 0x39, 0x3A, 0x61, 0x62, 0] }

/-- The main function starts a daemon with that configuration and requests the reconnect. -/
theorem exists_started :
    ∃ (process : Process) (app : Domain) (adapter : TimerAdapter),
      process.Started ∧ process.runtime.app = some app ∧
      TimerAdapter.init 8000 ⟨0, 0x8E, 0x80⟩ = .ok adapter ∧
      (Reconnect.requestActive learnedConfig process.runner.device (fun _ => 0) app).1 =
        .requested := by
  have hdevice : ∀ app, (Reconnect.requestActive learnedConfig ⟨true, true, true⟩ (fun _ => 0)
      app).1 = .requested := by
    intro app
    have hbuild : Reconnect.buildRequest learnedConfig =
        .ready ⟨#v[0x01, 0x23, 0x45, 0x67, 0x89, 0xAB], 0x11, 0x13⟩ := by decide +kernel
    unfold Reconnect.requestActive
    rw [hbuild]
    rfl
  exact ⟨_, _, _, ⟨⟨8000, true, true, true, Device.zero, false, false, []⟩,
    ⟨true, true, true, true⟩, _, rfl, rfl⟩, rfl, rfl, hdevice _⟩

/-- The console does not answer: the timer ends before any connection. -/
theorem reported_after_timeout :
    ∃ (process : Process) (app : Domain) (adapter : TimerAdapter),
      process.Started ∧ process.runtime.app = some app ∧
      let _ : Platform := Platform.lp64
      Reported (Runs.run step (started process adapter ⟨IpcRunner.init, Control.init app none⟩
        ⟨0, 0x8E, 0x80⟩ learnedConfig fun _ => 0) [.timeout]) := by
  obtain ⟨process, app, adapter, hprocess, happ, hinit, hrequest⟩ := exists_started
  let _ : Platform := Platform.lp64
  let sys : IpcRunner.System := ⟨IpcRunner.init, Control.init app none⟩
  have hmade : (Reconnect.requestActive learnedConfig process.runner.device (fun _ => 0)
      sys.control.app).1 ≠ .none := ne_of_eq_of_ne hrequest (by decide)
  have hsys : process.runtime.app = some sys.control.app := happ
  refine ⟨process, app, adapter, hprocess, happ, ?_⟩
  obtain ⟨hreported, -⟩ := reported_iff_noFailedOpen hinit hprocess hsys hmade [.timeout]
  exact (hreported.2 ⟨trivial, trivial⟩ [.timeout] (List.prefix_refl _)).1

/-- The console refuses the connection: the open fails, which cancels the timer, and the clients
are told nothing. -/
theorem failed_open_not_reported :
    ∃ (process : Process) (app : Domain) (adapter : TimerAdapter),
      process.Started ∧ process.runtime.app = some app ∧
      TimerAdapter.init 8000 ⟨0, 0x8E, 0x80⟩ = .ok adapter ∧
      (Reconnect.requestActive learnedConfig process.runner.device (fun _ => 0) app).1 =
        .requested ∧
      let _ : Platform := Platform.lp64
      ¬ Reported (Runs.run step (started process adapter ⟨IpcRunner.init, Control.init app none⟩
        ⟨0, 0x8E, 0x80⟩ learnedConfig fun _ => 0)
        [.production (.shutdown (.opened 0x04 0x42 ⟨1, true⟩))]) := by
  obtain ⟨process, app, adapter, hprocess, happ, hinit, hrequest⟩ := exists_started
  let _ : Platform := Platform.lp64
  let sys : IpcRunner.System := ⟨IpcRunner.init, Control.init app none⟩
  have hmade : (Reconnect.requestActive learnedConfig process.runner.device (fun _ => 0)
      sys.control.app).1 ≠ .none := ne_of_eq_of_ne hrequest (by decide)
  have hsys : process.runtime.app = some sys.control.app := happ
  refine ⟨process, app, adapter, hprocess, happ, hinit, hrequest, fun hreported => ?_⟩
  have hinv := started_inv hinit hprocess hsys hmade
  have hpending : (started process adapter sys ⟨0, 0x8E, 0x80⟩ learnedConfig
      fun _ => 0).daemon.activeReconnectTimeoutTimerPending = true :=
    congrArg (· == Reconnect.ActiveResult.requested) hrequest
  have hstatus := noFailedOpen_of_reported hinv
    (.production (.shutdown (.opened 0x04 0x42 ⟨1, true⟩))) hreported rfl rfl hpending
  exact absurd hstatus (by decide)

end Reconnecting

end Swbt
