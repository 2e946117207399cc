import SwbtDaemon.Daemon.Shutdown

/-!
# Proofs: the phases of a shutdown

A shutdown waits for its callback, then possibly for the neutral report, then possibly for the
closed connection, and then exits. Every event stays in a phase or moves on to a later one; the
calls that must not be repeated are made on the way out of a phase.
-/

namespace Swbt.Shutdown

variable {τ ι : Type*} {port : HostPort τ ι} {s : Shutdown τ}

/-- The call asks for the end of the HID connection. -/
def IsDisconnect : PortCall → Bool
  | .disconnect _ => true
  | _ => false

/-- Neither the power nor the run loop has been turned off. -/
def Open (calls : List PortCall) : Prop := .powerOff ∉ calls ∧ .triggerExit ∉ calls

/-- The power has been turned off and then the run loop, both once. -/
def Ended (calls : List PortCall) : Prop :=
  ∃ before after, calls = before ++ [.powerOff, .triggerExit] ++ after ∧ Open before ∧ Open after

/-- The phases of a shutdown. -/
inductive Phase (s : Shutdown τ) : Prop where
  | waiting (hran : s.callbackRan = false) (hneutral : s.neutralPending = false)
      (hdisc : s.disconnectPending = false) (hpower : s.hardwarePowered = true)
      (hopen : Open s.calls) (hcount : s.calls.countP IsDisconnect = 0)
  | neutral (hran : s.callbackRan = true) (hneutral : s.neutralPending = true)
      (hdisc : s.disconnectPending = false) (hpower : s.hardwarePowered = true)
      (hopen : Open s.calls) (hcount : s.calls.countP IsDisconnect = 0)
  | disconnecting (hran : s.callbackRan = true) (hneutral : s.neutralPending = false)
      (hdisc : s.disconnectPending = true) (harmed : s.armed = true)
      (hpower : s.hardwarePowered = true) (hopen : Open s.calls)
      (hcount : s.calls.countP IsDisconnect = 1)
  | exited (hran : s.callbackRan = true) (hneutral : s.neutralPending = false)
      (hdisc : s.disconnectPending = false) (hended : Ended s.calls)
      (hcount : s.calls.countP IsDisconnect ≤ 1)

/-- The registrations in the run loop are as the flags say, in every phase. -/
structure Sound (s : Shutdown τ) : Prop where
  initialized : s.reportTimerInitialized = true
  armed : s.armed = s.shutdownDisconnectTimerPending
  /-- The callback is queued by the first request only. -/
  queued : s.callbackQueued = true → s.callbackRan = false
  idle : s.requested = false → s.callbackQueued = false ∧ s.callbackRan = false

/-- The invariant of the shutdown. -/
structure Inv (s : Shutdown τ) : Prop where
  sound : Sound s
  phase : Phase s

theorem prepared_inv (host : τ) (reconnecting : Bool) : Inv (prepared host reconnecting) :=
  ⟨⟨rfl, rfl, (nomatch ·), fun _ => ⟨rfl, rfl⟩⟩,
    .waiting rfl rfl rfl rfl ⟨List.not_mem_nil, List.not_mem_nil⟩ rfl⟩

/-! ## The calls of a handler -/

/-- Calls that neither disconnect nor end anything. -/
def Routine (c : PortCall) : Prop :=
  c ≠ .powerOff ∧ c ≠ .triggerExit ∧ IsDisconnect c = false

theorem Open.append {calls more : List PortCall} (h : Open calls) (hmore : Open more) :
    Open (calls ++ more) :=
  ⟨by simp [h.1, hmore.1], by simp [h.2, hmore.2]⟩

theorem open_of_routine {more : List PortCall} (h : ∀ c ∈ more, Routine c) : Open more :=
  ⟨fun hmem => (h _ hmem).1 rfl, fun hmem => (h _ hmem).2.1 rfl⟩

theorem countP_routine {more : List PortCall} (h : ∀ c ∈ more, Routine c) :
    more.countP IsDisconnect = 0 :=
  List.countP_eq_zero.2 fun c hc => by simp [(h c hc).2.2]

theorem Ended.append {calls more : List PortCall} (h : Ended calls)
    (hmore : ∀ c ∈ more, Routine c) : Ended (calls ++ more) := by
  obtain ⟨before, after, rfl, hbefore, hafter⟩ := h
  exact ⟨before, after ++ more, by simp, hbefore, hafter.append (open_of_routine hmore)⟩

/-- The state `s'` is `s` after routine calls, up to its host, its timers and the registration of
the callback. -/
structure Continues (s s' : Shutdown τ) : Prop where
  calls : ∃ more, s'.calls = s.calls ++ more ∧ ∀ c ∈ more, Routine c
  ran : s'.callbackRan = s.callbackRan
  neutral : s'.neutralPending = s.neutralPending
  disconnect : s'.disconnectPending = s.disconnectPending
  power : s'.hardwarePowered = s.hardwarePowered
  armed : s.armed = true → s'.armed = true

theorem Continues.refl (s : Shutdown τ) : Continues s s :=
  ⟨⟨[], by simp⟩, rfl, rfl, rfl, rfl, id⟩

/-- A continued phase is the same phase. -/
theorem Phase.continues {s' : Shutdown τ} (h : Phase s) (hc : Continues s s') : Phase s' := by
  obtain ⟨⟨more, hcalls, hmore⟩, hran', hneutral', hdisc', hpower', harmed'⟩ := hc
  have hopen' := open_of_routine hmore
  have hcount' := countP_routine hmore
  cases h with
  | waiting hran hneutral hdisc hpower hopen hcount =>
    refine .waiting (hran'.trans hran) (hneutral'.trans hneutral) (hdisc'.trans hdisc)
      (hpower'.trans hpower) ?_ ?_
    · rw [hcalls]
      exact hopen.append hopen'
    · rw [hcalls, List.countP_append, hcount, hcount']
  | neutral hran hneutral hdisc hpower hopen hcount =>
    refine .neutral (hran'.trans hran) (hneutral'.trans hneutral) (hdisc'.trans hdisc)
      (hpower'.trans hpower) ?_ ?_
    · rw [hcalls]
      exact hopen.append hopen'
    · rw [hcalls, List.countP_append, hcount, hcount']
  | disconnecting hran hneutral hdisc harmed hpower hopen hcount =>
    refine .disconnecting (hran'.trans hran) (hneutral'.trans hneutral) (hdisc'.trans hdisc)
      (harmed' harmed) (hpower'.trans hpower) ?_ ?_
    · rw [hcalls]
      exact hopen.append hopen'
    · rw [hcalls, List.countP_append, hcount, hcount']
  | exited hran hneutral hdisc hended hcount =>
    refine .exited (hran'.trans hran) (hneutral'.trans hneutral) (hdisc'.trans hdisc) ?_ ?_
    · rw [hcalls]
      exact hended.append hmore
    · rw [hcalls, List.countP_append, hcount', Nat.add_zero]
      exact hcount

theorem cancelActiveReconnectTimeoutTimer_continues (s : Shutdown τ) :
    Continues s s.cancelActiveReconnectTimeoutTimer := by
  unfold cancelActiveReconnectTimeoutTimer
  split
  · exact ⟨⟨[.removeTimer .activeReconnectTimeout], rfl, by simp [Routine, IsDisconnect]⟩, rfl, rfl,
      rfl, rfl, id⟩
  · exact .refl s

theorem armShutdownDisconnectTimer_continues (s : Shutdown τ) :
    Continues s s.armShutdownDisconnectTimer := by
  unfold armShutdownDisconnectTimer
  split
  · exact .refl s
  · refine ⟨⟨[.setTimer .shutdownDisconnect disconnectTimeoutMs, .addTimer .shutdownDisconnect],
      ?_, by simp [Routine, IsDisconnect]⟩, rfl, rfl, rfl, rfl, fun _ => rfl⟩
    simp [call]

/-- A change of the host alone. -/
theorem Phase.host (h : Phase s) (host : τ) : Phase { s with host := host } :=
  h.continues ⟨⟨[], by simp⟩, rfl, rfl, rfl, rfl, id⟩

/-! ## What a finish keeps -/

/-- The predicate is kept by the parts of a finished shutdown: the pending flags, the end of the
report timer, the disconnect call, the shutdown timer and the way out. -/
structure Kept (port : HostPort τ ι) (P : Shutdown τ → Prop) : Prop where
  flags : ∀ {s}, P s → ∀ neutral disconnect,
    P { s with neutralPending := neutral, disconnectPending := disconnect }
  stop : ∀ {s}, P s → P { s with host := port.stop s.host }
  disconnect : ∀ {s}, P s → ∀ hidCid, P (s.call (.disconnect hidCid))
  arm : ∀ {s}, P s → P s.armShutdownDisconnectTimer
  exit : ∀ {s}, P s → P s.exit

section Kept

variable {P : Shutdown τ → Prop} (hkept : Kept port P)

include hkept

theorem Kept.stopActive (h : P s) : P (stopActiveReportTimer port s) := by
  unfold stopActiveReportTimer
  split
  · exact hkept.stop h
  · exact h

theorem Kept.requestDisconnect (h : P s) : P (s.requestDisconnect port) :=
  hkept.disconnect (hkept.flags h s.neutralPending true) _

theorem Kept.closed {finish : Shutdown τ → Shutdown τ} (hfinish : ∀ s, P s → P (finish s))
    (h : P s) : P (handleConnectionClosed port finish s) := by
  have hstopped := hkept.stop h
  unfold handleConnectionClosed
  dsimp only
  split_ifs
  · exact h
  · exact hfinish _ (hkept.flags hstopped false s.disconnectPending)
  · exact hfinish _ (hkept.flags hstopped s.neutralPending false)
  · exact hstopped

/-- **Finish rule**: a finished shutdown keeps what its parts keep. -/
theorem Kept.finish (answer : DisconnectAnswer) :
    ∀ {s : Shutdown τ}, P s → P (finishShutdown port answer s) := by
  -- the answer is nested as deep as disconnect calls are
  induction answer with
  | refused =>
    intro s h
    unfold finishShutdown
    split_ifs
    · have hrefused := hkept.flags (hkept.requestDisconnect h) s.neutralPending false
      exact hkept.exit (hkept.stopActive hrefused)
    · exact h
    · exact hkept.exit h
  | requested =>
    intro s h
    unfold finishShutdown
    split_ifs
    · exact hkept.arm (hkept.requestDisconnect h)
    · exact h
    · exact hkept.exit h
  | requestedAndClosed inner ih =>
    intro s h
    unfold finishShutdown
    split_ifs
    · exact hkept.arm (hkept.closed (fun _ hs => ih hs) (hkept.requestDisconnect h))
    · exact h
    · exact hkept.exit h

end Kept

/-! ## The registrations -/

theorem Sound.cancelActive (h : Sound s) : Sound s.cancelActiveReconnectTimeoutTimer := by
  unfold cancelActiveReconnectTimeoutTimer
  split
  · exact ⟨h.initialized, h.armed, h.queued, h.idle⟩
  · exact h

theorem Sound.arm (h : Sound s) : Sound s.armShutdownDisconnectTimer := by
  unfold armShutdownDisconnectTimer
  split
  · exact h
  · exact ⟨h.initialized, rfl, h.queued, h.idle⟩

theorem Sound.exit (h : Sound s) : Sound s.exit := by
  have hcancel : Sound s.cancelShutdownDisconnectTimer := by
    unfold cancelShutdownDisconnectTimer
    split
    · exact ⟨h.initialized, rfl, h.queued, h.idle⟩
    · exact h
  have hactive := hcancel.cancelActive
  unfold Shutdown.exit powerOff
  dsimp only
  split
  · exact ⟨hactive.initialized, hactive.armed, hactive.queued, hactive.idle⟩
  · exact ⟨hactive.initialized, hactive.armed, hactive.queued, hactive.idle⟩

theorem Sound.kept (port : HostPort τ ι) : Kept port Sound where
  flags h _ _ := ⟨h.initialized, h.armed, h.queued, h.idle⟩
  stop h := ⟨h.initialized, h.armed, h.queued, h.idle⟩
  disconnect h _ := ⟨h.initialized, h.armed, h.queued, h.idle⟩
  arm h := h.arm
  exit h := h.exit

theorem Sound.requestDisconnect (h : Sound s) (port : HostPort τ ι) :
    Sound (s.requestDisconnect port) :=
  (Sound.kept port).requestDisconnect h

theorem arm_armed (h : Sound s) : s.armShutdownDisconnectTimer.armed = true := by
  unfold armShutdownDisconnectTimer
  split
  · rw [h.armed]
    assumption
  · rfl

/-! ## The way out -/

/-- The calls of the way out: the timers are cancelled, the power is turned off and the run loop is
told to exit. -/
theorem exit_calls (hpower : s.hardwarePowered = true) :
    ∃ more, (∀ c ∈ more, Routine c) ∧
      s.exit.calls = s.calls ++ more ++ [.powerOff, .triggerExit] := by
  unfold Shutdown.exit powerOff cancelShutdownDisconnectTimer cancelActiveReconnectTimeoutTimer
  cases hshutdown : s.shutdownDisconnectTimerPending <;>
    cases hactive : s.activeReconnectTimeoutTimerPending
  · exact ⟨[], by simp, by simp [call, hactive, hpower]⟩
  · exact ⟨[.removeTimer .activeReconnectTimeout], by simp [Routine, IsDisconnect],
      by simp [call, hactive, hpower]⟩
  · exact ⟨[.removeTimer .shutdownDisconnect], by simp [Routine, IsDisconnect],
      by simp [call, hactive, hpower]⟩
  · exact ⟨[.removeTimer .shutdownDisconnect, .removeTimer .activeReconnectTimeout],
      by simp [Routine, IsDisconnect], by simp [call, hactive, hpower]⟩

theorem exit_flags (s : Shutdown τ) :
    s.exit.callbackRan = s.callbackRan ∧ s.exit.neutralPending = s.neutralPending ∧
      s.exit.disconnectPending = s.disconnectPending := by
  unfold Shutdown.exit powerOff cancelShutdownDisconnectTimer cancelActiveReconnectTimeoutTimer
  dsimp only
  split_ifs <;> exact ⟨rfl, rfl, rfl⟩

theorem exit_phase (hran : s.callbackRan = true) (hneutral : s.neutralPending = false)
    (hdisc : s.disconnectPending = false) (hpower : s.hardwarePowered = true)
    (hopen : Open s.calls) (hcount : s.calls.countP IsDisconnect ≤ 1) : Phase s.exit := by
  obtain ⟨more, hmore, hcalls⟩ := exit_calls hpower
  obtain ⟨hran', hneutral', hdisc'⟩ := exit_flags s
  refine .exited (hran'.trans hran) (hneutral'.trans hneutral) (hdisc'.trans hdisc) ?_ ?_
  · exact ⟨s.calls ++ more, [], by simp [hcalls], hopen.append (open_of_routine hmore),
      List.not_mem_nil, List.not_mem_nil⟩
  · rw [hcalls, List.countP_append, List.countP_append, countP_routine hmore]
    simpa [List.countP_cons, IsDisconnect] using hcount

/-- A finished shutdown of a stopped report timer is the way out. -/
theorem finishShutdown_of_stopped (hstopped : port.running s.host = false)
    (answer : DisconnectAnswer) : finishShutdown port answer s = s.exit := by
  cases answer <;> simp [finishShutdown, hstopped]

theorem stopActiveReportTimer_stopped (port : HostPort τ ι) (s : Shutdown τ) :
    port.running (stopActiveReportTimer port s).host = false := by
  unfold stopActiveReportTimer
  split
  · exact port.running_stop s.host
  · simp_all

theorem stopActiveReportTimer_eq (port : HostPort τ ι) (s : Shutdown τ) :
    ∃ host, stopActiveReportTimer port s = { s with host := host } := by
  unfold stopActiveReportTimer
  split
  · exact ⟨_, rfl⟩
  · exact ⟨s.host, rfl⟩

/-- The closed event while a disconnect is pending is the way out. -/
theorem closed_of_disconnecting (hinit : s.reportTimerInitialized = true)
    (hneutral : s.neutralPending = false) (hdisc : s.disconnectPending = true)
    (answer : DisconnectAnswer) :
    handleConnectionClosed port (finishShutdown port answer) s =
      ({ s with host := port.stop s.host, disconnectPending := false } : Shutdown τ).exit := by
  unfold handleConnectionClosed
  rw [if_neg (by simp [hinit])]
  dsimp only
  rw [if_neg (by simp [hneutral]), if_pos hdisc]
  exact finishShutdown_of_stopped (port.running_stop s.host) answer

/-- **The first finish** leads to the disconnect or out. -/
theorem finishShutdown_phase (hs : Sound s) (hran : s.callbackRan = true)
    (hneutral : s.neutralPending = false) (hdisc : s.disconnectPending = false)
    (hpower : s.hardwarePowered = true) (hopen : Open s.calls)
    (hcount : s.calls.countP IsDisconnect = 0) (answer : DisconnectAnswer) :
    Phase (finishShutdown port answer s) := by
  by_cases hrun : port.running s.host = true
  · have hopen' : Open (s.requestDisconnect port).calls := hopen.append ⟨by simp, by simp⟩
    have hcount' : (s.requestDisconnect port).calls.countP IsDisconnect = 1 := by
      unfold requestDisconnect call
      rw [List.countP_append, hcount]
      rfl
    unfold finishShutdown
    rw [if_pos hrun, if_pos (by simp [hdisc])]
    cases answer with
    | refused =>
      obtain ⟨host, heq⟩ := stopActiveReportTimer_eq port
        { s.requestDisconnect port with disconnectPending := false }
      dsimp only
      rw [heq]
      exact exit_phase hran hneutral rfl hpower hopen' (Nat.le_of_eq hcount')
    | requested =>
      obtain ⟨⟨more, hcalls, hmore⟩, hran', hneutral', hdisc', hpower', -⟩ :=
        armShutdownDisconnectTimer_continues (s.requestDisconnect port)
      refine .disconnecting (hran'.trans hran) (hneutral'.trans hneutral) hdisc'
        (arm_armed (hs.requestDisconnect port)) (hpower'.trans hpower) ?_ ?_
      · rw [hcalls]
        exact hopen'.append (open_of_routine hmore)
      · rw [hcalls, List.countP_append, hcount', countP_routine hmore]
    | requestedAndClosed inner =>
      dsimp only
      rw [closed_of_disconnecting (hs.requestDisconnect port).initialized hneutral rfl]
      refine Phase.continues ?_ (armShutdownDisconnectTimer_continues _)
      exact exit_phase hran hneutral rfl hpower hopen' (Nat.le_of_eq hcount')
  · rw [finishShutdown_of_stopped (by simpa using hrun)]
    exact exit_phase hran hneutral hdisc hpower hopen (by omega)

/-! ## Events -/

theorem request_inv (h : Inv s) : Inv s.request := by
  unfold request
  cases hreq : s.requested with
  | true => exact h
  | false =>
    obtain ⟨-, hran⟩ := h.sound.idle hreq
    refine ⟨⟨h.sound.initialized, h.sound.armed, fun _ => hran, by simp [call]⟩, ?_⟩
    exact h.phase.continues ⟨⟨[.executeOnMainThread], rfl, by simp [Routine, IsDisconnect]⟩, rfl,
      rfl, rfl, rfl, id⟩

/-- A phase in which the callback has not run is the first one. -/
theorem Phase.waiting_of_not_ran (h : Phase s) (hran : s.callbackRan = false) :
    s.neutralPending = false ∧ s.disconnectPending = false ∧ s.hardwarePowered = true ∧
      Open s.calls ∧ s.calls.countP IsDisconnect = 0 := by
  cases h with
  | waiting _ hneutral hdisc hpower hopen hcount => exact ⟨hneutral, hdisc, hpower, hopen, hcount⟩
  | neutral hran' => simp [hran] at hran'
  | disconnecting hran' => simp [hran] at hran'
  | exited hran' => simp [hran] at hran'

theorem callback_inv (h : Inv s) (input : ι) (answer : DisconnectAnswer) :
    Inv (s.step port (.callback input answer)) := by
  by_cases hqueued : s.callbackQueued = true
  · obtain ⟨hneutral, hdisc, hpower, hopen, hcount⟩ :=
      h.phase.waiting_of_not_ran (h.sound.queued hqueued)
    have hreq : s.requested = true := by
      by_contra hreq
      have hidle := (h.sound.idle (by simpa using hreq)).1
      simp [hqueued] at hidle
    have hsound : Sound { s with
        host := (port.sendNeutralNow s.host input).2
        callbackQueued := false
        callbackRan := true } :=
      ⟨h.sound.initialized, h.sound.armed, (nomatch ·), by simp [hreq]⟩
    have hfinish : Inv (finishShutdown port answer { s with
        host := (port.sendNeutralNow s.host input).2
        callbackQueued := false
        callbackRan := true }) :=
      ⟨(Sound.kept port).finish answer hsound, finishShutdown_phase hsound rfl hneutral hdisc hpower hopen hcount
        answer⟩
    have hstep : s.step port (.callback input answer) =
        { s with callbackQueued := false, callbackRan := true }.onMainThread port input answer :=
      if_pos hqueued
    rw [hstep]
    unfold onMainThread
    dsimp only
    split
    · exact hfinish
    · exact ⟨⟨hsound.initialized, hsound.armed, hsound.queued, hsound.idle⟩,
        .neutral rfl rfl hdisc hpower hopen hcount⟩
    · exact hfinish
  · have hstep : s.step port (.callback input answer) = s := if_neg hqueued
    rw [hstep]
    exact h

theorem opened_inv (h : Inv s) (status : UInt8) (hidCid : UInt16) (input : ι) :
    Inv (s.handleConnectionOpened port status hidCid input) := by
  have hsound := h.sound.cancelActive
  have hphase := h.phase.continues (cancelActiveReconnectTimeoutTimer_continues s)
  unfold handleConnectionOpened
  dsimp only
  split_ifs
  · exact ⟨hsound, hphase⟩
  · exact ⟨hsound, hphase⟩
  · exact ⟨⟨hsound.initialized, hsound.armed, hsound.queued, hsound.idle⟩, hphase.host _⟩

/-- A finish out of the neutral phase, whatever became of the host. -/
theorem Inv.finish_of_neutral (h : Inv s) (hneutral : s.neutralPending = true)
    (port : HostPort τ ι) (host : τ) (answer : DisconnectAnswer) :
    Inv (finishShutdown port answer { s with host := host, neutralPending := false }) := by
  have hsound : Sound { s with host := host, neutralPending := false } :=
    ⟨h.sound.initialized, h.sound.armed, h.sound.queued, h.sound.idle⟩
  refine ⟨(Sound.kept port).finish answer hsound, ?_⟩
  cases h.phase with
  | waiting _ hneutral' => simp [hneutral] at hneutral'
  | neutral hran _ hdisc hpower hopen hcount =>
    exact finishShutdown_phase hsound hran rfl hdisc hpower hopen hcount answer
  | disconnecting _ hneutral' => simp [hneutral] at hneutral'
  | exited _ hneutral' => simp [hneutral] at hneutral'

theorem canSendNow_inv (h : Inv s) (input : ι) (answer : DisconnectAnswer) :
    Inv (s.handleCanSendNow port input answer) := by
  unfold handleCanSendNow
  rw [if_neg (by simp [h.sound.initialized])]
  by_cases hneutral : s.neutralPending = true
  · have hfinish := h.finish_of_neutral hneutral port
      (port.onCanSendNow s.host input).2 answer
    dsimp only
    split_ifs
    · exact hfinish
    · exact hfinish
    · rename_i hzero hne
      simp [hneutral] at hzero hne
      exact absurd hne hzero
  · dsimp only
    rw [if_neg (by simp [hneutral]), if_neg (by simp [hneutral])]
    exact ⟨⟨h.sound.initialized, h.sound.armed, h.sound.queued, h.sound.idle⟩, h.phase.host _⟩

/-- The way out of the disconnecting phase, whatever became of the host. -/
theorem Inv.exit_of_disconnecting (h : Phase s) {s' : Shutdown τ} (hsound : Sound s')
    (hdisc : s.disconnectPending = true) (hran : s'.callbackRan = s.callbackRan)
    (hneutral : s'.neutralPending = s.neutralPending) (hdisc' : s'.disconnectPending = false)
    (hpower : s'.hardwarePowered = s.hardwarePowered) (hcalls : s'.calls = s.calls) :
    Inv s'.exit := by
  refine ⟨hsound.exit, ?_⟩
  cases h with
  | waiting _ _ hno => simp [hdisc] at hno
  | neutral _ _ hno => simp [hdisc] at hno
  | disconnecting hran' hneutral' _ _ hpower' hopen hcount =>
    refine exit_phase (hran.trans hran') (hneutral.trans hneutral') hdisc' (hpower.trans hpower')
      ?_ ?_
    · rw [hcalls]
      exact hopen
    · rw [hcalls]
      exact Nat.le_of_eq hcount
  | exited _ _ hno => simp [hdisc] at hno

theorem closed_inv (h : Inv s) (answer : DisconnectAnswer) :
    Inv (handleConnectionClosed port (finishShutdown port answer) s) := by
  by_cases hneutral : s.neutralPending = true
  · have hclosed : handleConnectionClosed port (finishShutdown port answer) s =
        finishShutdown port answer
          { s with host := port.stop s.host, neutralPending := false } := by
      simp [handleConnectionClosed, h.sound.initialized, hneutral]
    rw [hclosed]
    exact h.finish_of_neutral hneutral port _ answer
  · have hneutral : s.neutralPending = false := by simpa using hneutral
    by_cases hdisc : s.disconnectPending = true
    · rw [closed_of_disconnecting h.sound.initialized hneutral hdisc]
      exact Inv.exit_of_disconnecting h.phase
        ⟨h.sound.initialized, h.sound.armed, h.sound.queued, h.sound.idle⟩ hdisc rfl rfl rfl rfl rfl
    · have hclosed : handleConnectionClosed port (finishShutdown port answer) s =
          { s with host := port.stop s.host } := by
        simp [handleConnectionClosed, h.sound.initialized, hneutral, hdisc]
      rw [hclosed]
      exact ⟨⟨h.sound.initialized, h.sound.armed, h.sound.queued, h.sound.idle⟩, h.phase.host _⟩

theorem disconnectTimeout_inv (h : Inv s) (answer : DisconnectAnswer) :
    Inv (s.step port (.disconnectTimeout answer)) := by
  by_cases harmed : s.armed = true
  · have hstep : s.step port (.disconnectTimeout answer) =
        { s with armed := false }.shutdownDisconnectTimeout port answer := if_pos harmed
    rw [hstep]
    have hsound : Sound { s with armed := false, shutdownDisconnectTimerPending := false } :=
      ⟨h.sound.initialized, rfl, h.sound.queued, h.sound.idle⟩
    unfold shutdownDisconnectTimeout
    by_cases hdisc : s.disconnectPending = true
    · obtain ⟨host, heq⟩ := stopActiveReportTimer_eq port
        { s with
          armed := false
          shutdownDisconnectTimerPending := false
          disconnectPending := false }
      have hstopped := stopActiveReportTimer_stopped port
        { s with
          armed := false
          shutdownDisconnectTimerPending := false
          disconnectPending := false }
      dsimp only
      rw [if_neg (by simp [hdisc]), finishShutdown_of_stopped hstopped, heq]
      exact Inv.exit_of_disconnecting h.phase
        ⟨hsound.initialized, hsound.armed, hsound.queued, hsound.idle⟩ hdisc rfl rfl rfl rfl rfl
    · dsimp only
      rw [if_pos (by simp [hdisc])]
      refine ⟨hsound, ?_⟩
      -- the timer plays a role while a disconnect is pending only
      cases h.phase with
      | waiting hran hneutral hdisc hpower hopen hcount =>
        exact .waiting hran hneutral hdisc hpower hopen hcount
      | neutral hran hneutral hdisc hpower hopen hcount =>
        exact .neutral hran hneutral hdisc hpower hopen hcount
      | disconnecting _ _ hdisc' => exact absurd hdisc' hdisc
      | exited hran hneutral hdisc hended hcount =>
        exact .exited hran hneutral hdisc hended hcount
  · have hstep : s.step port (.disconnectTimeout answer) = s := if_neg harmed
    rw [hstep]
    exact h

/-- **Step lemma**: every event keeps the invariant. -/
theorem step_inv (h : Inv s) (event : Event ι) : Inv (s.step port event) := by
  cases event with
  | request => exact request_inv h
  | callback input answer => exact callback_inv h input answer
  | opened status hidCid input => exact opened_inv h status hidCid input
  | canSendNow input answer => exact canSendNow_inv h input answer
  | closed answer => exact closed_inv h answer
  | disconnectTimeout answer => exact disconnectTimeout_inv h answer

/-! ## What the calls show -/

/-- The predicate reads the calls, the power, the flag of the reconnect timer and the request only,
and is kept by the parts of an event that change these. -/
structure KeptByCalls (P : Shutdown τ → Prop) : Prop where
  same : ∀ {s s'}, P s → s'.calls = s.calls → s'.hardwarePowered = s.hardwarePowered →
    s'.activeReconnectTimeoutTimerPending = s.activeReconnectTimeoutTimerPending →
      s'.requested = s.requested → P s'
  disconnect : ∀ {s}, P s → ∀ hidCid, P (s.call (.disconnect hidCid))
  arm : ∀ {s}, P s → P s.armShutdownDisconnectTimer
  exit : ∀ {s}, P s → P s.exit
  cancelActive : ∀ {s}, P s → P s.cancelActiveReconnectTimeoutTimer

section KeptByCalls

variable {P : Shutdown τ → Prop} (hcalls : KeptByCalls P)

include hcalls

theorem KeptByCalls.kept (port : HostPort τ ι) : Kept port P where
  flags h _ _ := hcalls.same h rfl rfl rfl rfl
  stop h := hcalls.same h rfl rfl rfl rfl
  disconnect := hcalls.disconnect
  arm := hcalls.arm
  exit := hcalls.exit

/-- **Call rule**: an event that is no request keeps such a predicate. -/
theorem KeptByCalls.step (port : HostPort τ ι) (h : P s) {event : Event ι}
    (hrequest : event ≠ .request) : P (s.step port event) := by
  have hkept := hcalls.kept port
  cases event with
  | request => exact absurd rfl hrequest
  | callback input answer =>
    simp only [Shutdown.step]
    split
    · unfold onMainThread
      dsimp only
      split
      · exact hkept.finish answer (hcalls.same h rfl rfl rfl rfl)
      · exact hcalls.same h rfl rfl rfl rfl
      · exact hkept.finish answer (hcalls.same h rfl rfl rfl rfl)
    · exact h
  | opened status hidCid input =>
    have hcancel := hcalls.cancelActive h
    simp only [Shutdown.step, handleConnectionOpened]
    split_ifs
    · exact hcancel
    · exact hcancel
    · exact hcalls.same hcancel rfl rfl rfl rfl
  | canSendNow input answer =>
    simp only [Shutdown.step, handleCanSendNow]
    split_ifs
    · exact h
    · exact hkept.finish answer (hcalls.same h rfl rfl rfl rfl)
    · exact hkept.finish answer (hcalls.same h rfl rfl rfl rfl)
    · exact hcalls.same h rfl rfl rfl rfl
  | closed answer => exact hkept.closed (fun _ hs => hkept.finish answer hs) h
  | disconnectTimeout answer =>
    simp only [Shutdown.step, shutdownDisconnectTimeout]
    split_ifs
    · exact hcalls.same h rfl rfl rfl rfl
    · have hended : P { s with
          armed := false
          shutdownDisconnectTimerPending := false
          disconnectPending := false } := hcalls.same h rfl rfl rfl rfl
      exact hkept.finish answer (hkept.stopActive hended)
    · exact h

end KeptByCalls

/-! ## Whole shutdowns -/

/-- The run loop is told to exit at most once, and the power is turned off at most once and before
that. -/
def Orderly (calls : List PortCall) : Prop :=
  calls.count .triggerExit ≤ 1 ∧ calls.count .powerOff ≤ 1 ∧
    ∀ before after, calls = before ++ .triggerExit :: after →
      .powerOff ∈ before ∧ .powerOff ∉ after

theorem Open.orderly {calls : List PortCall} (h : Open calls) : Orderly calls := by
  refine ⟨?_, ?_, ?_⟩
  · rw [List.count_eq_zero.2 h.2]
    exact Nat.zero_le 1
  · rw [List.count_eq_zero.2 h.1]
    exact Nat.zero_le 1
  · rintro before after rfl
    exact absurd (by simp) h.2

theorem Ended.triggerExit_mem {calls : List PortCall} (h : Ended calls) : .triggerExit ∈ calls := by
  obtain ⟨before, after, rfl, -, -⟩ := h
  simp

theorem Ended.orderly {calls : List PortCall} (h : Ended calls) : Orderly calls := by
  obtain ⟨before, after, rfl, hbefore, hafter⟩ := h
  refine ⟨?_, ?_, ?_⟩
  · simp [List.count_append, List.count_eq_zero.2 hbefore.2, List.count_eq_zero.2 hafter.2]
  · simp [List.count_append, List.count_eq_zero.2 hbefore.1, List.count_eq_zero.2 hafter.1]
  · -- the exit is not in `before` nor in `after`, so it is the one between them
    intro before' after' hsplit
    have hmid : (before ++ [.powerOff]) ++ .triggerExit :: after =
        before' ++ .triggerExit :: after' := by simpa using hsplit
    obtain ⟨rfl, -, rfl⟩ := (List.append_cons_inj_of_notMem (by simp [hbefore.2]) hafter.2).1 hmid
    exact ⟨by simp, hafter.1⟩

/-- **The shutdown state machine.** After any events from the prepared state, with any host, any
results of its sends and any answers to the disconnect: the run loop is told to exit at most once,
the power is turned off at most once and before that, and the HID connection is ended at most once;
and between the shutdown callback and the exit the shutdown waits for the neutral report, or for
the end of the connection with its timer registered. -/
theorem shutdown_state_machine (port : HostPort τ ι) (host : τ) (reconnecting : Bool)
    (events : List (Event ι)) :
    let s := Runs.run (step port) (prepared host reconnecting) events
    s.calls.count .triggerExit ≤ 1 ∧ s.calls.count .powerOff ≤ 1 ∧
      s.calls.countP IsDisconnect ≤ 1 ∧
      (∀ before after, s.calls = before ++ .triggerExit :: after →
        .powerOff ∈ before ∧ .powerOff ∉ after) ∧
      (s.callbackRan = true → .triggerExit ∉ s.calls →
        s.neutralPending = true ∨ (s.disconnectPending = true ∧ s.armed = true)) := by
  intro s
  have hinv : Inv s := Runs.run_invariant (P := Inv) (fun _ event h => step_inv h event)
    (prepared_inv host reconnecting) events
  cases hinv.phase with
  | waiting hran _ _ _ hopen hcount =>
    obtain ⟨hexit, hoff, horder⟩ := hopen.orderly
    refine ⟨hexit, hoff, by omega, horder, ?_⟩
    intro hran'
    exact absurd (hran.symm.trans hran') (by simp)
  | neutral _ hneutral _ _ hopen hcount =>
    obtain ⟨hexit, hoff, horder⟩ := hopen.orderly
    exact ⟨hexit, hoff, by omega, horder, fun _ _ => Or.inl hneutral⟩
  | disconnecting _ _ hdisc harmed _ hopen hcount =>
    obtain ⟨hexit, hoff, horder⟩ := hopen.orderly
    exact ⟨hexit, hoff, by omega, horder, fun _ _ => Or.inr ⟨hdisc, harmed⟩⟩
  | exited _ _ _ hended hcount =>
    obtain ⟨hexit, hoff, horder⟩ := hended.orderly
    refine ⟨hexit, hoff, hcount, horder, ?_⟩
    intro _ hno
    exact absurd hended.triggerExit_mem hno

/-! ## The host -/

theorem cancelActiveReconnectTimeoutTimer_host (s : Shutdown τ) :
    s.cancelActiveReconnectTimeoutTimer.host = s.host := by
  unfold cancelActiveReconnectTimeoutTimer
  split <;> rfl

theorem armShutdownDisconnectTimer_host (s : Shutdown τ) :
    s.armShutdownDisconnectTimer.host = s.host := by
  unfold armShutdownDisconnectTimer
  split <;> rfl

theorem exit_host (s : Shutdown τ) : s.exit.host = s.host := by
  unfold Shutdown.exit powerOff cancelShutdownDisconnectTimer cancelActiveReconnectTimeoutTimer
  dsimp only
  split_ifs <;> rfl

/-- What holds of the host, before or after the callback, holds in a state. -/
def Holds (P : Bool → τ → Prop) (s : Shutdown τ) : Prop := P s.callbackRan s.host

section Holds

variable {P : Bool → τ → Prop}

theorem Holds.exit (h : Holds P s) : Holds P s.exit := by
  unfold Holds
  rw [exit_host, (exit_flags s).1]
  exact h

theorem Holds.arm (h : Holds P s) : Holds P s.armShutdownDisconnectTimer := by
  unfold Holds
  rw [armShutdownDisconnectTimer_host, (armShutdownDisconnectTimer_continues s).ran]
  exact h

variable (hstop : ∀ ran host, P ran host → P ran (port.stop host))

include hstop

/-- A finished shutdown does nothing to the host but stop its report timer. -/
theorem Holds.kept : Kept port (Holds P) where
  flags h _ _ := h
  stop h := hstop _ _ h
  disconnect h _ := h
  arm h := h.arm
  exit h := h.exit

/-- **Host rule**: what the functions behind the port keep, and the neutral send of the callback
establishes, every event of the shutdown keeps. -/
theorem step_holds
    (hstart : ∀ ran host hidCid input, P ran host → P ran (port.start host hidCid input))
    (hcan : ∀ ran host input, P ran host → P ran (port.onCanSendNow host input).2)
    (hneutral : ∀ input, P true (port.sendNeutralNow s.host input).2) (h : Holds P s)
    (event : Event ι) : Holds P (s.step port event) := by
  cases event with
  | request =>
    simp only [step, request]
    split <;> exact h
  | callback input answer =>
    simp only [step]
    split
    · unfold onMainThread
      dsimp only
      split
      · exact (Holds.kept hstop).finish answer (hneutral input)
      · exact hneutral input
      · exact (Holds.kept hstop).finish answer (hneutral input)
    · exact h
  | opened status hidCid input =>
    have hsame : Holds P s.cancelActiveReconnectTimeoutTimer := by
      unfold Holds
      rw [cancelActiveReconnectTimeoutTimer_host,
        (cancelActiveReconnectTimeoutTimer_continues s).ran]
      exact h
    simp only [step, handleConnectionOpened]
    split_ifs
    · exact hsame
    · exact hsame
    · exact hstart _ _ hidCid input hsame
  | canSendNow input answer =>
    simp only [step, handleCanSendNow]
    split_ifs
    · exact h
    · exact (Holds.kept hstop).finish answer (hcan _ _ input h)
    · exact (Holds.kept hstop).finish answer (hcan _ _ input h)
    · exact hcan _ _ input h
  | closed answer => exact (Holds.kept hstop).closed (fun _ hs => (Holds.kept hstop).finish answer hs) h
  | disconnectTimeout answer =>
    simp only [step, shutdownDisconnectTimeout]
    split_ifs
    · exact h
    · exact (Holds.kept hstop).finish answer ((Holds.kept hstop).stopActive h)
    · exact h

end Holds

end Swbt.Shutdown
