import SwbtDaemon.Ipc.Proofs.AdapterProofs
import SwbtDaemon.Ipc.Requests

/-!
# Proofs: isolation of requests and accounting of updates

`executed` says once what the execution of a command can do. From it follows that a request that is
answered with an error leaves the domain as it is, that nobody but the owner moves the controller,
and that every update is counted once.
-/

namespace Swbt.Ipc

open CString Domain

/-! ## What a command can do -/

/-- The command is one that its sender may make as the owner: it names the sender, and the sender
holds the lease. -/
def Admitted (control : Control) (clientId : UInt32) (command : Command) : Prop :=
  command.ownerClientId = some clientId ∧ control.app.lease.HeldBy clientId

/-- The executions of a command of the client `clientId`: the response body and the control
afterwards. -/
inductive Executed (control : Control) (clientId : UInt32) (command : Command) :
    ResponseBody → Control → Prop where
  /-- A command other than `set_state` is refused. -/
  | refused (code : ErrorCode) (message : List UInt8) (htype : command.type ≠ .setState) :
      Executed control clientId command (.error code message) control
  /-- A `hello` or a `get_status` reads only. -/
  | told {body : ResponseBody} (htype : command.type ≠ .setState)
      (hbody : (∃ status, body = .status status) ∨ body = .helloOk clientId) :
      Executed control clientId command body control
  /-- The lease is free or the sender's already, and it acquires it. -/
  | acquired (htype : command.type = .acquire) (ho : control.app.OwnedAtMostBy clientId) :
      Executed control clientId command (.acquired clientId)
        (control.stepApp (.acquire clientId))
  /-- The owner releases the lease. -/
  | released (htype : command.type = .release) (h : Admitted control clientId command) :
      Executed control clientId command .released (control.stepApp (.revoke .release clientId))
  /-- An update of a client that is not the owner is counted as rejected. -/
  | rejected (message : List UInt8) (htype : command.type = .setState)
      (h : ¬ Admitted control clientId command) :
      Executed control clientId command (.error .notOwner message)
        (control.stepApp .recordStateUpdateRejected)
  /-- A stale update of the owner is counted as rejected and answered as accepted. -/
  | stale (htype : command.type = .setState) (h : Admitted control clientId command)
      (hseq : command.sequence < control.app.lease.lastSequence) :
      Executed control clientId command (.stateAccepted command.sequence)
        (control.stepApp .recordStateUpdateRejected)
  /-- An update of the owner is stored. -/
  | stored (htype : command.type = .setState) (h : Admitted control clientId command)
      (hseq : ¬ command.sequence < control.app.lease.lastSequence) :
      Executed control clientId command (.stateAccepted command.sequence)
        (control.stepApp (.setState clientId command.state command.sequence))

section Execution

variable (control : Control) (clientId : UInt32) (command : Command)

theorem ownerMatches_iff :
    commandOwnerMatchesClient command clientId = true ↔ command.ownerClientId = some clientId := by
  unfold commandOwnerMatchesClient
  exact beq_iff_eq

theorem executed_acquire (htype : command.type = .acquire) :
    Executed control clientId command (executeCommand control clientId command).1.body
      (executeCommand control clientId command).2 := by
  have hne : command.type ≠ .setState := by simp [htype]
  unfold executeCommand
  simp only [htype, Control.acquireClient]
  by_cases ho : control.app.OwnedAtMostBy clientId
  · have hok : control.app.acquire clientId = (.ok, (control.app.acquire clientId).2) := by
      by_cases hown : control.app.lease.hasOwner = true
      · rw [acquire_of_heldBy ⟨hown, ho hown⟩]
      · rw [acquire_of_free (Bool.eq_false_iff.2 hown)]
    rw [hok]
    exact .acquired htype ho
  · obtain ⟨hown, hid⟩ := Classical.not_imp.1 ho
    rw [acquire_of_busy hown hid]
    exact .refused _ _ hne

theorem executed_release (htype : command.type = .release) :
    Executed control clientId command (executeCommand control clientId command).1.body
      (executeCommand control clientId command).2 := by
  have hne : command.type ≠ .setState := by simp [htype]
  unfold executeCommand
  simp only [htype, Control.releaseClient]
  by_cases hm : commandOwnerMatchesClient command clientId = true
  · simp only [hm, Bool.not_true, Bool.false_eq_true, if_false]
    by_cases hheld : control.app.lease.HeldBy clientId
    · have hstep : (control.onApp (control.app.revoke .release clientId)).2 =
          control.stepApp (.revoke .release clientId) := rfl
      rw [revoke_of_heldBy hheld] at hstep ⊢
      have h := Executed.released htype ⟨(ownerMatches_iff clientId command).1 hm, hheld⟩
      rw [← hstep] at h
      exact h
    · have hr : control.app.revoke .release clientId = (.notOwner, control.app) := by
        have hg := (not_heldBy_iff control.app.lease).2 hheld
        unfold revoke Lease.release
        rw [if_pos hg]
        rfl
      rw [hr]
      exact .refused _ _ hne
  · simp only [hm, Bool.not_false, if_true]
    exact .refused _ _ hne

theorem executed_setState (htype : command.type = .setState) :
    Executed control clientId command (executeCommand control clientId command).1.body
      (executeCommand control clientId command).2 := by
  unfold executeCommand
  simp only [htype, Control.submitClientState]
  by_cases hm : commandOwnerMatchesClient command clientId = true
  · have hown := (ownerMatches_iff clientId command).1 hm
    simp only [hm, Bool.not_true, Bool.false_eq_true, if_false]
    by_cases hheld : control.app.lease.HeldBy clientId
    · by_cases hseq : command.sequence < control.app.lease.lastSequence
      · rw [setState_of_stale hheld command.state hseq]
        exact .stale htype ⟨hown, hheld⟩ hseq
      · have hstep : (control.onApp
            (control.app.setState clientId command.state command.sequence)).2 =
            control.stepApp (.setState clientId command.state command.sequence) := rfl
        have h := Executed.stored htype ⟨hown, hheld⟩ hseq
        rw [← hstep] at h
        rw [setState_of_accepted hheld command.state hseq] at h ⊢
        exact h
    · rw [setState_of_not_heldBy hheld]
      exact .rejected _ htype fun h => hheld h.2
  · simp only [hm, Bool.not_false, if_true]
    exact .rejected _ htype fun h => hm ((ownerMatches_iff clientId command).2 h.1)

/-- **What the execution of a command can do.** -/
theorem executed :
    Executed control clientId command (executeCommand control clientId command).1.body
      (executeCommand control clientId command).2 := by
  cases htype : command.type with
  | acquire => exact executed_acquire control clientId command htype
  | release => exact executed_release control clientId command htype
  | setState => exact executed_setState control clientId command htype
  | hello =>
    have h : executeCommand control clientId command =
        (⟨command.requestId.map (copyText jsonStringMax), .helloOk clientId⟩, control) := by
      unfold executeCommand
      simp only [htype]
    rw [h]
    exact .told (by simp [htype]) (.inr rfl)
  | getStatus =>
    unfold executeCommand
    simp only [htype]
    split
    · exact .refused _ _ (by simp [htype])
    · exact .told (by simp [htype]) (.inl ⟨_, rfl⟩)
  | none =>
    unfold executeCommand
    simp only [htype]
    exact .refused _ _ (by simp [htype])

end Execution

/-! ## The accounting of updates -/

theorem executeCommand_stale {control : Control} {clientId : UInt32} {command : Command}
    (htype : command.type = .setState) (h : Admitted control clientId command)
    (hseq : command.sequence < control.app.lease.lastSequence) :
    executeCommand control clientId command =
      (⟨command.requestId.map (copyText jsonStringMax), .stateAccepted command.sequence⟩,
        control.stepApp .recordStateUpdateRejected) := by
  unfold executeCommand
  simp only [htype, Control.submitClientState, (ownerMatches_iff clientId command).2 h.1,
    Bool.not_true, Bool.false_eq_true, if_false]
  rw [setState_of_stale h.2 command.state hseq]
  rfl

/-- A report tick does not count updates. -/
theorem recordReportTick_ipcCounters {metrics after : Metrics} {nowUs : UInt64}
    {sendResult : Metrics.ReportSendResult}
    (h : metrics.recordReportTick nowUs sendResult = some after) :
    after.snapshot.ipcStateAccepted = metrics.snapshot.ipcStateAccepted ∧
      after.snapshot.ipcStateRejected = metrics.snapshot.ipcStateRejected ∧
      after.snapshot.ipcStateCoalesced = metrics.snapshot.ipcStateCoalesced := by
  unfold Metrics.recordReportTick at h
  split at h
  · cases h
  · obtain rfl := Option.some.inj h
    cases metrics.hasLastReportTick <;> cases sendResult <;> exact ⟨rfl, rfl, rfl⟩

/-- The operations other than `set_state` and the record of a rejection do not count. -/
theorem step_ipcCounters (app : Domain) {op : Op} (hrej : op ≠ .recordStateUpdateRejected)
    (hset : ∀ clientId state sequence, op ≠ .setState clientId state sequence) :
    (app.step op).metrics.snapshot.ipcStateAccepted = app.metrics.snapshot.ipcStateAccepted ∧
      (app.step op).metrics.snapshot.ipcStateRejected = app.metrics.snapshot.ipcStateRejected ∧
      (app.step op).metrics.snapshot.ipcStateCoalesced =
        app.metrics.snapshot.ipcStateCoalesced := by
  cases op with
  | setState clientId state sequence => exact absurd rfl (hset clientId state sequence)
  | recordStateUpdateRejected => exact absurd rfl hrej
  | revoke reason clientId =>
    rw [show (app.step (.revoke reason clientId)).metrics = app.metrics from
      revoke_metrics app reason clientId]
    exact ⟨rfl, rfl, rfl⟩
  | recordReportTick nowUs sendResult =>
    simp only [Domain.step, perform, Domain.recordReportTick]
    cases htick : app.metrics.recordReportTick nowUs sendResult with
    | none => exact ⟨rfl, rfl, rfl⟩
    | some metrics => exact recordReportTick_ipcCounters htick
  | _ => exact ⟨rfl, rfl, rfl⟩

theorem toNat_add_one (n : UInt64) : (n + 1).toNat = (n.toNat + 1) % 2 ^ 64 := by
  rw [UInt64.toNat_add]
  rfl

section Accounting

variable [Platform]

/-- A request whose line is not decoded to a command has no effect. -/
theorem serve_of_not_decoded {request : Request}
    (h : request.responseSize = 0 ∨ ∀ command, decodeCommand request.line ≠ .ok command)
    (control : Control) : request.serve control = control := by
  unfold Request.serve handleLine
  by_cases hsize : request.responseSize = 0
  · rw [if_pos hsize]
  · rw [if_neg hsize]
    cases hdecode : decodeCommand request.line with
    | error e => rfl
    | ok command => exact absurd hdecode ((h.resolve_left hsize) command)

theorem serve_of_decoded {request : Request} {command : Command}
    (hsize : request.responseSize ≠ 0) (h : decodeCommand request.line = .ok command)
    (control : Control) :
    request.serve control = (executeCommand control request.clientId command).2 := by
  unfold Request.serve handleLine
  rw [if_neg hsize, h]

theorem setStateCommand_eq_some_iff {request : Request} {command : Command} :
    request.setStateCommand = some command ↔
      request.responseSize ≠ 0 ∧ decodeCommand request.line = .ok command ∧
        command.type = .setState := by
  unfold Request.setStateCommand
  by_cases hsize : request.responseSize = 0
  · simp [hsize]
  · rw [if_neg hsize]
    cases hdecode : decodeCommand request.line with
    | error e => simp
    | ok c =>
      by_cases htype : c.type = .setState
      · simp only [htype, if_true, Option.some.injEq, Except.ok.injEq]
        constructor
        · rintro rfl
          exact ⟨hsize, rfl, htype⟩
        · exact fun h => h.2.1
      · simp only [htype, if_false, Except.ok.injEq]
        constructor
        · intro h
          cases h
        · rintro ⟨-, rfl, h⟩
          exact absurd h htype

/-- A `SET_STATE` line is either stored, with its state and its sequence, or counted as
rejected. -/
theorem serve_setState {request : Request} {command : Command} (control : Control)
    (h : request.setStateCommand = some command) :
    (request.stores control = true ∧
      (request.serve control).app.state = command.state ∧
      (request.serve control).app.lease.lastSequence = command.sequence ∧
      (request.serve control).app.metrics = control.app.metrics.recordStateUpdateAccepted 0) ∨
    (request.stores control = false ∧
      (request.serve control).app = control.app.recordStateUpdateRejected) := by
  obtain ⟨hsize, hdecode, htype⟩ := setStateCommand_eq_some_iff.1 h
  have hstores : request.stores control =
      (commandOwnerMatchesClient command request.clientId &&
        (control.app.setState request.clientId command.state command.sequence).1 == .ok) := by
    unfold Request.stores
    rw [h]
  rw [serve_of_decoded hsize hdecode, hstores]
  have hexec := executed control request.clientId command
  generalize (executeCommand control request.clientId command).1.body = body at hexec
  generalize (executeCommand control request.clientId command).2 = after at hexec ⊢
  cases hexec with
  | refused | told => contradiction
  | acquired hother | released hother => simp [htype] at hother
  | rejected message _ hno =>
    refine .inr ⟨?_, rfl⟩
    by_cases hm : commandOwnerMatchesClient command request.clientId = true
    · have hheld : ¬ control.app.lease.HeldBy request.clientId := fun hheld =>
        hno ⟨(ownerMatches_iff _ command).1 hm, hheld⟩
      rw [hm, setState_of_not_heldBy hheld]
      rfl
    · rw [Bool.eq_false_iff.2 hm, Bool.false_and]
  | stale _ hadm hseq =>
    refine .inr ⟨?_, rfl⟩
    rw [setState_of_stale hadm.2 command.state hseq]
    exact Bool.and_false _
  | stored _ hadm hseq =>
    have hstep : (control.stepApp
        (.setState request.clientId command.state command.sequence)).app =
        (control.app.setState request.clientId command.state command.sequence).2 := rfl
    rw [hstep, (ownerMatches_iff _ command).2 hadm.1,
      setState_of_accepted hadm.2 command.state hseq]
    exact .inl ⟨rfl, rfl, rfl, rfl⟩

/-- An event that is not a `SET_STATE` line does not count. -/
theorem step_of_not_setState {event : Event} (h : event.isSetState = false) (control : Control) :
    event.stores control = false ∧
      (event.step control).app.metrics = control.app.metrics := by
  cases event with
  | request call =>
    have hnone : call.setStateCommand = none := Option.not_isSome_iff_eq_none.1 (by
      rw [Event.isSetState] at h
      rw [h]
      exact Bool.false_ne_true)
    refine ⟨by simp [Event.stores, Request.stores, hnone], ?_⟩
    change (call.serve control).app.metrics = _
    by_cases hdecoded : call.responseSize = 0 ∨
        ∀ command, decodeCommand call.line ≠ .ok command
    · rw [serve_of_not_decoded hdecoded]
    · obtain ⟨hsize, hex⟩ := not_or.1 hdecoded
      obtain ⟨command, hnot⟩ := not_forall.1 hex
      have hdecode := not_not.1 hnot
      have htype : command.type ≠ .setState := fun htype => by
        have hsome := setStateCommand_eq_some_iff.2 ⟨hsize, hdecode, htype⟩
        rw [hnone] at hsome
        cases hsome
      rw [serve_of_decoded hsize hdecode]
      have hexec := executed control call.clientId command
      generalize (executeCommand control call.clientId command).1.body = body at hexec
      generalize (executeCommand control call.clientId command).2 = after at hexec ⊢
      cases hexec with
      | refused | told => rfl
      | acquired => rfl
      | released => exact revoke_metrics control.app .release call.clientId
      | rejected _ hset | stale hset | stored hset => exact absurd hset htype
  | revoke reason clientId => exact ⟨rfl, revoke_metrics control.app reason clientId⟩
  | outputReport => exact ⟨rfl, rfl⟩

/-- **Step lemma**: what one event adds to the three counters. -/
theorem step_counters (control : Control) (event : Event) :
    let before := control.app.metrics.snapshot
    let after := (event.step control).app.metrics.snapshot
    after.ipcStateAccepted.toNat =
        (before.ipcStateAccepted.toNat + (event.stores control).toNat) % 2 ^ 64 ∧
      after.ipcStateRejected.toNat =
        (before.ipcStateRejected.toNat +
          (event.isSetState && !event.stores control).toNat) % 2 ^ 64 ∧
      after.ipcStateCoalesced = before.ipcStateCoalesced := by
  intro before after
  have ha : before.ipcStateAccepted.toNat % 2 ^ 64 = before.ipcStateAccepted.toNat :=
    Nat.mod_eq_of_lt (UInt64.toNat_lt _)
  have hr : before.ipcStateRejected.toNat % 2 ^ 64 = before.ipcStateRejected.toNat :=
    Nat.mod_eq_of_lt (UInt64.toNat_lt _)
  cases hset : event.isSetState with
  | false =>
    obtain ⟨hstores, hmetrics⟩ := step_of_not_setState hset control
    have hafter : after = before := congrArg Metrics.snapshot hmetrics
    rw [hafter, hstores]
    exact ⟨ha.symm, hr.symm, rfl⟩
  | true =>
    cases event with
    | revoke | outputReport => exact absurd hset Bool.false_ne_true
    | request call =>
      obtain ⟨command, hcommand⟩ := Option.isSome_iff_exists.1 hset
      rcases serve_setState control hcommand with
        ⟨hstores, -, -, hmetrics⟩ | ⟨hstores, happ⟩
      · have hafter : after = (control.app.metrics.recordStateUpdateAccepted 0).snapshot :=
          congrArg Metrics.snapshot hmetrics
        rw [hafter, Event.stores, hstores]
        exact ⟨toNat_add_one _, hr.symm, UInt64.add_zero _⟩
      · have hafter : after = control.app.metrics.recordStateUpdateRejected.snapshot :=
          congrArg (fun app => app.metrics.snapshot) happ
        rw [hafter, Event.stores, hstores]
        exact ⟨ha.symm, toNat_add_one _, rfl⟩

theorem isLine_of_isSetState {event : Event} (h : event.isSetState = true) :
    event.isLine = true := by
  cases event with
  | request => rfl
  | revoke | outputReport => exact absurd h Bool.false_ne_true

theorem isSetState_of_stores {control : Control} {event : Event}
    (h : event.stores control = true) : event.isSetState = true := by
  by_contra hset
  rw [(step_of_not_setState (Bool.eq_false_iff.2 hset) control).1] at h
  cases h

/-- **Run lemma**: the counters after a run, from any control with zero counters. -/
theorem run_counters {control : Control}
    (hzero : control.app.metrics.snapshot = Metrics.Snapshot.zero) (events : List Event)
    (hlines : events.countP Event.isLine < 2 ^ 64) :
    let last := (Runs.run Event.step control events).app.metrics.snapshot
    last.ipcStateAccepted.toNat + last.ipcStateRejected.toNat = events.countP Event.isSetState ∧
      last.ipcStateAccepted.toNat = Runs.count Event.step Event.stores control events ∧
      last.ipcStateCoalesced = 0 := by
  intro last
  have hsplit : Runs.count Event.step Event.stores control events +
      Runs.count Event.step (fun c e => e.isSetState && !e.stores c) control events =
        events.countP Event.isSetState := by
    refine Runs.count_add_count (fun c e => ?_) control events
    cases hstores : e.stores c with
    | true =>
      rw [isSetState_of_stores hstores]
      rfl
    | false => simp
  have hle : events.countP Event.isSetState ≤ events.countP Event.isLine :=
    List.countP_mono_left fun _ _ => isLine_of_isSetState
  have haccepted : last.ipcStateAccepted.toNat =
      (0 + Runs.count Event.step Event.stores control events) % 2 ^ 64 := by
    have h := Runs.run_tally
      (m := fun c : Control => c.app.metrics.snapshot.ipcStateAccepted.toNat)
      (fun c e => (step_counters c e).1) (s := control) (UInt64.toNat_lt _) events
    rwa [hzero] at h
  have hrejected : last.ipcStateRejected.toNat =
      (0 + Runs.count Event.step (fun c e => e.isSetState && !e.stores c) control events) %
        2 ^ 64 := by
    have h := Runs.run_tally
      (m := fun c : Control => c.app.metrics.snapshot.ipcStateRejected.toNat)
      (fun c e => (step_counters c e).2.1) (s := control) (UInt64.toNat_lt _) events
    rwa [hzero] at h
  have hcoalesced : last.ipcStateCoalesced = 0 :=
    Runs.run_invariant (P := fun c : Control => c.app.metrics.snapshot.ipcStateCoalesced = 0)
      (fun c e hc => (step_counters c e).2.2.trans hc) (by rw [hzero]; rfl) events
  refine ⟨?_, ?_, hcoalesced⟩ <;> omega

/-- **Every update is counted once.** After any run from the start of the daemon, of request lines
of any clients, revokes and output reports, the accepted and the rejected updates are together the
lines that were decoded to `SET_STATE`, the accepted ones are those whose state the domain stored,
and none is coalesced. A stale update is counted as rejected, and its response is `state_accepted`.
No other event and no other operation of the domain changes the three counters. -/
theorem updates_accounted (readRuntimeStatus : Option (Option RuntimeStatus))
    (events : List Event) :
    ∃ app₀, Domain.init = .ok app₀ ∧
      (events.countP Event.isLine < 2 ^ 64 →
        let start := Control.init app₀ readRuntimeStatus
        let last := (Runs.run Event.step start events).app.metrics.snapshot
        last.ipcStateAccepted.toNat + last.ipcStateRejected.toNat =
            events.countP Event.isSetState ∧
          last.ipcStateAccepted.toNat = Runs.count Event.step Event.stores start events ∧
          last.ipcStateCoalesced = 0) ∧
      (∀ (control : Control) (request : Request) (command : Command),
        request.setStateCommand = some command →
        (request.stores control = true ∧ (request.serve control).app.state = command.state ∧
          (request.serve control).app.lease.lastSequence = command.sequence) ∨
        (request.stores control = false ∧
          (request.serve control).app = control.app.recordStateUpdateRejected)) ∧
      (∀ (control : Control) (request : Request) (command : Command),
        request.setStateCommand = some command →
        Admitted control request.clientId command →
        command.sequence < control.app.lease.lastSequence →
        (request.serve control).app = control.app.recordStateUpdateRejected ∧
          request.answer control =
            encodeResponse ⟨command.requestId.map (copyText jsonStringMax),
              .stateAccepted command.sequence⟩ request.responseSize) ∧
      (∀ (control : Control) (event : Event), event.isSetState = false →
        (event.step control).app.metrics = control.app.metrics) ∧
      (∀ (app : Domain) (op : Op), op ≠ .recordStateUpdateRejected →
        (∀ clientId state sequence, op ≠ .setState clientId state sequence) →
        (app.step op).metrics.snapshot.ipcStateAccepted = app.metrics.snapshot.ipcStateAccepted ∧
          (app.step op).metrics.snapshot.ipcStateRejected =
            app.metrics.snapshot.ipcStateRejected ∧
          (app.step op).metrics.snapshot.ipcStateCoalesced =
            app.metrics.snapshot.ipcStateCoalesced) := by
  obtain ⟨spi, hinit⟩ := init_ok
  refine ⟨initWith spi, hinit, fun hlines => run_counters rfl events hlines,
    fun control request command hcommand => ?_, fun control request command hcommand hadm hseq => ?_,
    fun control event hset => (step_of_not_setState hset control).2, fun app op hrej hset => ?_⟩
  · rcases serve_setState control hcommand with ⟨hstores, hstate, hlast, -⟩ | hrejected
    · exact .inl ⟨hstores, hstate, hlast⟩
    · exact .inr hrejected
  · obtain ⟨hsize, hdecode, htype⟩ := setStateCommand_eq_some_iff.1 hcommand
    have hstale := executeCommand_stale htype hadm hseq
    refine ⟨?_, ?_⟩
    · rw [serve_of_decoded hsize hdecode, hstale]
      rfl
    · unfold Request.answer handleLine
      rw [if_neg hsize, hdecode]
      simp only [hstale]
  · exact step_ipcCounters app hrej hset

end Accounting

end Swbt.Ipc
