import SwbtDaemon.Daemon.Proofs.IpcRunnerProofs
import SwbtDaemon.Daemon.Proofs.PerformsProofs

/-!
# Proofs: the reports show the last accepted update

Only an accepted update of the owner changes the controller state to something else than the neutral
state, and every way of losing the lease makes it neutral.
-/

namespace Swbt

open Ipc TimerAdapter

namespace Production

/-! ## Domain and IPC -/

variable {app : Domain} {updates : List (UInt32 × State)}

theorem ShowsLast.congr {app' : Domain} (h : ShowsLast app updates) (hl : app'.lease = app.lease)
    (hs : app'.state = app.state) : ShowsLast app' updates := by
  unfold ShowsLast
  rw [hl, hs]
  exact h

/-- An operation that is no update keeps the state, or makes it neutral. -/
theorem ShowsLast.step (h : ShowsLast app updates) (op : Domain.Op)
    (hop : ∀ clientId state sequence, op ≠ .setState clientId state sequence) :
    ShowsLast (app.step op) updates := by
  by_cases hother : op.event = .other
  · obtain ⟨hl, hs⟩ := Domain.step_of_other app hother
    exact h.congr hl hs
  cases op with
  | acquire clientId =>
    change ShowsLast (app.acquire clientId).2 updates
    by_cases howner : app.lease.hasOwner = true
    · by_cases hclient : app.lease.ownerClientId = clientId
      · rwa [Domain.acquire_of_heldBy ⟨howner, hclient⟩]
      · rwa [Domain.acquire_of_busy howner hclient]
    · rw [Domain.acquire_of_free (by simpa using howner)]
      exact Or.inl (h.resolve_right fun ⟨_, _, hheld⟩ => howner hheld.1)
  | setState clientId state sequence => exact absurd rfl (hop clientId state sequence)
  | revoke reason clientId =>
    change ShowsLast (app.revoke reason clientId).2 updates
    by_cases hheld : app.lease.HeldBy clientId
    · rw [Domain.revoke_of_heldBy hheld]
      exact Or.inl rfl
    · by_cases hreason : reason = .shutdown
      · rw [hreason]
        exact Or.inl rfl
      · rwa [Domain.revoke_of_not_heldBy hheld hreason]
  | _ => exact absurd rfl hother

/-- An update is shown, if it is accepted. -/
theorem ShowsLast.setState (h : ShowsLast app updates) (clientId : UInt32) (state : State)
    (sequence : UInt64) :
    ShowsLast (app.setState clientId state sequence).2
      (updates ++ if app.lease.HeldBy clientId ∧ app.lease.lastSequence ≤ sequence then
        [(clientId, state)] else []) := by
  by_cases hheld : app.lease.HeldBy clientId
  · by_cases hstale : sequence < app.lease.lastSequence
    · rw [Domain.setState_of_stale hheld state hstale,
        if_neg fun hacc => UInt64.not_le.2 hstale hacc.2, List.append_nil]
      exact h
    · rw [Domain.setState_of_accepted hheld state hstale,
        if_pos ⟨hheld, UInt64.not_lt.1 hstale⟩]
      exact Or.inr ⟨clientId, by simp, hheld⟩
  · rw [Domain.setState_of_not_heldBy hheld, if_neg fun hacc => hheld hacc.1, List.append_nil]
    exact h

variable {control : Control} {clientId : UInt32}

/-- **A command** shows its update, if it is an accepted one. -/
theorem executeCommand_showsLast (h : ShowsLast control.app updates) (clientId : UInt32)
    (command : Command) :
    ShowsLast (executeCommand control clientId command).2.app
      (updates ++ if AcceptedUpdate control.app clientId command then
        [(clientId, command.state)] else []) := by
  have hnone : command.type ≠ .setState → updates ++ (if AcceptedUpdate control.app clientId command
      then [(clientId, command.state)] else []) = updates := by
    intro htype
    rw [if_neg fun hacc => htype hacc.1, List.append_nil]
  unfold executeCommand
  cases htype : command.type with
  | setState =>
    have hguard : (!commandOwnerMatchesClient command clientId) = true ↔
        ¬ command.ownerClientId = some clientId := by
      simp [commandOwnerMatchesClient]
    dsimp only
    by_cases hmatches : command.ownerClientId = some clientId
    · have hset := h.setState clientId command.state command.sequence
      have hiff : AcceptedUpdate control.app clientId command ↔
          control.app.lease.HeldBy clientId ∧
            control.app.lease.lastSequence ≤ command.sequence := by
        simp [AcceptedUpdate, htype, hmatches]
      rw [if_neg fun hno => hguard.1 hno hmatches]
      simp only [hiff]
      split <;> exact hset
    · have hnot : ¬ AcceptedUpdate control.app clientId command := fun hacc => hmatches hacc.2.1
      rw [if_pos (hguard.2 hmatches), if_neg hnot, List.append_nil]
      exact h.congr rfl rfl
  | acquire =>
    rw [hnone (by simp [htype])]
    have hacquire := h.step (.acquire clientId) (by simp)
    dsimp only
    split <;> exact hacquire
  | release =>
    rw [hnone (by simp [htype])]
    have hrelease := h.step (.revoke .release clientId) (by simp)
    dsimp only
    split
    · exact h
    · split <;> exact hrelease
  | getStatus =>
    rw [hnone (by simp [htype])]
    dsimp only
    split <;> exact h
  | none =>
    rw [hnone (by simp [htype])]
    exact h
  | hello =>
    rw [hnone (by simp [htype])]
    exact h

section Polls

variable [Platform]

theorem serveLine_showsLast (h : ShowsLast control.app updates) (connection : Connection)
    (line inbox : List UInt8) (sent : Bool) :
    ShowsLast (serveLine control connection line inbox sent).control.app
      (updates ++ (updateOf control.app connection.clientId line).toList) := by
  have hline : ShowsLast
      (handleLine control connection.clientId (CString.ofArray line) jsonResponseMax).2.app
      (updates ++ (updateOf control.app connection.clientId line).toList) := by
    unfold handleLine updateOf
    rw [if_neg (by decide)]
    cases hdecode : decodeCommand (CString.ofArray line) with
    | error e => simpa using h
    | ok command =>
      have hcommand := executeCommand_showsLast h connection.clientId command
      dsimp only
      split_ifs at hcommand ⊢ <;> exact hcommand
  unfold serveLine
  split <;> rename_i heq <;> rw [heq] at hline <;> exact hline

/-- The updates in the line that was handed on, if one was. -/
def handedUpdates (app : Domain) (clientId : UInt32) (handed : Option (List UInt8)) :
    List (UInt32 × State) :=
  handed.toList.flatMap fun line => (updateOf app clientId line).toList

theorem serve_showsLast (h : ShowsLast control.app updates) {connection : Connection}
    (hlive : connection.Live) (heartbeat : Option UInt64) (io : ServeIo) :
    let served := serveConnectionOnceInternal control connection heartbeat io
    ShowsLast served.control.app
      (updates ++ handedUpdates control.app connection.clientId served.handed) := by
  have hdisconnect := h.step (.revoke .disconnect connection.clientId) (by simp)
  have hnone : updates ++ handedUpdates control.app connection.clientId none = updates :=
    List.append_nil _
  rw [serve_of_live control hlive]
  split <;> dsimp only
  · rwa [hnone]
  · rename_i line inbox hread
    rw [serveLine_handed, ← afterLine_clientId heartbeat]
    simpa [handedUpdates] using
      serveLine_showsLast h (afterLine connection heartbeat) line inbox io.sent
  · rwa [hnone]
  · rwa [hnone]

theorem acceptedUpdates_poll (s : Shutdown Host) (timeMs : Nat) (io : IpcRunner.PollIo) :
    acceptedUpdates s (.poll timeMs io) =
      handedUpdates s.host.sys.control.app s.host.sys.runner.connection.clientId
        (s.host.sys.runner.pollOnceAt s.host.sys.control (IpcRunner.clockReading timeMs)
          io).handed := by
  unfold acceptedUpdates handedUpdates
  dsimp only
  split <;> rename_i hhanded <;> rw [hhanded] <;> simp

/-- **A poll** shows the update in the line that it hands on. -/
theorem pollOnceAt_showsLast {sys : IpcRunner.System} (hinv : IpcRunner.Inv sys)
    (h : ShowsLast sys.control.app updates) (nowMs : UInt64) (io : IpcRunner.PollIo) :
    let polled := sys.runner.pollOnceAt sys.control nowMs io
    ShowsLast polled.control.app (updates ++
      handedUpdates sys.control.app sys.runner.connection.clientId polled.handed) := by
  have hnone : updates ++
      handedUpdates sys.control.app sys.runner.connection.clientId none = updates :=
    List.append_nil _
  unfold IpcRunner.pollOnceAt
  split
  · dsimp only
    rwa [hnone]
  split
  · split <;> dsimp only <;> rwa [hnone]
  rename_i hconn
  have hconn : sys.runner.hasConnection = true := by simpa using hconn
  obtain ⟨hrun, hlive⟩ := hinv.live hconn
  split
  · dsimp only
    rwa [hnone]
  · unfold IpcRunner.checkHeartbeat
    by_cases hdue : sys.runner.connection.HeartbeatDue nowMs
    · rw [checkHeartbeat_of_due hdue]
      simp only [if_true]
      rw [hnone]
      exact h.step (.revoke .heartbeatTimeout sys.runner.connection.clientId) (by simp)
    · rw [checkHeartbeat_of_not_due hdue]
      simp only [reduceCtorEq, if_false]
      rw [hnone]
      exact h
  · have hserve := serve_showsLast h hlive (some nowMs) io.serve
    unfold IpcRunner.serveConnection
    rw [if_neg (by simp [hrun]), if_neg (by simp [hconn])]
    unfold IpcRunner.afterServe
    split <;> exact hserve

end Polls

/-! ## The adapter -/

/-- An adapter that can be started, whose queue holds `0x21` replies. -/
def Ready (adapter : TimerAdapter) : Prop :=
  Sound (fun report => report.head? = some inputReportSubcommandReply) adapter

/-- Events without a call do not send. -/
theorem handle_silent {adapter : TimerAdapter} (h : Ready adapter) {event : ReportLoop.Event}
    (hcan : ∀ timeMs state accepted, event ≠ .canSendNow timeMs state accepted)
    (hneutral : ∀ accepted, event ≠ .sendNeutralNow accepted) : adapter.attempts event = [] := by
  cases event with
  | start hidCid timeMs => exact (start_handles h hidCid timeMs).attempts
  | timer timeMs => exact (onTimer_emits adapter _).attempts
  | canSendNow timeMs state accepted => exact absurd rfl (hcan timeMs state accepted)
  | enqueueSubcommandReply hidCid report =>
    exact (enqueueSubcommandReply_handles adapter hidCid report).attempts
  | sendNeutralNow accepted => exact absurd rfl (hneutral accepted)
  | stop => exact (stop_handles adapter).attempts

/-- **What a call sends**: a neutral report, a report of the state that a can-send event reads, or a
reply. -/
theorem attempts_cases {adapter : TimerAdapter} (h : Ready adapter) {event : ReportLoop.Event}
    {attempt : Attempt} (hmem : attempt ∈ adapter.attempts event) :
    Encodes State.neutral attempt.message ∨
      (∃ timeMs state accepted, event = .canSendNow timeMs state accepted ∧
        Encodes state attempt.message) ∨
      messageId attempt.message = some inputReportSubcommandReply := by
  have hmessage : attempt.message ∈ Action.messages (ReportLoop.handle adapter event).2 := by
    rw [Action.messages_eq]
    exact List.mem_map_of_mem hmem
  have hsends : ∀ state, Sends adapter state (ReportLoop.handle adapter event) →
      Encodes State.neutral attempt.message ∨ Encodes state attempt.message ∨
        messageId attempt.message = some inputReportSubcommandReply := by
    intro state hsends
    refine (hsends.messages _ hmessage).imp_right (Or.imp_right ?_)
    rintro ⟨item, hitem, hid⟩
    rw [hid, (h.replies item hitem).2]
  cases event with
  | canSendNow timeMs state accepted =>
    exact (hsends state (onCanSendNow_sends adapter _ state accepted)).imp_right
      (Or.imp_left fun hencodes => ⟨timeMs, state, accepted, rfl, hencodes⟩)
  | sendNeutralNow accepted =>
    exact (hsends State.neutral (sendNeutralNow_sends adapter State.neutral accepted)).elim Or.inl
      (Or.elim · Or.inl fun hid => Or.inr (Or.inr hid))
  | _ =>
    rw [handle_silent h (by simp) (by simp)] at hmem
    exact absurd hmem List.not_mem_nil

/-- The dispatched replies are `0x21` reports of full size that name their subcommand. -/
theorem dispatchedReplies_answered {s : Shutdown Host} {event : Event} {reply : DispatchedReply}
    (hmem : reply ∈ dispatchedReplies s event) :
    reply.report.length = subcommandReplyReportSize ∧
      reply.report[0]? = some inputReportSubcommandReply ∧
      reply.report[14]? = some reply.subcommandId := by
  cases event with
  | outputReport hidCid report deviceInfo timeMs =>
    have hanswered := (handleOutputReport_answered s.host.sys.control.app report
      s.host.reportOptions deviceInfo (ReportLoop.clockMs timeMs).toUInt64).2
    unfold dispatchedReplies at hmem
    dsimp only at hmem
    generalize s.host.sys.control.app.handleOutputReport report s.host.reportOptions
      deviceInfo (ReportLoop.clockMs timeMs).toUInt64 = handled at hmem hanswered
    obtain ⟨result, response, app⟩ := handled
    dsimp only at hmem hanswered
    split at hmem
    · exact absurd hmem List.not_mem_nil
    · rename_i id data hsubcommand
      split_ifs at hmem with hskip
      · exact absurd hmem List.not_mem_nil
      · obtain rfl := List.mem_singleton.1 hmem
        generalize (dispatch _ _ _).1 = code at hanswered
        cases hanswered id data hsubcommand with
        | reply report hsize hfirst hid =>
          have htake : report.take subcommandReplyReportSize = report :=
            List.take_of_length_le hsize.le
          dsimp only
          rw [htake]
          exact ⟨hsize, hfirst, hid⟩
        | reset => exact absurd (Or.inr (by simp [DispatchResponse.reset])) hskip
  | _ => exact absurd hmem List.not_mem_nil

theorem head_of_getElem {report : List UInt8} {byte : UInt8} (h : report[0]? = some byte) :
    report.head? = some byte := by
  rwa [List.head?_eq_getElem?]

/-- Only dispatched replies are enqueued. -/
theorem enqueue_mem_adapterCalls {s : Shutdown Host} {event : Event} {hidCid : UInt16}
    {report : List UInt8}
    (hmem : .enqueueSubcommandReply hidCid report ∈ adapterCalls s event) :
    ∃ reply ∈ dispatchedReplies s event, reply.report = report := by
  cases event with
  | shutdown event =>
    cases event with
    | callback | opened | canSendNow =>
      simp only [adapterCalls] at hmem
      split_ifs at hmem <;> simp at hmem
    | _ => exact absurd hmem List.not_mem_nil
  | outputReport hidCid' report' deviceInfo timeMs =>
    obtain ⟨reply, hreply, heq⟩ := List.mem_map.1 hmem
    simp only [ReportLoop.Event.enqueueSubcommandReply.injEq] at heq
    exact ⟨reply, hreply, heq.2⟩
  | reportTimer timeMs => simp [adapterCalls] at hmem
  | poll timeMs io => exact absurd hmem List.not_mem_nil

/-- The calls of an event, and the stops after them, keep the adapter ready. -/
theorem calls_ready {adapter : TimerAdapter} (h : Ready adapter) (s : Shutdown Host)
    (event : Event) (stops : Nat) :
    Ready (Runs.run TimerAdapter.after adapter
      (adapterCalls s event ++ List.replicate stops .stop)) := by
  have hguard : ∀ call ∈ adapterCalls s event ++ List.replicate stops .stop,
      ∀ hidCid report, call = .enqueueSubcommandReply hidCid report →
        report.head? = some inputReportSubcommandReply := by
    rintro call hmem hidCid report rfl
    rcases List.mem_append.1 hmem with hcall | hstop
    · obtain ⟨reply, hreply, rfl⟩ := enqueue_mem_adapterCalls hcall
      exact head_of_getElem (dispatchedReplies_answered hreply).2.1
    · exact absurd (List.eq_of_mem_replicate hstop) (by simp)
  exact Runs.run_invariant_of_allSteps (fun _ call hready hcall => hready.after call hcall) h
    (Runs.allSteps_of_forall (fun _ => hguard) adapter)

/-! ## Runs -/

/-- The invariant of the daemon and the updates accepted so far. -/
structure Tracks (s : Shutdown Host) (updates : List (UInt32 × State)) : Prop where
  inv : IpcRunner.Inv s.host.sys
  shows : ShowsLast s.host.sys.control.app updates
  ready : Ready s.host.adapter

theorem inv_congr {sys sys' : IpcRunner.System} (h : IpcRunner.Inv sys)
    (hr : sys'.runner = sys.runner) (hl : sys'.control.app.lease = sys.control.app.lease)
    (hs : sys'.control.app.state = sys.control.app.state) : IpcRunner.Inv sys' := by
  obtain ⟨t, ht⟩ := h.consistent
  refine ⟨?_, ?_, ?_, ?_, t, ht.congr hl hs⟩
  · rw [hr]
    exact h.initialized
  · rw [hr]
    exact h.bound
  · rw [hr]
    exact h.live
  · rw [hr, hl]
    exact h.owner

/-- The operation before the calls of an event is the shutdown revoke or no matter of the lease. -/
theorem ownOps_cases (s : Shutdown Host) (event : Event) :
    ownOps s event = [] ∨ ownOps s event = [.revoke .shutdown 0] ∨
      ∃ op : Domain.Op, op.event = .other ∧ ownOps s event = [op] := by
  unfold ownOps
  split
  · split_ifs
    · exact Or.inr (Or.inl rfl)
    · exact Or.inl rfl
  · exact Or.inr (Or.inr ⟨_, rfl, rfl⟩)
  · exact Or.inl rfl

/-- What the calls of an event start from. -/
theorem Tracks.base {s : Shutdown Host} (h : Tracks s updates) (event : Event) :
    IpcRunner.Inv (baseHost s event).sys ∧
      ShowsLast (baseHost s event).sys.control.app updates ∧
      (baseHost s event).adapter = s.host.adapter ∧ (baseHost s event).sends = [] := by
  unfold baseHost
  rcases ownOps_cases s event with hops | hops | ⟨op, hop, hops⟩
  · rw [hops]
    exact ⟨h.inv, h.shows, rfl, rfl⟩
  · rw [hops]
    exact ⟨IpcRunner.shutdown_inv h.inv, Or.inl rfl, rfl, rfl⟩
  · obtain ⟨hlease, hstate⟩ := Domain.step_of_other s.host.sys.control.app hop
    rw [hops]
    exact ⟨inv_congr h.inv rfl hlease hstate, h.shows.congr hlease hstate, rfl, rfl⟩

/-- **Step lemma**: an event keeps the invariant, with the updates that it brings. -/
theorem step_tracks [Platform] {s : Shutdown Host} (h : Tracks s updates) (event : Event) :
    Tracks (step s event) (updates ++ acceptedUpdates s event) := by
  by_cases hpoll : ∃ timeMs io, event = .poll timeMs io
  · obtain ⟨timeMs, io, rfl⟩ := hpoll
    rw [acceptedUpdates_poll]
    exact ⟨IpcRunner.pollOnceAt_inv h.inv _ io, pollOnceAt_showsLast h.inv h.shows _ io, h.ready⟩
  · have hnot : ∀ timeMs io, event ≠ .poll timeMs io := fun timeMs io heq => hpoll ⟨timeMs, io, heq⟩
    have hnone : acceptedUpdates s event = [] := by
      cases event with
      | poll timeMs io => exact absurd rfl (hnot timeMs io)
      | _ => rfl
    have hperforms := step_performs s hnot
    obtain ⟨hinv, hshows, hadapter, -⟩ := h.base event
    obtain ⟨stops, hafter⟩ := hperforms.adapter
    rw [hnone, List.append_nil]
    refine ⟨inv_congr hinv hperforms.runner hperforms.lease hperforms.state,
      hshows.congr hperforms.lease hperforms.state, ?_⟩
    rw [hafter, hadapter]
    exact calls_ready h.ready s event stops

/-- A started daemon has accepted nothing. -/
theorem start_tracks {setup : Setup} {s : Shutdown Host} (h : setup.start = some s) :
    Tracks s [] := by
  unfold Setup.start at h
  split at h
  · rename_i adapter app hadapter happ
    obtain rfl := Option.some.inj h
    obtain ⟨spi, hinit⟩ := Domain.init_ok
    obtain rfl : _ = app := Except.ok.inj (hinit.symm.trans happ)
    have hshows : Domain.Shows { Domain.initWith spi with
        daemon := setup.daemon
        hardware := setup.hardware } none := ⟨rfl, rfl, rfl, rfl⟩
    have hinv : IpcRunner.Inv ⟨IpcRunner.init, Control.init { Domain.initWith spi with
        daemon := setup.daemon
        hardware := setup.hardware } setup.readRuntimeStatus⟩ :=
      ⟨rfl, (nomatch ·), (nomatch ·), (nomatch ·), none, hshows⟩
    exact ⟨IpcRunner.start_inv hinv setup.config setup.listening, Or.inl rfl,
      init_sound hadapter⟩
  · exact absurd h (nomatch ·)

theorem run_tracks [Platform] {setup : Setup} {s : Shutdown Host} (h : setup.start = some s)
    (events : List Event) :
    Tracks (Runs.run step s events) (Runs.emitted step acceptedUpdates s events) :=
  Runs.run_emitted_invariant (R := Tracks)
    (fun _ _ event htracks => step_tracks htracks event) (start_tracks h) events

/-- A can-send event reads the stored state. -/
theorem canSendNow_mem_adapterCalls {s : Shutdown Host} {event : Event} {timeMs : Nat}
    {state : State} {accepted : Bool}
    (hmem : .canSendNow timeMs state accepted ∈ adapterCalls s event) :
    state = s.host.readState := by
  cases event with
  | shutdown event =>
    cases event with
    | canSendNow input answer =>
      simp only [adapterCalls] at hmem
      split_ifs at hmem
      · simp only [List.mem_singleton, ReportLoop.Event.canSendNow.injEq] at hmem
        exact hmem.2.1
      · exact absurd hmem List.not_mem_nil
    | callback | opened =>
      simp only [adapterCalls] at hmem
      split_ifs at hmem <;> simp at hmem
    | _ => exact absurd hmem List.not_mem_nil
  | outputReport hidCid report deviceInfo timeMs =>
    obtain ⟨reply, -, heq⟩ := List.mem_map.1 hmem
    cases heq
  | reportTimer timeMs => simp [adapterCalls] at hmem
  | poll timeMs io => exact absurd hmem List.not_mem_nil

/-- **What an event sends**: neutral reports, reports of the stored state, and replies. -/
theorem step_sends [Platform] {s : Shutdown Host} (h : Tracks s updates) (event : Event) :
    ∀ message ∈ (step s event).host.sends,
      Encodes State.neutral message ∨ Encodes s.host.readState message ∨
        messageId message = some inputReportSubcommandReply := by
  intro message hmem
  by_cases hpoll : ∃ timeMs io, event = .poll timeMs io
  · obtain ⟨timeMs, io, rfl⟩ := hpoll
    exact absurd hmem List.not_mem_nil
  · have hperforms := step_performs s fun timeMs io heq => hpoll ⟨timeMs, io, heq⟩
    obtain ⟨-, -, hadapter, hsends⟩ := h.base event
    rw [hperforms.sends, hsends, hadapter, List.nil_append] at hmem
    obtain ⟨attempt, hattempt, rfl⟩ := List.mem_map.1 hmem
    have hguard : Runs.AllSteps TimerAdapter.after (fun _ call => call ∈ adapterCalls s event)
        s.host.adapter (adapterCalls s event) :=
      Runs.allSteps_of_forall (fun _ _ hcall => hcall) _
    refine Runs.forall_mem_emitted (P := Ready)
      (Q := fun attempt => Encodes State.neutral attempt.message ∨
        Encodes s.host.readState attempt.message ∨
          messageId attempt.message = some inputReportSubcommandReply)
      (fun adapter call hready hcall => ?_) h.ready hguard attempt hattempt
    refine ⟨hready.after call ?_, fun attempt hattempt => ?_⟩
    · rintro hidCid report rfl
      obtain ⟨reply, hreply, rfl⟩ := enqueue_mem_adapterCalls hcall
      exact head_of_getElem (dispatchedReplies_answered hreply).2.1
    · refine (attempts_cases hready hattempt).imp_right (Or.imp_left ?_)
      rintro ⟨timeMs, state, accepted, rfl, hencodes⟩
      rwa [canSendNow_mem_adapterCalls hcall] at hencodes

/-- **The reports show the last accepted update.** After any events of a daemon that has been
started, with any clients, console, clock and shutdown, a message that the next event gives to the
HID sender is a reply, a report of the neutral state, or a report of the state of the last update
that the domain has accepted; then the client of that update still holds the lease, on the live
connection. -/
theorem reports_show_last_update [Platform] {setup : Setup} {s₀ : Shutdown Host}
    (hstart : setup.start = some s₀) (events : List Event) (event : Event) :
    let s := Runs.run step s₀ events
    ∀ message ∈ (step s event).host.sends,
      messageId message = some inputReportSubcommandReply ∨ Encodes State.neutral message ∨
        ∃ clientId state,
          (Runs.emitted step acceptedUpdates s₀ events).getLast? = some (clientId, state) ∧
          Encodes state message ∧ s.host.sys.control.app.lease.HeldBy clientId ∧
          s.host.sys.runner.running = true ∧ s.host.sys.runner.hasConnection = true ∧
          s.host.sys.runner.connection.Live ∧
          s.host.sys.runner.connection.clientId = clientId := by
  intro s message hmem
  have htracks := run_tracks hstart events
  rcases step_sends htracks event message hmem with hneutral | hstate | hreply
  · exact Or.inr (Or.inl hneutral)
  · rcases htracks.shows with hshown | ⟨clientId, hlast, hheld⟩
    · have hread : s.host.readState = State.neutral := hshown
      exact Or.inr (Or.inl (hread ▸ hstate))
    · obtain ⟨hconn, howner⟩ := htracks.inv.owner hheld.1
      obtain ⟨hrun, hlive⟩ := htracks.inv.live hconn
      exact Or.inr (Or.inr ⟨clientId, _, hlast, hstate, hheld, hrun, hconn, hlive,
        howner.symm.trans hheld.2⟩)
  · exact Or.inl hreply

/-- A client presses the button A while the console is connected. -/
def pressA : List Event :=
  [.shutdown (.opened 0 1 ⟨0, true⟩), .poll 1 ⟨.ready, true, .notReady, ⟨[], [], true⟩⟩] ++
    lateUpdate ++ [.reportTimer 8]

/-- The report that follows carries the button. -/
theorem pressed_button_is_reported :
    ∃ s₀, defaultSetup.start = some s₀ ∧
      let _ : Platform := Platform.lp64
      let s := Runs.run step s₀ pressA
      (∃ message ∈ (step s (.shutdown (.canSendNow ⟨8, true⟩ .requested))).host.sends,
        message[4]? = some 8) ∧
      ∀ message ∈ (step s (.shutdown (.canSendNow ⟨8, true⟩ .requested))).host.sends,
        messageId message = some inputReportSubcommandReply ∨ Encodes State.neutral message ∨
          ∃ clientId state,
            (Runs.emitted step acceptedUpdates s₀ pressA).getLast? = some (clientId, state) ∧
            Encodes state message ∧ s.host.sys.control.app.lease.HeldBy clientId ∧
            s.host.sys.runner.running = true ∧ s.host.sys.runner.hasConnection = true ∧
            s.host.sys.runner.connection.Live ∧
            s.host.sys.runner.connection.clientId = clientId := by
  let _ : Platform := Platform.lp64
  have hpressed : defaultSetup.start.any (fun s₀ => decide
      (∃ message ∈ (step (Runs.run step s₀ pressA)
        (.shutdown (.canSendNow ⟨8, true⟩ .requested))).host.sends, message[4]? = some 8)) = true := by
    decide +kernel
  obtain ⟨s₀, hstart, hbutton⟩ := (Option.any_eq_true _ _).1 hpressed
  exact ⟨s₀, hstart, of_decide_eq_true hbutton, reports_show_last_update hstart pressA _⟩

end Production

end Swbt
