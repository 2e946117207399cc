import SwbtDaemon.Daemon.Config
import SwbtDaemon.Daemon.Proofs.UpdatesProofs

/-!
# Proofs: the replies answer the output reports

The replies that the HID sender accepts are those that leave the queue, and only the replies of the
dispatcher are put into it.
-/

namespace Swbt

open Ipc TimerAdapter

namespace Production

/-! ## The calls of the adapter -/

variable {adapter : TimerAdapter}

/-- A message is a reply. -/
def isReply (message : List UInt8) : Bool := messageId message == some inputReportSubcommandReply

/-- The answer that a call has for the HID sender. -/
def callAccepted : ReportLoop.Event → Option Bool
  | .canSendNow _ _ accepted => some accepted
  | .sendNeutralNow accepted => some accepted
  | _ => none

theorem schedulerSends_accepted (adapter : TimerAdapter) (report : Option (List UInt8))
    (accepted : Bool) :
    ∀ attempt ∈ Action.attempts (adapter.schedulerSends report accepted),
      attempt.accepted = accepted := by
  intro attempt hmem
  cases report with
  | none => exact absurd hmem List.not_mem_nil
  | some report =>
    obtain ⟨sent, timer, actions, hactions, hsend⟩ :=
      sendHidpInputReport_cases adapter adapter.scheduler.hidCid report accepted
    obtain ⟨action, haction, hattempt⟩ := List.mem_filterMap.1 hmem
    rw [schedulerSends, hsend] at haction
    rw [hactions action haction] at hattempt
    obtain rfl := Option.some.inj hattempt
    rfl

theorem flushPeriodic_accepted (adapter : TimerAdapter) (nowMs : UInt32) (state : State)
    (accepted : Bool) :
    ∀ attempt ∈ Action.attempts (adapter.flushPeriodic nowMs state accepted).actions,
      attempt.accepted = accepted := by
  intro attempt hmem
  have hsends : ∀ attempt ∈ Action.attempts (adapter.schedulerSends
      (adapter.scheduler.tick (readingUs nowMs) state accepted).2.2 accepted),
      attempt.accepted = accepted := schedulerSends_accepted adapter _ accepted
  unfold flushPeriodic at hmem
  dsimp only at hmem
  split_ifs at hmem
  · exact absurd hmem List.not_mem_nil
  · refine hsends attempt ?_
    simpa only [attempts_append, notifyReportTick_attempts, List.append_nil] using hmem
  · refine hsends attempt ?_
    have hscheduled : ∀ adapter : TimerAdapter, Action.attempts
        (adapter.scheduleNextTimer (readingUs nowMs)).actions = [] := fun _ => rfl
    simpa only [attempts_append, notifyReportTick_attempts, hscheduled, List.append_nil] using hmem

theorem sendNeutralNow_attempts (adapter : TimerAdapter) (accepted : Bool) :
    Action.attempts (adapter.sendNeutralNow accepted).calls.2 = [] ∨
      ∃ message, Action.attempts (adapter.sendNeutralNow accepted).calls.2 =
        [⟨adapter.hidCid, message, accepted⟩] := by
  unfold sendNeutralNow
  split
  · exact Or.inl rfl
  · refine Or.inr
      ⟨hidpInputReportHeader :: fullReport State.neutral adapter.scheduler.currentOptions, ?_⟩
    rw [sendNeutralReport_eq]
    cases accepted with
    | false => rfl
    | true => rfl

/-- The messages of a call get the answer of the call. -/
theorem attempts_accepted (h : Ready adapter) {call : ReportLoop.Event} {attempt : Attempt}
    (hmem : attempt ∈ adapter.attempts call) : callAccepted call = some attempt.accepted := by
  cases call with
  | canSendNow timeMs state accepted =>
    refine congrArg some (Eq.symm ?_)
    unfold attempts ReportLoop.handle onCanSendNow at hmem
    dsimp only at hmem
    split_ifs at hmem with hstopped hneutral hsize hcan
    · exact absurd hmem List.not_mem_nil
    · rw [(flushNeutral_emits adapter _ accepted).attempts] at hmem
      obtain rfl := List.mem_singleton.1 hmem
      rfl
    · rw [(flushReply_emits hsize (h.headItem hsize).1 _ accepted).attempts] at hmem
      obtain rfl := List.mem_singleton.1 hmem
      rfl
    · exact absurd hmem List.not_mem_nil
    · exact flushPeriodic_accepted adapter _ state accepted attempt hmem
  | sendNeutralNow accepted =>
    refine congrArg some (Eq.symm ?_)
    rcases sendNeutralNow_attempts adapter accepted with hnone | ⟨message, hone⟩
    · rw [attempts, ReportLoop.handle, hnone] at hmem
      exact absurd hmem List.not_mem_nil
    · rw [attempts, ReportLoop.handle, hone] at hmem
      obtain rfl := List.mem_singleton.1 hmem
      rfl
  | _ =>
    rw [handle_silent h (by simp) (by simp)] at hmem
    exact absurd hmem List.not_mem_nil

/-- **The accepted replies of a call** are its accepted `0x21` messages. -/
theorem sentReplies_eq (h : Ready adapter) (call : ReportLoop.Event) :
    adapter.sentReplies call =
      (adapter.attempts call).filter fun attempt =>
        attempt.accepted && isReply attempt.message := by
  obtain ⟨sent, hsent⟩ := handles h call
  unfold sentReplies
  rw [hsent.attempts]
  rcases hsent.source with ⟨hflushes, hsize, accepted, rfl⟩ | ⟨hflushes, hnone⟩
  · have hid : isReply (adapter.hidpMessage adapter.replyQueue.headItem.report) = true := by
      simp [isReply, hidpMessage_id, (h.headItem hsize).2]
    rw [if_pos hflushes]
    cases accepted with
    | false => rfl
    | true => simp [Sent.attempts, hid]
  · rw [if_neg (by simp [hflushes])]
    cases sent with
    | nothing => rfl
    | report hidCid state accepted =>
      have hid : isReply (hidpInputReportHeader ::
          fullReport state adapter.scheduler.currentOptions) = false := rfl
      simp [Sent.attempts, hid]
    | reply item accepted => exact absurd rfl (hnone item accepted)

/-! ## One event -/

/-- The calls of an event get the answer of the event. -/
theorem callAccepted_of_mem {s : Shutdown Host} {event : Event} {call : ReportLoop.Event}
    (hmem : call ∈ adapterCalls s event) {accepted : Bool}
    (hcall : callAccepted call = some accepted) : event.accepted = accepted := by
  cases event with
  | shutdown event =>
    cases event with
    | callback | opened | canSendNow =>
      simp only [adapterCalls] at hmem
      split_ifs at hmem
      · obtain rfl := List.mem_singleton.1 hmem
        simp_all [callAccepted, Event.accepted]
      · exact absurd hmem List.not_mem_nil
    | _ => exact absurd hmem List.not_mem_nil
  | outputReport hidCid report deviceInfo timeMs =>
    obtain ⟨reply, -, rfl⟩ := List.mem_map.1 hmem
    cases hcall
  | reportTimer timeMs =>
    obtain rfl := List.mem_singleton.1 hmem
    cases hcall
  | poll timeMs io => exact absurd hmem List.not_mem_nil

/-- The calls of an event, each of which only enqueues dispatched replies. -/
theorem ready_after {s : Shutdown Host} {event : Event} (h : Ready adapter)
    {call : ReportLoop.Event} (hcall : call ∈ adapterCalls s event) :
    Ready (adapter.after call) := by
  refine h.after call ?_
  rintro hidCid report rfl
  obtain ⟨reply, hreply, rfl⟩ := enqueue_mem_adapterCalls hcall
  exact head_of_getElem (dispatchedReplies_answered hreply).2.1

/-- The accepted `0x21` messages of an event are the accepted replies of its calls. -/
theorem sentMessages_replies [Platform] {s : Shutdown Host} {updates : List (UInt32 × State)}
    (h : Tracks s updates) (event : Event) :
    (sentMessages s event).filter isReply =
      (Runs.emitted TimerAdapter.after sentReplies s.host.adapter
        (adapterCalls s event)).map Attempt.message := by
  have hguard : Runs.AllSteps TimerAdapter.after (fun _ call => call ∈ adapterCalls s event)
      s.host.adapter (adapterCalls s event) :=
    Runs.allSteps_of_forall (fun _ _ hcall => hcall) _
  have hanswer : ∀ attempt ∈ Runs.emitted TimerAdapter.after attempts s.host.adapter
      (adapterCalls s event), event.accepted = attempt.accepted := by
    refine Runs.forall_mem_emitted (P := Ready) (fun adapter call hready hcall => ?_) h.ready hguard
    exact ⟨ready_after hready hcall, fun attempt hmem =>
      callAccepted_of_mem hcall (attempts_accepted hready hmem)⟩
  rw [Runs.emitted_congr (P := Ready) (fun adapter call hready hcall =>
    ⟨ready_after hready hcall, sentReplies_eq hready call⟩) h.ready hguard, Runs.emitted_filter]
  unfold sentMessages
  by_cases hpoll : ∃ timeMs io, event = .poll timeMs io
  · obtain ⟨timeMs, io, rfl⟩ := hpoll
    rfl
  · have hperforms := step_performs s fun timeMs io heq => hpoll ⟨timeMs, io, heq⟩
    obtain ⟨-, -, hadapter, hsends⟩ := h.base event
    rw [hperforms.sends, hsends, hadapter, List.nil_append]
    generalize Runs.emitted TimerAdapter.after attempts s.host.adapter (adapterCalls s event) =
      given at hanswer
    cases haccepted : event.accepted with
    | false =>
      rw [if_neg (by simp), List.filter_nil]
      refine (List.map_eq_nil_iff.2 (List.filter_eq_nil_iff.2 fun attempt hmem => ?_)).symm
      simp [← hanswer attempt hmem, haccepted]
    | true =>
      rw [if_pos rfl, List.filter_map]
      refine congrArg _ (List.filter_congr fun attempt hmem => ?_)
      simp [← hanswer attempt hmem, haccepted]

/-- A call of an event enqueues a dispatched reply, or nothing. -/
theorem enqueued_sublist (adapter : TimerAdapter) (s : Shutdown Host) (event : Event) :
    List.Sublist (Runs.emitted TimerAdapter.after enqueuedReplies adapter (adapterCalls s event))
      ((dispatchedReplies s event).map DispatchedReply.item) := by
  cases event with
  | shutdown event =>
    cases event with
    | callback | opened | canSendNow =>
      simp only [adapterCalls]
      split_ifs <;> exact List.nil_sublist _
    | _ => exact List.nil_sublist _
  | outputReport hidCid report deviceInfo timeMs =>
    rw [adapterCalls]
    generalize dispatchedReplies s (.outputReport hidCid report deviceInfo timeMs) = replies
    induction replies generalizing adapter with
    | nil => exact List.nil_sublist _
    | cons reply replies ih =>
      have hfirst : List.Sublist
          (adapter.enqueuedReplies (.enqueueSubcommandReply reply.hidCid reply.report))
          [reply.item] := by
        rw [enqueuedReplies]
        split
        · exact List.Sublist.refl _
        · exact List.nil_sublist _
      exact hfirst.append (ih _)
  | reportTimer timeMs => exact List.nil_sublist _
  | poll timeMs io => exact List.nil_sublist _

/-- The stops after the calls send and enqueue nothing. -/
theorem emitted_stops {α : Type*} {emit : TimerAdapter → ReportLoop.Event → List α}
    (hstop : ∀ adapter, Ready adapter → emit adapter .stop = []) {adapter : TimerAdapter}
    (h : Ready adapter) (stops : Nat) :
    Runs.emitted TimerAdapter.after emit adapter (List.replicate stops .stop) = [] := by
  induction stops generalizing adapter with
  | zero => rfl
  | succ stops ih =>
    rw [List.replicate_succ, Runs.emitted, hstop adapter h, ih (h.after .stop (by simp))]
    rfl

theorem sentReplies_stop (h : Ready adapter) : adapter.sentReplies .stop = [] := by
  rw [sentReplies_eq h, (stop_handles adapter).attempts]
  rfl

/-- A message carries a reply of the queue. -/
def CarriesMessage (item : ReplyItem) (message : List UInt8) : Prop :=
  Carries item ⟨item.hidCid, message, true⟩

theorem Carries.carriesMessage {item : ReplyItem} {attempt : Attempt} (h : Carries item attempt) :
    CarriesMessage item attempt.message :=
  ⟨rfl, h.size, h.header, h.bytes⟩

/-- **Step lemma**: an event sends replies from the front of the queue and adds dispatched ones to
its end, and may drop some. -/
theorem step_replies [Platform] {s : Shutdown Host} {updates : List (UInt32 × State)}
    (h : Tracks s updates) (event : Event) :
    ∃ front, List.Sublist (front ++ (step s event).host.adapter.replyQueue.toList)
        (s.host.adapter.replyQueue.toList ++
          (dispatchedReplies s event).map DispatchedReply.item) ∧
      List.Forall₂ CarriesMessage front ((sentMessages s event).filter isReply) := by
  rw [sentMessages_replies h event]
  by_cases hpoll : ∃ timeMs io, event = .poll timeMs io
  · obtain ⟨timeMs, io, rfl⟩ := hpoll
    exact ⟨[], by simp [dispatchedReplies, step, Host.poll], .nil⟩
  · obtain ⟨stops, hafter⟩ :=
      (step_performs s fun timeMs io heq => hpoll ⟨timeMs, io, heq⟩).adapter
    rw [(h.base event).2.2.1] at hafter
    have hready : Ready (Runs.run TimerAdapter.after s.host.adapter (adapterCalls s event)) := by
      simpa using calls_ready h.ready s event 0
    have hsound : Sound (fun _ => True) s.host.adapter :=
      ⟨h.ready.initialized, h.ready.valid, fun item hitem => ⟨(h.ready.replies item hitem).1, trivial⟩⟩
    obtain ⟨front, hfront, hcarry⟩ := Runs.emitted_in_order (P := Sound fun _ => True)
      (g := fun _ _ => True) List.Sublist List.Sublist.refl (fun _ _ _ => List.Sublist.trans)
      (fun _ _ _ _ hxs hzs => hxs.append hzs) (fun adapter => adapter.replyQueue.toList)
      (fun _ call hsound _ => replies_sublist hsound call) hsound
      (Runs.allSteps_of_forall
        (fun _ _ (_ : _ ∈ adapterCalls s event ++ List.replicate stops .stop) => trivial)
        s.host.adapter)
    rw [← hafter, Runs.emitted_append, emitted_stops (fun _ _ => rfl) hready, List.append_nil]
      at hfront
    rw [Runs.emitted_append, emitted_stops (fun _ => sentReplies_stop) hready, List.append_nil]
      at hcarry
    refine ⟨front, hfront.trans ((List.Sublist.refl _).append (enqueued_sublist _ s event)), ?_⟩
    exact List.forall₂_map_right_iff.2 (hcarry.imp fun _ _ => Carries.carriesMessage)

/-! ## Runs -/

/-- A carried reply of the dispatcher is an answer to its request. -/
theorem answers_of_carries {reply : DispatchedReply} {message : List UInt8}
    (h : CarriesMessage reply.item message)
    (hreply : reply.report.length = subcommandReplyReportSize ∧
      reply.report[0]? = some inputReportSubcommandReply ∧
      reply.report[14]? = some reply.subcommandId) : Answers reply message where
  size := h.size.trans (congrArg (· + 1) hreply.1)
  header := h.header
  id := (h.bytes 0 (by decide)).trans hreply.2.1
  subcommand := (h.bytes 14 (by decide)).trans hreply.2.2
  bytes := h.bytes

/-- A started daemon has no replies queued. -/
theorem start_replies {setup : Setup} {s : Shutdown Host} (h : setup.start = some s) :
    s.host.adapter.replyQueue.toList = [] := by
  unfold Setup.start at h
  split at h
  · rename_i adapter app hadapter happ
    obtain rfl := Option.some.inj h
    obtain ⟨rfl, -⟩ := init_ok hadapter
    rfl
  · exact absurd h (nomatch ·)

/-- **The replies answer the output reports.** After any events of a daemon that has been started,
the `0x21` messages that the HID sender has accepted are replies of the dispatcher to received
output reports: each reply at most once, in the order of the requests, unchanged but for the timer
byte, and naming the subcommand of its request. -/
theorem replies_answer_requests [Platform] {setup : Setup} {s₀ : Shutdown Host}
    (hstart : setup.start = some s₀) (events : List Event) :
    ∃ answered, List.Sublist answered (Runs.emitted step dispatchedReplies s₀ events) ∧
      List.Forall₂ Answers answered
        ((Runs.emitted step sentMessages s₀ events).filter isReply) := by
  have htracks := start_tracks hstart
  have hempty := start_replies hstart
  obtain ⟨front, hfront, hcarry⟩ := Runs.emitted_in_order
    (P := fun s => ∃ updates, Tracks s updates) (g := fun _ _ => True) List.Sublist
    List.Sublist.refl (fun _ _ _ => List.Sublist.trans)
    (fun _ _ _ _ hxs hzs => hxs.append hzs) (fun s => s.host.adapter.replyQueue.toList)
    (fun s event ⟨_, h⟩ _ => ⟨⟨_, step_tracks h event⟩, step_replies h event⟩) ⟨_, htracks⟩
    (Runs.allSteps_of_forall (fun _ _ (_ : _ ∈ events) => trivial) s₀)
  rw [hempty, List.nil_append, Runs.emitted_map] at hfront
  rw [Runs.emitted_filter] at hcarry
  obtain ⟨answered, hsublist, rfl⟩ :=
    List.sublist_map_iff.1 ((List.sublist_append_left _ _).trans hfront)
  refine ⟨answered, hsublist, ?_⟩
  have hreplies : ∀ reply ∈ Runs.emitted step dispatchedReplies s₀ events,
      reply.report.length = subcommandReplyReportSize ∧
        reply.report[0]? = some inputReportSubcommandReply ∧
        reply.report[14]? = some reply.subcommandId :=
    Runs.forall_mem_emitted (P := fun _ => True) (g := fun _ _ => True)
      (fun _ _ _ _ => ⟨trivial, fun _ => dispatchedReplies_answered⟩) trivial
      (Runs.allSteps_of_forall (fun _ _ _ => trivial) s₀)
  have hcarry := (List.forall₂_and_left _ _).2
    ⟨fun reply hmem => hreplies reply (hsublist.subset hmem), List.forall₂_map_left_iff.1 hcarry⟩
  exact hcarry.imp fun reply message h => answers_of_carries h.2 h.1

/-- The console asks for the device info while it is connected, and can be sent to. -/
def askDeviceInfo : List Event :=
  [.shutdown (.opened 0 1 ⟨0, true⟩),
    .outputReport 1 ⟨0x01, 0, Vector.replicate 8 0, some (0x02, [])⟩
      DeviceInfo.swbtPro 4,
    .shutdown (.canSendNow ⟨5, true⟩ .requested)]

/-- The reply to a request for the device info. -/
theorem device_info_is_answered :
    ∃ s₀, defaultSetup.start = some s₀ ∧
      let _ : Platform := Platform.lp64
      ((Runs.emitted step sentMessages s₀ askDeviceInfo).filter isReply).length = 1 ∧
        ∃ answered, List.Sublist answered (Runs.emitted step dispatchedReplies s₀ askDeviceInfo) ∧
          List.Forall₂ Answers answered
            ((Runs.emitted step sentMessages s₀ askDeviceInfo).filter isReply) := by
  let _ : Platform := Platform.lp64
  have hreplied : defaultSetup.start.any (fun s₀ => decide
      (((Runs.emitted step sentMessages s₀ askDeviceInfo).filter isReply).length = 1)) = true := by
    decide +kernel
  obtain ⟨s₀, hstart, hlength⟩ := (Option.any_eq_true _ _).1 hreplied
  exact ⟨s₀, hstart, of_decide_eq_true hlength, replies_answer_requests hstart askDeviceInfo⟩

end Production

end Swbt
