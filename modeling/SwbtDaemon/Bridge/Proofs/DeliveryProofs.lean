import Mathlib.Data.List.Induction
import SwbtDaemon.Bridge.Proofs.MessageProofs

/-!
# Proofs: the timer byte and the delivery of replies

Over every run of the adapter the accepted messages bear consecutive timer bytes, and the replies
leave in the order in which they were enqueued.
-/

namespace Swbt

/-! ## The queue refines a bounded list -/

namespace ReplyQueue

variable {queue : ReplyQueue}

theorem length_toList (queue : ReplyQueue) : queue.toList.length = queue.count := by
  simp [toList, Ring.window]

theorem enqueue_refines (queue : ReplyQueue) (hidCid : UInt16) (report : List UInt8) :
    (queue.enqueue hidCid report).1 = (ReplyFifo.enqueue queue.toList hidCid report).1 ∧
      (queue.enqueue hidCid report).2.toList =
        (ReplyFifo.enqueue queue.toList hidCid report).2 := by
  have hvalid : ReplyFifo.validSize report = true ↔ ValidSize report := by
    simp only [ReplyFifo.validSize, ValidSize, Bool.and_eq_true, decide_eq_true_eq]
    omega
  unfold enqueue ReplyFifo.enqueue
  rw [length_toList]
  by_cases hsize : report.length = 0 ∨ report.length > subcommandReplyReportSize
  · have hnot : ¬ ReplyFifo.validSize report = true := fun h => hvalid.1 h hsize
    rw [if_pos hsize, if_pos (by simpa using hnot)]
    exact ⟨rfl, rfl⟩
  · rw [if_neg hsize, if_neg (by simpa using hvalid.2 hsize)]
    by_cases hroom : queue.count < replyQueueCapacity
    · rw [dif_neg (by omega), if_pos hroom]
      exact ⟨rfl, Ring.window_push hroom _⟩
    · rw [dif_pos (by omega), if_neg hroom]
      exact ⟨rfl, rfl⟩

theorem toList_of_empty (h : queue.count = 0) : queue.toList = [] :=
  List.length_eq_zero_iff.1 ((length_toList queue).trans h)

/-- An empty queue answers that it is empty. -/
theorem sendNext_of_empty (h : queue.count = 0) (sent : Bool) :
    queue.sendNext sent = (.empty, queue) := by
  rw [sendNext, if_pos h]

theorem sendNext_refines (queue : ReplyQueue) (sent : Bool) :
    (queue.sendNext sent).1 = (ReplyFifo.sendNext queue.toList sent).1 ∧
      (queue.sendNext sent).2.toList = (ReplyFifo.sendNext queue.toList sent).2 := by
  by_cases hempty : queue.count = 0
  · rw [sendNext_of_empty hempty, toList_of_empty hempty]
    exact ⟨rfl, rfl⟩
  · have hsize : 0 < queue.size := Nat.pos_of_ne_zero hempty
    have hcons := toList_eq_cons hsize
    cases sent with
    | false =>
      rw [sendNext_of_failed hsize, hcons]
      exact ⟨rfl, rfl⟩
    | true =>
      obtain ⟨hok, htail⟩ := sendNext_of_sent hsize
      rw [hok, htail, hcons]
      exact ⟨rfl, rfl⟩

/-- **Step lemma**: a call of the queue is the call of the list. -/
theorem after_refines (queue : ReplyQueue) (call : Call) :
    (queue.after call).toList = ReplyFifo.after queue.toList call ∧
      [queue.answer call] = [ReplyFifo.answer queue.toList call] := by
  cases call with
  | init => exact ⟨rfl, rfl⟩
  | enqueue hidCid report =>
    obtain ⟨hresult, hlist⟩ := enqueue_refines queue hidCid report
    refine ⟨hlist, ?_⟩
    rw [answer, ReplyFifo.answer, hresult]
  | sendNext sent =>
    obtain ⟨hresult, hlist⟩ := sendNext_refines queue sent
    have hhead : (if queue.count = 0 then none else some queue.headItem) = queue.toList.head? := by
      by_cases hempty : queue.count = 0
      · rw [if_pos hempty, toList_of_empty hempty]
        rfl
      · rw [if_neg hempty, toList_eq_cons (Nat.pos_of_ne_zero hempty)]
        rfl
    refine ⟨hlist, ?_⟩
    rw [answer, ReplyFifo.answer, hresult, hhead]

/-- A call that fails leaves the queue as it is. -/
theorem after_of_failed (queue : ReplyQueue) {call : Call} (h : (queue.answer call).1 ≠ .ok) :
    queue.after call = queue := by
  cases call with
  | init => exact absurd rfl h
  | enqueue hidCid report =>
    rcases enqueue_cases queue hidCid report with ⟨-, -, hok, -⟩ | ⟨-, hsame⟩
    · exact absurd hok h
    · exact hsame
  | sendNext sent =>
    by_cases hempty : queue.count = 0
    · exact congrArg Prod.snd (sendNext_of_empty hempty sent)
    · have hsize : 0 < queue.size := Nat.pos_of_ne_zero hempty
      cases sent with
      | false => exact congrArg Prod.snd (sendNext_of_failed hsize)
      | true => exact absurd (sendNext_of_sent hsize).1 h

end ReplyQueue

namespace TimerAdapter

open ReportLoop (Event handle)

variable {adapter : TimerAdapter} {P : List UInt8 → Prop}

/-- The options stay as they were configured, and the replies keep their property. -/
theorem run_sound (h : Sound P adapter) {events : List Event}
    (hP : ∀ hidCid report, .enqueueSubcommandReply hidCid report ∈ events → P report) :
    Sound P (Runs.run after adapter events) ∧
      (Runs.run after adapter events).scheduler.reportOptions =
        adapter.scheduler.reportOptions := by
  induction events generalizing adapter with
  | nil => exact ⟨h, rfl⟩
  | cons event events ih =>
    obtain ⟨sent, hsent⟩ := handles h event
    have hnext : Sound P (adapter.after event) := by
      refine h.after event fun hidCid report hevent => hP hidCid report ?_
      rw [hevent]
      exact List.mem_cons_self
    obtain ⟨hsound, hoptions⟩ := ih hnext fun hidCid report hmem =>
      hP hidCid report (List.mem_cons_of_mem event hmem)
    exact ⟨hsound, hoptions.trans hsent.options⟩

/-! ## The timer byte -/

/-- A start gives the timer byte its configured value. -/
theorem start_timer (h : Sound P adapter) (hidCid : UInt16) (timeMs : Nat) :
    (adapter.after (.start hidCid timeMs)).scheduler.timer =
      adapter.scheduler.reportOptions.timer := by
  obtain ⟨scheduler, actions, htimer, -, -, -, hcalls⟩ :=
    start_calls h hidCid (readingUs (ReportLoop.clockMs timeMs))
  have hafter : handle adapter (.start hidCid timeMs) = _ := hcalls
  rw [after, hafter]
  exact htimer

/-- **The shared timer byte**: from a start to the next one, whatever the events and the answers of
the HID sender are, the accepted messages bear consecutive timer bytes from the configured one on;
and every message, also a refused or a repeated one, bears the value that the messages accepted
before it have reached. -/
theorem timerByte_shared {reportPeriodUs : UInt32} {reportOptions : ReportOptions}
    (h : TimerAdapter.init reportPeriodUs reportOptions = .ok adapter) (before : List Event)
    (hidCid : UInt16) (timeMs : Nat) (during : List Event)
    (hstart : ∀ hidCid timeMs, Event.start hidCid timeMs ∉ during)
    (hreplies : ∀ event ∈ before ++ during, EnqueuesReply event) :
    let started := Runs.run after adapter (before ++ [.start hidCid timeMs])
    let sent := Runs.emitted after attempts started during
    (∀ i attempt, (sent.filter (·.accepted))[i]? = some attempt →
      timerByte attempt.message = some ((reportOptions.timer.toNat + i) % 256)) ∧
    ∀ earlier attempt later, sent = earlier ++ attempt :: later →
      timerByte attempt.message =
        some ((reportOptions.timer.toNat + earlier.countP (·.accepted)) % 256) := by
  intro started sent
  have hqueued : ∀ events : List Event, (∀ event ∈ events, EnqueuesReply event) →
      ∀ hidCid report, Event.enqueueSubcommandReply hidCid report ∈ events → IsReply report :=
    fun events hall hidCid report hmem => hall _ hmem
  obtain ⟨hbefore, hoptions⟩ := run_sound (init_sound h)
    (hqueued before fun event hmem => hreplies event (List.mem_append_left _ hmem))
  have hstarted : Sound IsReply started := by
    rw [show started = _ from Runs.run_append ..]
    exact hbefore.after _ (by simp)
  have htimer : started.scheduler.timer = reportOptions.timer := by
    obtain ⟨rfl, -⟩ := init_ok h
    rw [show started = _ from Runs.run_append ..]
    exact (start_timer hbefore hidCid timeMs).trans (congrArg ReportOptions.timer hoptions)
  have hsteps : Runs.AllSteps after (fun _ event => EnqueuesReply event ∧
      ∀ hidCid timeMs, event ≠ .start hidCid timeMs) started during :=
    Runs.allSteps_of_forall (fun _ event hmem =>
      ⟨hreplies event (List.mem_append_right _ hmem),
        fun hidCid timeMs heq => hstart hidCid timeMs (heq ▸ hmem)⟩) started
  have hnumbered := Runs.emitted_numbered (P := Sound IsReply) (fun adapter event hsound hg =>
    ⟨hsound.after event (by rintro hidCid report rfl; exact hg.1),
      attempts_numbered hsound hg.2⟩) hstarted hsteps
  rw [htimer] at hnumbered
  have hbyte : ∀ (attempt : Attempt) (i : Nat),
      attempt.message[2]? = some ((· + 1)^[i] reportOptions.timer) →
        timerByte attempt.message = some ((reportOptions.timer.toNat + i) % 256) := by
    intro attempt i hstamp
    rw [timerByte, hstamp, Option.map_some, iterate_add_one]
  constructor
  · intro i attempt hi
    exact hbyte attempt i (hnumbered.stamp_of_filter hi)
  · intro earlier attempt later hsplit
    rw [show Runs.emitted after attempts started during = _ from hsplit] at hnumbered
    exact hbyte attempt _ hnumbered.stamp_of_split

/-- A refused periodic report, a neutral report and a reply of which the first try is refused: the
accepted messages bear the bytes `254` and `255`, the refused ones those of the next messages. -/
theorem timerByte_shared_retries :
    ∃ adapter, TimerAdapter.init 8000 ⟨254, 0x8E, 0x80⟩ = .ok adapter ∧
      (Runs.emitted after attempts (Runs.run after adapter ([] ++ [.start 64 0]))
          [.timer 8, .canSendNow 8 State.neutral false, .sendNeutralNow true,
            .enqueueSubcommandReply 64 [0x21, 7, 9], .canSendNow 8 State.neutral false,
            .canSendNow 9 State.neutral true]).map
        (fun attempt => (timerByte attempt.message, attempt.accepted)) =
          [(some 254, false), (some 254, true), (some 255, false), (some 255, true)] ∧
      ∀ i attempt, ((Runs.emitted after attempts (Runs.run after adapter ([] ++ [.start 64 0]))
          [.timer 8, .canSendNow 8 State.neutral false, .sendNeutralNow true,
            .enqueueSubcommandReply 64 [0x21, 7, 9], .canSendNow 8 State.neutral false,
            .canSendNow 9 State.neutral true]).filter (·.accepted))[i]? = some attempt →
        timerByte attempt.message = some ((254 + i) % 256) :=
  ⟨_, rfl, by decide +kernel,
    (timerByte_shared (show TimerAdapter.init 8000 ⟨254, 0x8E, 0x80⟩ = _ from rfl) [] 64 0 _
      (by simp) (by simp [EnqueuesReply, IsReply, inputReportSubcommandReply])).1⟩

/-! ## The order of the replies -/

/-- A message carries the reply that it was built from. -/
theorem hidpMessage_carries (adapter : TimerAdapter) (item : ReplyItem) (accepted : Bool) :
    Carries item ⟨item.hidCid, adapter.hidpMessage item.report, accepted⟩ := by
  obtain ⟨hidCid, report⟩ := item
  match report with
  | [] => exact ⟨rfl, rfl, rfl, fun _ _ => rfl⟩
  | [_] => exact ⟨rfl, rfl, rfl, fun _ _ => rfl⟩
  | id :: timer :: rest =>
    by_cases hid : id = inputReportSubcommandReply
    · have hmessage : adapter.hidpMessage (id :: timer :: rest) =
          hidpInputReportHeader :: id :: adapter.scheduler.timer :: rest := if_pos hid
      rw [hmessage]
      refine ⟨rfl, rfl, rfl, fun k hk => ?_⟩
      match k with
      | 0 => rfl
      | 1 => exact absurd rfl hk
      | k + 2 => rfl
    · have hmessage : adapter.hidpMessage (id :: timer :: rest) =
          hidpInputReportHeader :: id :: timer :: rest := if_neg hid
      rw [hmessage]
      exact ⟨rfl, rfl, rfl, fun _ _ => rfl⟩

/-- The accepted replies of an event are those that leave the queue. -/
theorem sentReplies_carry {event : Event} {sent : Sent} (h : Handles adapter event sent) :
    List.Forall₂ Carries sent.front (adapter.sentReplies event) := by
  unfold sentReplies
  rw [h.attempts]
  rcases h.source with ⟨hflushes, -, accepted, rfl⟩ | ⟨hflushes, hnone⟩
  · rw [if_pos hflushes]
    cases accepted with
    | false => exact .nil
    | true => exact .cons (hidpMessage_carries adapter _ true) .nil
  · rw [if_neg (by simp [hflushes])]
    cases sent with
    | nothing => exact .nil
    | report hidCid state accepted => exact .nil
    | reply item accepted => exact absurd rfl (hnone item accepted)

/-- The other accepted messages are `0x30` reports. -/
theorem sentReports_encode {event : Event} {sent : Sent} (h : Handles adapter event sent) :
    ∀ attempt ∈ adapter.sentReports event, ∃ state, Encodes state attempt.message := by
  intro attempt hmem
  unfold sentReports at hmem
  rw [h.attempts] at hmem
  rcases h.source with ⟨hflushes, -⟩ | ⟨hflushes, hnone⟩
  · rw [if_pos hflushes] at hmem
    exact absurd hmem List.not_mem_nil
  · rw [if_neg (by simp [hflushes])] at hmem
    cases sent with
    | nothing => exact absurd hmem List.not_mem_nil
    | report hidCid state accepted =>
      obtain rfl := List.mem_singleton.1 (List.mem_filter.1 hmem).1
      exact ⟨state, _, _, rfl, rfl⟩
    | reply item accepted => exact absurd rfl (hnone item accepted)

/-- Every adapter that can be started handles every event. -/
theorem sound_after (h : Sound (fun _ => True) adapter) (event : Event) :
    Sound (fun _ => True) (adapter.after event) :=
  h.after event fun _ _ _ => trivial

/-- While the adapter does not run, only a start has an effect on it. -/
theorem after_of_stopped (hrunning : adapter.running = false)
    (hempty : adapter.replyQueue.toList = []) {event : Event}
    (hstart : ∀ hidCid timeMs, event ≠ .start hidCid timeMs) :
    (adapter.after event).running = false ∧ (adapter.after event).replyQueue.toList = [] := by
  by_cases hstop : event = .stop
  · subst hstop
    exact ⟨rfl, rfl⟩
  · rw [after, handle_of_stopped hrunning hstart hstop]
    exact ⟨hrunning, hempty⟩

/-- When no start is open, the queue is empty. -/
theorem run_of_stopped {reportPeriodUs : UInt32} {reportOptions : ReportOptions}
    (h : TimerAdapter.init reportPeriodUs reportOptions = .ok adapter) {events : List Event}
    (hstopped : Stopped events) :
    (Runs.run after adapter events).running = false ∧
      (Runs.run after adapter events).replyQueue.toList = [] := by
  -- The last event decides: a stop closes what came before it.
  induction events using List.reverseRecOn with
  | nil =>
    obtain ⟨rfl, -⟩ := init_ok h
    exact ⟨rfl, rfl⟩
  | append_singleton events event ih =>
    rw [Runs.run_append]
    by_cases hstop : event = .stop
    · subst hstop
      exact ⟨rfl, rfl⟩
    · have hbefore : Stopped events := by
        intro earlier hidCid timeMs later hsplit
        have hmem := hstopped earlier hidCid timeMs (later ++ [event]) (by simp [hsplit])
        rcases List.mem_append.1 hmem with hmem | hmem
        · exact hmem
        · exact absurd (List.mem_singleton.1 hmem).symm hstop
      obtain ⟨hrunning, hempty⟩ := ih hbefore
      refine after_of_stopped hrunning hempty fun hidCid timeMs heq => ?_
      have hmem := hstopped events hidCid timeMs [] (by rw [heq])
      exact absurd hmem List.not_mem_nil

/-- **Step lemma**: what an event sends from the queue, and what it leaves there. -/
theorem replies_in_order (h : Sound (fun _ => True) adapter) {event : Event}
    (hstop : event ≠ .stop) :
    Sound (fun _ => True) (adapter.after event) ∧
      ∃ front, front ++ (adapter.after event).replyQueue.toList =
          adapter.replyQueue.toList ++ adapter.enqueuedReplies event ∧
        List.Forall₂ Carries front (adapter.sentReplies event) := by
  obtain ⟨sent, hsent⟩ := handles h event
  exact ⟨sound_after h event, sent.front, (hsent.replies hstop).symm, sentReplies_carry hsent⟩

/-- With stops among the events, replies may also be dropped. -/
theorem replies_sublist (h : Sound (fun _ => True) adapter) (event : Event) :
    Sound (fun _ => True) (adapter.after event) ∧
      ∃ front, List.Sublist (front ++ (adapter.after event).replyQueue.toList)
          (adapter.replyQueue.toList ++ adapter.enqueuedReplies event) ∧
        List.Forall₂ Carries front (adapter.sentReplies event) := by
  by_cases hstop : event = .stop
  · subst hstop
    exact ⟨sound_after h .stop, [], List.nil_sublist _, .nil⟩
  · obtain ⟨hsound, front, hfront, hcarry⟩ := replies_in_order h hstop
    exact ⟨hsound, front, hfront ▸ List.Sublist.refl _, hcarry⟩

section Delivery

variable {reportPeriodUs : UInt32} {reportOptions : ReportOptions}

/-- A start leaves the queue as it is. -/
theorem start_replyQueue (h : Sound P adapter) (hidCid : UInt16) (timeMs : Nat) :
    (adapter.after (.start hidCid timeMs)).replyQueue = adapter.replyQueue := by
  obtain ⟨scheduler, actions, -, -, -, -, hcalls⟩ :=
    start_calls h hidCid (readingUs (ReportLoop.clockMs timeMs))
  have hafter : handle adapter (.start hidCid timeMs) = _ := hcalls
  rw [after, hafter]

/-- From a start to the next stop: the accepted replies, and then the queued ones, are those
enqueued since the start. -/
theorem replies_since_start (h : TimerAdapter.init reportPeriodUs reportOptions = .ok adapter)
    {before during : List Event} (hbefore : Stopped before) (hduring : Event.stop ∉ during)
    (hidCid : UInt16) (timeMs : Nat) :
    let started := Runs.run after adapter (before ++ [.start hidCid timeMs])
    (∃ delivered,
      delivered ++ (Runs.run after started during).replyQueue.toList =
          Runs.emitted after enqueuedReplies started during ∧
        List.Forall₂ Carries delivered (Runs.emitted after sentReplies started during)) ∧
      ∀ attempt ∈ Runs.emitted after sentReports started during,
        ∃ state, Encodes state attempt.message := by
  intro started
  have hsound := (run_sound (init_sound h) fun _ _ (_ : _ ∈ before) => trivial).1
  have hstarted : Sound (fun _ => True) started := by
    rw [show started = _ from Runs.run_append ..]
    exact sound_after hsound _
  have hempty : started.replyQueue.toList = [] := by
    rw [show started = _ from Runs.run_append .., Runs.run_cons, Runs.run_nil,
      start_replyQueue hsound]
    exact (run_of_stopped h hbefore).2
  have hsteps : Runs.AllSteps after (fun _ event => event ≠ .stop) started during := by
    apply Runs.allSteps_of_forall
    rintro _ event hmem rfl
    exact hduring hmem
  constructor
  · obtain ⟨front, hfront, hcarry⟩ := Runs.emitted_in_order (P := Sound fun _ => True) Eq
      (fun _ => rfl) (fun _ _ _ => Eq.trans) (fun _ _ _ _ hxs hzs => by rw [hxs, hzs])
      (fun adapter => adapter.replyQueue.toList)
      (fun _ _ hsound hstop => replies_in_order hsound hstop) hstarted hsteps
    exact ⟨front, by rw [hfront, hempty, List.nil_append], hcarry⟩
  · refine Runs.forall_mem_emitted (fun adapter event hsound hstop => ?_) hstarted hsteps
    obtain ⟨sent, hsent⟩ := handles hsound event
    exact ⟨sound_after hsound event, sentReports_encode hsent⟩

/-- After a stop, whatever follows: the accepted replies are among those enqueued since then. -/
theorem replies_after_stop (h : TimerAdapter.init reportPeriodUs reportOptions = .ok adapter)
    (before later : List Event) :
    let stopped := Runs.run after adapter (before ++ [.stop])
    ∃ delivered, List.Sublist delivered (Runs.emitted after enqueuedReplies stopped later) ∧
      List.Forall₂ Carries delivered (Runs.emitted after sentReplies stopped later) := by
  intro stopped
  have hsound := (run_sound (init_sound h) fun _ _ (_ : _ ∈ before) => trivial).1
  have hstopped : Sound (fun _ => True) stopped := by
    rw [show stopped = _ from Runs.run_append ..]
    exact sound_after hsound _
  have hempty : stopped.replyQueue.toList = [] := by
    rw [show stopped = _ from Runs.run_append ..]
    rfl
  have hsteps : Runs.AllSteps after (fun _ _ => True) stopped later :=
    Runs.allSteps_of_forall (fun _ _ _ => trivial) stopped
  obtain ⟨front, hfront, hcarry⟩ := Runs.emitted_in_order (P := Sound fun _ => True)
    List.Sublist List.Sublist.refl (fun _ _ _ => List.Sublist.trans)
    (fun _ _ _ _ hxs hzs => hxs.append hzs) (fun adapter => adapter.replyQueue.toList)
    (fun _ event hsound _ => replies_sublist hsound event) hstopped hsteps
  refine ⟨front, ?_, hcarry⟩
  rw [hempty, List.nil_append] at hfront
  exact (List.sublist_append_left _ _).trans hfront

end Delivery

/-- **The delivery of replies.** The ring buffer is a bounded list, first in, first out, over every
list of calls; a call that fails leaves it as it is. Over every run of the adapter from a start to
the next stop, the replies that the HID sender accepts and those still queued are the replies
enqueued since that start, in their order; and what is sent after a stop was enqueued after it. -/
theorem replies_delivered_in_order :
    (∀ (queue : ReplyQueue) (calls : List ReplyQueue.Call),
      (Runs.run ReplyQueue.after queue calls).toList =
          Runs.run ReplyFifo.after queue.toList calls ∧
        Runs.emitted ReplyQueue.after (fun queue call => [queue.answer call]) queue calls =
          Runs.emitted ReplyFifo.after (fun replies call => [ReplyFifo.answer replies call])
            queue.toList calls ∧
        (Runs.run ReplyQueue.after queue calls).toList.length ≤ replyQueueCapacity) ∧
    (∀ (queue : ReplyQueue) (call : ReplyQueue.Call), (queue.answer call).1 ≠ .ok →
      queue.after call = queue) ∧
    ∀ reportPeriodUs reportOptions adapter,
      TimerAdapter.init reportPeriodUs reportOptions = .ok adapter →
        (∀ before hidCid timeMs during, Stopped before → Event.stop ∉ during →
          let started := Runs.run after adapter (before ++ [.start hidCid timeMs])
          (∃ delivered,
            delivered ++ (Runs.run after started during).replyQueue.toList =
                Runs.emitted after enqueuedReplies started during ∧
              List.Forall₂ Carries delivered (Runs.emitted after sentReplies started during)) ∧
            ∀ attempt ∈ Runs.emitted after sentReports started during,
              ∃ state, Encodes state attempt.message) ∧
        ∀ before later,
          let stopped := Runs.run after adapter (before ++ [.stop])
          ∃ delivered,
            List.Sublist delivered (Runs.emitted after enqueuedReplies stopped later) ∧
              List.Forall₂ Carries delivered (Runs.emitted after sentReplies stopped later) := by
  refine ⟨fun queue calls => ?_, fun queue call => queue.after_of_failed, ?_⟩
  · obtain ⟨hrun, hanswers⟩ := Runs.emitted_simulation (fun queue call => [queue.answer call])
      (fun replies call => [ReplyFifo.answer replies call]) ReplyQueue.toList
      ReplyQueue.after_refines queue calls
    refine ⟨hrun, hanswers, ?_⟩
    rw [ReplyQueue.length_toList]
    exact (Runs.run ReplyQueue.after queue calls).count_le
  · intro reportPeriodUs reportOptions adapter h
    constructor
    · intro before hidCid timeMs during hbefore hduring
      exact replies_since_start h hbefore hduring hidCid timeMs
    · intro before later
      exact replies_after_stop h before later

end TimerAdapter

end Swbt
