import SwbtDaemon.Bridge.Proofs.TimingProofs

/-!
# Proofs: which message goes first

While a neutral report is pending nothing else is sent, and after a reply no periodic report is
sent for 300 ms of the run loop's clock, unless a pending neutral report or a start comes between.
-/

namespace Swbt

namespace TimerAdapter

open ReportLoop (Event handle clockMs)

variable {adapter : TimerAdapter}

/-! ## The pending neutral report -/

theorem start_attempts (adapter : TimerAdapter) (hidCid : UInt16) (timeMs : Nat) :
    adapter.attempts (.start hidCid timeMs) = [] := by
  simp only [attempts, handle, start]
  split
  · rfl
  · split <;> rfl

/-- What an event does while a neutral report is pending: it sends nothing but a neutral report,
from the flush or at once, and the report stays pending until one is accepted, the adapter is
started or it is stopped. -/
structure KeepsNeutralFirst (adapter : TimerAdapter) (event : Event) : Prop where
  source : adapter.attempts event ≠ [] →
    adapter.FlushesNeutral event ∨ ∃ accepted, event = .sendNeutralNow accepted
  neutral : ∀ attempt ∈ adapter.attempts event, Encodes State.neutral attempt.message
  pending : (adapter.after event).neutralSendPending = true ∨ adapter.Accepts event ∨
    IsStart event ∨ event = .stop

/-- An event that sends nothing and leaves the report pending. -/
theorem KeepsNeutralFirst.silent {event : Event} (hnone : adapter.attempts event = [])
    (hpending : (adapter.after event).neutralSendPending = true ∨ adapter.Accepts event ∨
      IsStart event ∨ event = .stop) : KeepsNeutralFirst adapter event :=
  ⟨fun h => absurd hnone h, by simp [hnone], hpending⟩

/-- The one message of a neutral report. -/
theorem neutralAttempt_encodes (hidCid : UInt16) (options : ReportOptions)
    (accepted : Bool) : ∀ attempt ∈ ([⟨hidCid,
      hidpInputReportHeader :: fullReport State.neutral options, accepted⟩] : List Attempt),
        Encodes State.neutral attempt.message := by
  intro attempt hattempt
  rw [List.mem_singleton.1 hattempt]
  exact ⟨options, _, buildStandardFullReport_eq State.neutral options, rfl⟩

theorem accepts_of_report {event : Event} {hidCid : UInt16} {state : State}
    (h : adapter.attempts event = Sent.attempts adapter (.report hidCid state true)) :
    adapter.Accepts event := by
  rw [Accepts, h]
  exact ⟨_, List.mem_cons_self, rfl⟩

theorem flushNeutral_attempts (hrunning : adapter.running = true)
    (hpending : adapter.neutralSendPending = true) (timeMs : Nat) (state : State)
    (accepted : Bool) :
    adapter.attempts (.canSendNow timeMs state accepted) =
      Sent.attempts adapter (.report adapter.hidCid State.neutral accepted) := by
  rw [attempts, handle, onCanSendNow_of_pending hrunning hpending]
  exact (flushNeutral_emits adapter (clockMs timeMs) accepted).attempts

theorem canSendNow_keepsNeutralFirst (hpending : adapter.neutralSendPending = true) (timeMs : Nat)
    (state : State) (accepted : Bool) :
    KeepsNeutralFirst adapter (.canSendNow timeMs state accepted) := by
  by_cases hrunning : adapter.running = true
  · have hhandle : handle adapter (.canSendNow timeMs state accepted) =
        (adapter.flushNeutral (clockMs timeMs) accepted).calls :=
      congrArg Handled.calls (onCanSendNow_of_pending hrunning hpending _ state accepted)
    have hattempts := flushNeutral_attempts hrunning hpending timeMs state accepted
    refine ⟨fun _ => .inl ⟨hrunning, hpending⟩, ?_, ?_⟩
    · rw [hattempts]
      exact neutralAttempt_encodes _ _ accepted
    · cases accepted with
      | false =>
        obtain ⟨message, hcalls⟩ := flushNeutral_refused adapter (clockMs timeMs)
        left
        rw [TimerAdapter.after, hhandle, hcalls]
        exact hpending
      | true =>
        exact .inr (.inl (accepts_of_report hattempts))
  · have hstopped : handle adapter (.canSendNow timeMs state accepted) = (adapter, []) :=
      handle_of_stopped (Bool.not_eq_true _ ▸ hrunning) (by simp) (by simp)
    refine .silent ?_ (.inl ?_)
    · rw [attempts, hstopped]
      rfl
    · rw [TimerAdapter.after, hstopped, hpending]

theorem sendNeutralNow_keepsNeutralFirst (hpending : adapter.neutralSendPending = true)
    (accepted : Bool) : KeepsNeutralFirst adapter (.sendNeutralNow accepted) := by
  by_cases hrunning : adapter.running = true
  · have hattempts : adapter.attempts (.sendNeutralNow accepted) =
        Sent.attempts adapter (.report adapter.hidCid State.neutral accepted) := by
      rw [attempts, handle, sendNeutralNow, if_neg (by simp [hrunning]), sendNeutralReport_eq]
      cases accepted <;> rfl
    refine ⟨fun _ => .inr ⟨accepted, rfl⟩, ?_, ?_⟩
    · rw [hattempts]
      exact neutralAttempt_encodes _ _ accepted
    · cases accepted with
      | false =>
        left
        rw [TimerAdapter.after, handle, sendNeutralNow, if_neg (by simp [hrunning]),
          sendNeutralReport_eq]
        rfl
      | true => exact .inr (.inl (accepts_of_report hattempts))
  · have hstopped : handle adapter (.sendNeutralNow accepted) = (adapter, []) :=
      handle_of_stopped (Bool.not_eq_true _ ▸ hrunning) (by simp) (by simp)
    refine .silent ?_ (.inl ?_)
    · rw [attempts, hstopped]
      rfl
    · rw [TimerAdapter.after, hstopped, hpending]

/-- **Step lemma**: nothing goes before a pending neutral report. -/
theorem keepsNeutralFirst (hpending : adapter.neutralSendPending = true) (event : Event) :
    KeepsNeutralFirst adapter event := by
  cases event with
  | start hidCid timeMs =>
    exact .silent (start_attempts adapter hidCid timeMs) (.inr (.inr (.inl trivial)))
  | timer timeMs =>
    refine .silent (onTimer_emits adapter _).attempts (.inl ?_)
    rw [TimerAdapter.after, handle, onTimer]
    split
    · exact hpending
    · dsimp only
      split
      · exact hpending
      · exact hpending
  | canSendNow timeMs state accepted =>
    exact canSendNow_keepsNeutralFirst hpending timeMs state accepted
  | enqueueSubcommandReply hidCid report =>
    refine .silent (enqueueSubcommandReply_handles adapter hidCid report).attempts (.inl ?_)
    rcases enqueueSubcommandReply_cases adapter hidCid report with
      ⟨queue, -, -, hcalls⟩ | ⟨result, -, hcalls⟩
    · rw [TimerAdapter.after, handle, hcalls]
      exact hpending
    · rw [TimerAdapter.after, handle, hcalls]
      exact hpending
  | sendNeutralNow accepted => exact sendNeutralNow_keepsNeutralFirst hpending accepted
  | stop => exact .silent (stop_handles adapter).attempts (.inr (.inr (.inr rfl)))

/-- **Run lemma**: while the adapter is neither started nor stopped, the first message that is
accepted after a neutral report has become pending is a neutral report. -/
theorem nextAccepted_encodes {events : List Event}
    (hevents : ∀ event ∈ events, ¬ IsStart event ∧ event ≠ .stop)
    (hpending : adapter.neutralSendPending = true) {attempt : Attempt}
    (hfirst : (Runs.emitted after attempts adapter events).find? (·.accepted) = some attempt) :
    Encodes State.neutral attempt.message := by
  induction events generalizing adapter with
  | nil => exact absurd hfirst (nomatch ·)
  | cons event events ih =>
    have hstep := keepsNeutralFirst hpending event
    obtain ⟨hstart, hstop⟩ := hevents event List.mem_cons_self
    rw [Runs.emitted, List.find?_append] at hfirst
    cases hnow : (adapter.attempts event).find? (·.accepted) with
    | some attempt' =>
      rw [hnow, Option.some_or] at hfirst
      obtain rfl := Option.some.inj hfirst
      exact hstep.neutral attempt' (List.mem_of_find?_eq_some hnow)
    | none =>
      rw [hnow, Option.none_or] at hfirst
      have hnone : ¬ adapter.Accepts event := by
        rintro ⟨attempt', hmem, haccepted⟩
        exact List.find?_eq_none.1 hnow attempt' hmem haccepted
      have hstill : (adapter.after event).neutralSendPending = true := by
        rcases hstep.pending with h | h | h | h
        · exact h
        · exact absurd h hnone
        · exact absurd h hstart
        · exact absurd h hstop
      exact ih (fun e he => hevents e (List.mem_cons_of_mem _ he)) hstill hfirst

/-! ## The hold-off after a reply -/

/-- The event ends a hold-off early: a start, or a pending neutral report that is accepted. -/
def Releases (adapter : TimerAdapter) (event : Event) : Prop :=
  IsStart event ∨ adapter.FlushesNeutral event ∧ adapter.Accepts event

/-- What an event that is no start does to the hold-off. -/
inductive HoldoffStep (adapter : TimerAdapter) (event : Event) : Prop
  | kept (hrunning : (adapter.after event).running = adapter.running)
      (hholdoff : (adapter.after event).periodicHoldoffUntilUs = adapter.periodicHoldoffUntilUs)
  | stopped (hrunning : (adapter.after event).running = false)
  | replied (nowMs : UInt32) (hreading : event.reading = some nowMs.toNat)
      (hrunning : (adapter.after event).running = adapter.running)
      (hholdoff : (adapter.after event).periodicHoldoffUntilUs =
        readingUs nowMs + replyPeriodicHoldoffUs)
  | elapsed (nowMs : UInt32) (hreading : event.reading = some nowMs.toNat)
      (hrunning : (adapter.after event).running = adapter.running)
      (hover : adapter.periodicHoldoffUntilUs ≤ readingUs nowMs)
  | released (hreleases : adapter.Releases event)

theorem canSendNow_holdoffStep (adapter : TimerAdapter) (timeMs : Nat) (state : State)
    (accepted : Bool) : HoldoffStep adapter (.canSendNow timeMs state accepted) := by
  have hafter : ∀ calls, (adapter.onCanSendNow (clockMs timeMs) state accepted).calls = calls →
      adapter.after (.canSendNow timeMs state accepted) = calls.1 := fun calls h =>
    congrArg Prod.fst h
  cases canSendNow_branch adapter (clockMs timeMs) state accepted with
  | stopped _ hcalls => exact .kept (by rw [hafter _ hcalls]) (by rw [hafter _ hcalls])
  | idle _ _ _ _ hcalls => exact .kept (by rw [hafter _ hcalls]) (by rw [hafter _ hcalls])
  | neutral hrunning hpending hflush =>
    cases accepted with
    | false =>
      obtain ⟨message, hcalls⟩ := flushNeutral_refused adapter (clockMs timeMs)
      have hkept := hafter _ ((congrArg Handled.calls hflush).trans hcalls)
      exact .kept (by rw [hkept]) (by rw [hkept])
    | true =>
      have hattempts := flushNeutral_attempts hrunning hpending timeMs state true
      exact .released (.inr ⟨⟨hrunning, hpending⟩, accepts_of_report hattempts⟩)
  | reply _ _ hsize hflush =>
    by_cases hsent : accepted = true ∧ ReplyQueue.ValidSize adapter.replyQueue.headItem.report
    · obtain ⟨rfl, hvalid⟩ := hsent
      obtain ⟨message, timer, queue, held, requests, rfl, -, hcalls⟩ :=
        flushReply_accepted hsize hvalid (clockMs timeMs)
      have hheld := hafter _ ((congrArg Handled.calls hflush).trans hcalls)
      exact .replied (clockMs timeMs) rfl (by rw [hheld]; rfl) (by rw [hheld]; rfl)
    · have hfailed : accepted = false ∨
          ¬ ReplyQueue.ValidSize adapter.replyQueue.headItem.report := by
        rwa [not_and_or, Bool.not_eq_true] at hsent
      obtain ⟨actions, -, hcalls⟩ := flushReply_failed hsize hfailed (clockMs timeMs)
      have hkept := hafter _ ((congrArg Handled.calls hflush).trans hcalls)
      exact .kept (by rw [hkept]) (by rw [hkept])
  | periodic _ _ _ _ hflush =>
    by_cases hearly : readingUs (clockMs timeMs) < adapter.periodicHoldoffUntilUs
    · obtain ⟨held, rfl, hcalls⟩ := flushPeriodic_early hearly state accepted
      have hkept := hafter _ ((congrArg Handled.calls hflush).trans hcalls)
      exact .kept (by rw [hkept]) (by rw [hkept])
    · have hover : adapter.periodicHoldoffUntilUs ≤ readingUs (clockMs timeMs) :=
        UInt64.not_lt.1 hearly
      obtain ⟨actions, -, hok, hfailed⟩ := flushPeriodic_tick hover state accepted
      refine .elapsed (clockMs timeMs) rfl ?_ hover
      by_cases hresult :
          (adapter.scheduler.tick (readingUs (clockMs timeMs)) state accepted).1 = .ok
      · obtain ⟨held, rfl, hcalls⟩ := hok hresult
        rw [hafter _ ((congrArg Handled.calls hflush).trans hcalls)]
      · rw [hafter _ ((congrArg Handled.calls hflush).trans (hfailed hresult))]

theorem holdoffStep (adapter : TimerAdapter) (event : Event) : HoldoffStep adapter event := by
  cases event with
  | start hidCid timeMs => exact .released (.inl trivial)
  | timer timeMs =>
    have hsame : (adapter.onTimer (clockMs timeMs)).adapter.running = adapter.running ∧
        (adapter.onTimer (clockMs timeMs)).adapter.periodicHoldoffUntilUs =
          adapter.periodicHoldoffUntilUs := by
      unfold onTimer
      split
      · exact ⟨rfl, rfl⟩
      · dsimp only
        split
        · exact ⟨rfl, rfl⟩
        · exact ⟨rfl, rfl⟩
    exact .kept hsame.1 hsame.2
  | canSendNow timeMs state accepted => exact canSendNow_holdoffStep adapter timeMs state accepted
  | enqueueSubcommandReply hidCid report =>
    rcases enqueueSubcommandReply_cases adapter hidCid report with
      ⟨queue, -, -, hcalls⟩ | ⟨result, -, hcalls⟩
    · exact .kept (by rw [TimerAdapter.after, handle, hcalls]; rfl)
        (by rw [TimerAdapter.after, handle, hcalls]; rfl)
    · exact .kept (by rw [TimerAdapter.after, handle, hcalls]; rfl)
        (by rw [TimerAdapter.after, handle, hcalls]; rfl)
  | sendNeutralNow accepted =>
    have hsame : (adapter.sendNeutralNow accepted).adapter.running = adapter.running ∧
        (adapter.sendNeutralNow accepted).adapter.periodicHoldoffUntilUs =
          adapter.periodicHoldoffUntilUs := by
      unfold sendNeutralNow
      rw [sendNeutralReport_eq]
      split
      · exact ⟨rfl, rfl⟩
      · cases accepted <;> exact ⟨rfl, rfl⟩
    exact .kept hsame.1 hsame.2
  | stop => exact .stopped (by rw [TimerAdapter.after, handle, stop_eq])

/-- The hold-off after a reply that was accepted at the reading `replyMs`, with the last reading
beside the adapter: it lasts until 300 ms after the reply, or this time is over. -/
structure HeldOff (replyMs : Nat) (s : TimerAdapter × Nat) : Prop where
  past : replyMs ≤ s.2
  held : s.1.running = true →
    replyMs * 1000 + 300000 ≤ s.1.periodicHoldoffUntilUs.toNat ∨ replyMs + 300 ≤ s.2

/-- **Step lemma**: an event that does not end the hold-off early keeps it. -/
theorem HeldOff.step {replyMs : Nat} {s : TimerAdapter × Nat} {event : Event}
    (h : HeldOff replyMs s) (honward : Runs.Onward Event.reading s event)
    (hreleases : ¬ s.1.Releases event) :
    HeldOff replyMs (Runs.clocked after Event.reading s event) := by
  have hlast : s.2 ≤ event.reading.getD s.2 := honward.le_getD
  refine ⟨le_trans h.past hlast, fun hrunning => ?_⟩
  dsimp only [Runs.clocked] at hrunning ⊢
  cases holdoffStep s.1 event with
  | kept hsame hholdoff =>
    rw [hholdoff]
    exact (h.held (hsame ▸ hrunning)).imp_right fun hover => le_trans hover hlast
  | stopped hstopped => exact absurd (hstopped.symm.trans hrunning) Bool.false_ne_true
  | replied nowMs hreading _ hholdoff =>
    have hpast := h.past
    rw [hholdoff, toNat_holdoffUntil]
    rw [hreading, Option.getD_some] at hlast
    exact .inl (by omega)
  | elapsed nowMs hreading hsame hover =>
    rw [UInt64.le_iff_toNat_le, toNat_readingUs] at hover
    rw [hreading, Option.getD_some] at hlast ⊢
    right
    rcases h.held (hsame ▸ hrunning) with hheld | hpast
    · omega
    · omega
  | released hreleased => exact absurd hreleased hreleases

/-- A reply that is accepted starts a hold-off at its own reading. -/
theorem sentReplies_heldOff {event : Event} (h : adapter.sentReplies event ≠ []) (last : Nat) :
    ∃ replyMs, event.reading = some replyMs ∧
      HeldOff replyMs (Runs.clocked after Event.reading (adapter, last) event) := by
  have hflushes : adapter.flushesReply event = true := by
    by_contra hnot
    exact h (if_neg hnot)
  rw [sentReplies, if_pos hflushes] at h
  cases event with
  | canSendNow timeMs state accepted =>
    refine ⟨(clockMs timeMs).toNat, rfl, Nat.le_refl _, fun _ => .inl ?_⟩
    rw [flushesReply, Bool.and_eq_true, Bool.and_eq_true, Bool.not_eq_true',
      decide_eq_true_eq] at hflushes
    obtain ⟨⟨hrunning, hpending⟩, hsize⟩ := hflushes
    have hflush := onCanSendNow_of_replies hrunning hpending hsize (clockMs timeMs) state accepted
    by_cases hsent : accepted = true ∧ ReplyQueue.ValidSize adapter.replyQueue.headItem.report
    · obtain ⟨rfl, hvalid⟩ := hsent
      obtain ⟨message, timer, queue, held, requests, rfl, -, hcalls⟩ :=
        flushReply_accepted hsize hvalid (clockMs timeMs)
      rw [Runs.clocked, TimerAdapter.after, handle, hflush, hcalls]
      exact (toNat_holdoffUntil (clockMs timeMs)).ge
    · have hfailed : accepted = false ∨
          ¬ ReplyQueue.ValidSize adapter.replyQueue.headItem.report := by
        rwa [not_and_or, Bool.not_eq_true] at hsent
      obtain ⟨actions, hactions, hcalls⟩ := flushReply_failed hsize hfailed (clockMs timeMs)
      refine absurd ?_ h
      rw [List.filter_eq_nil_iff]
      intro attempt hattempt
      rw [attempts, handle, hflush, hcalls] at hattempt
      obtain ⟨action, haction, hsome⟩ := List.mem_filterMap.1 hattempt
      obtain ⟨hidCid, message, rfl⟩ := hactions action haction
      obtain rfl := Option.some.inj hsome
      exact Bool.false_ne_true
  | _ => exact absurd hflushes Bool.false_ne_true

/-- A periodic report is sent when no reply is queued, outside of the hold-off. -/
theorem sendsPeriodic_holdoff {event : Event} (h : adapter.SendsPeriodic event) :
    adapter.running = true ∧ adapter.replyQueue.size = 0 ∧
      ∃ nowMs : UInt32, event.reading = some nowMs.toNat ∧
        adapter.periodicHoldoffUntilUs ≤ readingUs nowMs := by
  cases event with
  | canSendNow timeMs state accepted =>
    obtain ⟨hneutral, hreply, hsends⟩ := h
    have hsilent : (adapter.onCanSendNow (clockMs timeMs) state accepted).calls.2 = [] →
        adapter.attempts (.canSendNow timeMs state accepted) = [] := by
      intro hnone
      rw [attempts, handle, hnone]
      rfl
    cases canSendNow_branch adapter (clockMs timeMs) state accepted with
    | stopped _ hcalls => exact absurd (hsilent (by rw [hcalls])) hsends
    | idle _ _ _ _ hcalls => exact absurd (hsilent (by rw [hcalls])) hsends
    | neutral hrunning hpending _ => exact absurd ⟨hrunning, hpending⟩ hneutral
    | reply hrunning hpending hsize _ =>
      simp [flushesReply, hrunning, hpending, hsize] at hreply
    | periodic hrunning _ hsize _ hflush =>
      refine ⟨hrunning, Nat.eq_zero_of_not_pos hsize, clockMs timeMs, rfl, ?_⟩
      by_contra hearly
      obtain ⟨held, rfl, hcalls⟩ := flushPeriodic_early (UInt64.not_le.1 hearly) state accepted
      apply hsends
      rw [attempts, handle, hflush, hcalls]
      rfl
  | _ => exact absurd h not_false

/-- **Run lemma**: without a release in between, a periodic report is sent at least 300 ms after a
reply that was accepted. -/
theorem periodic_after_reply {reply periodic : Event} {between : List Event}
    (hsorted : ((reply :: (between ++ [periodic])).filterMap Event.reading).Pairwise (· ≤ ·))
    (hreply : adapter.sentReplies reply ≠ [])
    (hperiodic : (Runs.run after (adapter.after reply) between).SendsPeriodic periodic)
    (hreleases : Runs.AllSteps after (fun a event => ¬ a.Releases event) (adapter.after reply)
      between) :
    ∃ replyMs nowMs, reply.reading = some replyMs ∧ periodic.reading = some nowMs ∧
      replyMs + 300 ≤ nowMs := by
  obtain ⟨replyMs, hreading, hstarted⟩ := sentReplies_heldOff hreply 0
  rw [List.filterMap_cons_some hreading] at hsorted
  obtain ⟨hlater, hsorted⟩ := List.pairwise_cons.1 hsorted
  have honward : Runs.AllSteps (Runs.clocked after Event.reading) (Runs.Onward Event.reading)
      (Runs.clocked after Event.reading (adapter, 0) reply) (between ++ [periodic]) := by
    refine Runs.allSteps_onward hsorted fun t ht => ?_
    rw [Runs.clocked, hreading]
    exact hlater t ht
  obtain ⟨hbetween, hlast, -⟩ := (Runs.allSteps_append _ between [periodic]).1 honward
  have hheld : HeldOff replyMs (Runs.run (Runs.clocked after Event.reading)
      (Runs.clocked after Event.reading (adapter, 0) reply) between) :=
    Runs.run_invariant_of_allSteps (P := HeldOff replyMs) (fun _ _ h hg => h.step hg.1 hg.2)
      hstarted (hbetween.and (Runs.allSteps_clocked hreleases))
  have hstate := Runs.run_clocked_fst after Event.reading
    (Runs.clocked after Event.reading (adapter, 0) reply) between
  have hreached : (Runs.run (Runs.clocked after Event.reading)
      (Runs.clocked after Event.reading (adapter, 0) reply) between).1.SendsPeriodic periodic := by
    rw [hstate]
    exact hperiodic
  obtain ⟨hrunning, -, nowMs, hnow, hover⟩ := sendsPeriodic_holdoff hreached
  refine ⟨replyMs, nowMs.toNat, hreading, hnow, ?_⟩
  rw [UInt64.le_iff_toNat_le, toNat_readingUs] at hover
  have hclock := hlast nowMs.toNat hnow
  rcases hheld.held hrunning with hheld | hpast
  · omega
  · omega

/-- **Send order.** While a neutral report is pending, only its flush and an immediate neutral
report send anything, a neutral report each, and so the next message that is accepted before the
adapter is started or stopped is one; it stays pending until then. A periodic report is sent only
when no reply is queued, and at least 300 ms after a reply that was accepted, unless a pending
neutral report is accepted or the adapter is started in between. -/
theorem send_order (adapter : TimerAdapter) (events : List Event) :
    (∀ earlier event later, events = earlier ++ event :: later →
      let reached := Runs.run after adapter earlier
      reached.neutralSendPending = true →
        (reached.attempts event ≠ [] →
          reached.FlushesNeutral event ∨ ∃ accepted, event = .sendNeutralNow accepted) ∧
        (∀ attempt ∈ reached.attempts event, Encodes State.neutral attempt.message) ∧
        ((reached.after event).neutralSendPending = true ∨ reached.Accepts event ∨
          IsStart event ∨ event = .stop)) ∧
      (∀ earlier during later, events = earlier ++ during ++ later →
        (Runs.run after adapter earlier).neutralSendPending = true →
        (∀ event ∈ during, ¬ IsStart event ∧ event ≠ .stop) →
          ∀ attempt, (Runs.emitted after attempts (Runs.run after adapter earlier) during).find?
            (·.accepted) = some attempt → Encodes State.neutral attempt.message) ∧
      (∀ earlier event later, events = earlier ++ event :: later →
        (Runs.run after adapter earlier).SendsPeriodic event →
          (Runs.run after adapter earlier).replyQueue.size = 0) ∧
      (ReportLoop.Nondecreasing events →
        ∀ earlier reply between periodic later,
          events = earlier ++ reply :: (between ++ periodic :: later) →
          (Runs.run after adapter earlier).sentReplies reply ≠ [] →
          (Runs.run after adapter (earlier ++ reply :: between)).SendsPeriodic periodic →
            (∃ first event rest, between = first ++ event :: rest ∧
              (Runs.run after adapter (earlier ++ reply :: first)).Releases event) ∨
            ∃ replyMs nowMs, reply.reading = some replyMs ∧ periodic.reading = some nowMs ∧
              replyMs + 300 ≤ nowMs) := by
  refine ⟨?_, ?_, ?_, ?_⟩
  · intro earlier event later _ reached hpending
    have hstep := keepsNeutralFirst hpending event
    exact ⟨hstep.source, hstep.neutral, hstep.pending⟩
  · intro earlier during later _ hpending hduring attempt hfirst
    exact nextAccepted_encodes hduring hpending hfirst
  · intro earlier event later _ hperiodic
    exact (sendsPeriodic_holdoff hperiodic).2.1
  · rintro hclock earlier reply between periodic later rfl hreply hperiodic
    have hrun : ∀ middle, Runs.run after adapter (earlier ++ reply :: middle) =
        Runs.run after ((Runs.run after adapter earlier).after reply) middle := fun middle => by
      rw [Runs.run_append, Runs.run_cons]
    rw [or_iff_not_imp_left]
    intro hnone
    have hreleases : Runs.AllSteps after (fun a event => ¬ a.Releases event)
        ((Runs.run after adapter earlier).after reply) between := by
      rw [Runs.allSteps_iff_forall_split]
      intro first event rest hsplit hrelease
      exact hnone ⟨first, event, rest, hsplit, (hrun first).symm ▸ hrelease⟩
    refine periodic_after_reply ?_ hreply (hrun between ▸ hperiodic) hreleases
    have hsorted : List.Pairwise (· ≤ ·) ((earlier ++ ((reply :: (between ++ [periodic])) ++
        later)).filterMap Event.reading) := by
      simpa [ReportLoop.Nondecreasing] using hclock
    rw [List.filterMap_append, List.filterMap_append] at hsorted
    exact (List.pairwise_append.1 (List.pairwise_append.1 hsorted).2.1).1

end TimerAdapter

end Swbt
