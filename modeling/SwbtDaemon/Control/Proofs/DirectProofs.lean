import SwbtDaemon.Control.Direct
import SwbtDaemon.Ipc.Proofs.AdapterProofs

/-!
# Proofs: direct submission

As long as the direct client holds the lease, the sequence stored there is at most the last one it
has used. So its next sequence is never stale, however its calls interleave with other threads.
-/

namespace Swbt

open Domain

namespace Direct

/-! ## The two halves of a call -/

/-- A call that nothing interrupts is `swbt_control_submit_state`. -/
theorem submitState_eq_uninterrupted (control : Control) (state : State) :
    control.submitState state = uninterrupted control state := by
  unfold Control.submitState uninterrupted begin
  by_cases hok : (control.onApp (control.app.acquire Control.directClientId)).1 = .ok
  · simp only [hok, ne_eq, not_true_eq_false, if_false]
    rfl
  · simp only [hok, ne_eq, not_false_eq_true, if_true]

/-- The first half of a call: it acquires the lease, or another client has it and nothing
changes. -/
theorem begin_cases (control : Control) (state : State) :
    (control.app.OwnedAtMostBy Control.directClientId ∧
      begin control state =
        (none, ⟨control.stepApp (.acquire Control.directClientId), some state⟩)) ∨
    (¬ control.app.OwnedAtMostBy Control.directClientId ∧
      begin control state = (some .ownerBusy, ⟨control, none⟩)) := by
  unfold begin Control.onApp
  by_cases ho : control.app.OwnedAtMostBy Control.directClientId
  · have hok : (control.app.acquire Control.directClientId).1 = .ok := by
      by_cases hown : control.app.lease.hasOwner = true
      · rw [acquire_of_heldBy ⟨hown, ho hown⟩]
      · rw [acquire_of_free (Bool.eq_false_iff.2 hown)]
    exact .inl ⟨ho, by simp [hok, Control.mapAppResult]; rfl⟩
  · obtain ⟨hown, hid⟩ := Classical.not_imp.1 ho
    rw [acquire_of_busy hown hid]
    exact .inr ⟨ho, rfl⟩

/-! ## The invariant -/

/-- After `calls` calls: lease and state belong together, the direct client's sequence is not behind
the lease it holds, and it has counted no further than its calls. -/
structure Inv (calls : Nat) (sys : Direct) : Prop where
  consistent : sys.control.app.Consistent
  sequence : sys.control.app.lease.HeldBy Control.directClientId →
    sys.control.app.lease.lastSequence ≤ sys.control.nextDirectSequence
  counted : sys.control.nextDirectSequence.toNat + sys.pending.isSome.toNat ≤ calls

variable {sys : Direct} {calls : Nat}

theorem init_inv (spi : Spi.Flash) (readRuntimeStatus : Option (Option RuntimeStatus)) :
    Inv 0 (init (initWith spi) readRuntimeStatus) where
  consistent := ⟨none, initWith_shows spi⟩
  sequence h := absurd h.1 Bool.false_ne_true
  counted := Nat.le_refl 0

/-- A foreign operation after which the direct client holds the lease has not touched the lease. -/
theorem lease_of_foreign {app : Domain} {op : Op} (hop : op.Foreign)
    (h : (app.step op).lease.HeldBy Control.directClientId) :
    (app.step op).lease = app.lease := by
  cases op with
  | acquire clientId =>
    have hne : clientId ≠ Control.directClientId := hop
    change (app.acquire clientId).2.lease.HeldBy _ at h
    change (app.acquire clientId).2.lease = _
    by_cases hown : app.lease.hasOwner = true
    · by_cases hid : app.lease.ownerClientId = clientId
      · rw [acquire_of_heldBy ⟨hown, hid⟩]
      · rw [acquire_of_busy hown hid]
    · rw [acquire_of_free (Bool.eq_false_iff.2 hown)] at h
      exact absurd h.2 hne
  | setState clientId state sequence =>
    have hne : clientId ≠ Control.directClientId := hop
    change (app.setState clientId state sequence).2.lease.HeldBy _ at h
    change (app.setState clientId state sequence).2.lease = _
    by_cases hheld : app.lease.HeldBy clientId
    · by_cases hstale : sequence < app.lease.lastSequence
      · rw [setState_of_stale hheld state hstale]
        rfl
      · rw [setState_of_accepted hheld state hstale] at h
        exact absurd (hheld.2.symm.trans h.2) hne
    · rw [setState_of_not_heldBy hheld]
      rfl
  | revoke reason clientId =>
    change (app.revoke reason clientId).2.lease.HeldBy _ at h
    change (app.revoke reason clientId).2.lease = _
    by_cases hheld : app.lease.HeldBy clientId
    · rw [revoke_of_heldBy hheld] at h
      exact absurd h.1 Bool.false_ne_true
    · by_cases hr : reason = .shutdown
      · rw [hr] at h
        exact absurd h.1 Bool.false_ne_true
      · rw [revoke_of_not_heldBy hheld hr]
  | _ => exact (step_of_other app rfl).1

theorem Inv.other (h : Inv calls sys) {op : Op} (hop : op.Foreign) :
    Inv calls (sys.step (.other op)) where
  consistent := h.consistent.step op
  sequence hheld := by
    change (sys.control.app.step op).lease.HeldBy _ at hheld
    change (sys.control.app.step op).lease.lastSequence ≤ sys.control.nextDirectSequence
    have hlease := lease_of_foreign hop hheld
    rw [hlease] at hheld ⊢
    exact h.sequence hheld
  counted := h.counted

theorem Inv.call (h : Inv calls sys) (state : State) :
    Inv (calls + 1) (sys.step (.call state)) := by
  have hcounted := h.counted
  cases hpending : sys.pending with
  | some s =>
    have hstep : sys.step (.call state) = sys := by simp [step, perform, hpending]
    rw [hstep]
    exact ⟨h.consistent, h.sequence, by omega⟩
  | none =>
    have hstep : sys.step (.call state) = (begin sys.control state).2 := by
      simp [step, perform, hpending]
    rw [hpending] at hcounted
    rw [hstep]
    rcases begin_cases sys.control state with ⟨ho, hbegin⟩ | ⟨ho, hbegin⟩
    · rw [hbegin]
      refine ⟨h.consistent.step _, fun _ => ?_, ?_⟩
      · change (sys.control.app.acquire Control.directClientId).2.lease.lastSequence ≤
          sys.control.nextDirectSequence
        by_cases hown : sys.control.app.lease.hasOwner = true
        · rw [acquire_of_heldBy ⟨hown, ho hown⟩]
          exact h.sequence ⟨hown, ho hown⟩
        · -- a free lease has no sequence
          have hfree := Bool.eq_false_iff.2 hown
          rw [acquire_of_free hfree]
          change sys.control.app.lease.lastSequence ≤ _
          rw [h.consistent.lastSequence_eq_zero hfree]
          exact UInt64.zero_le
      · simpa [Control.stepApp] using hcounted
    · rw [hbegin]
      exact ⟨h.consistent, h.sequence, by simpa using Nat.le_succ_of_le hcounted⟩

/-- The next sequence of the direct client does not wrap around. -/
theorem Inv.next_toNat (h : Inv calls sys) {state : State} (hpending : sys.pending = some state)
    (hcalls : calls < 2 ^ 64) :
    (sys.control.nextDirectSequence + 1).toNat = sys.control.nextDirectSequence.toNat + 1 := by
  have hcounted := h.counted
  rw [hpending] at hcounted
  simp only [Option.isSome_some, Bool.toNat_true] at hcounted
  rw [UInt64.toNat_add]
  exact Nat.mod_eq_of_lt (by simp; omega)

/-- While the direct client holds the lease its next sequence is not stale. -/
theorem Inv.not_stale (h : Inv calls sys) {state : State} (hpending : sys.pending = some state)
    (hcalls : calls < 2 ^ 64) (hheld : sys.control.app.lease.HeldBy Control.directClientId) :
    ¬ sys.control.nextDirectSequence + 1 < sys.control.app.lease.lastSequence := by
  have hnext := h.next_toNat hpending hcalls
  have hle := UInt64.le_iff_toNat_le.1 (h.sequence hheld)
  rw [UInt64.lt_iff_toNat_lt]
  omega

theorem step_finish {state : State} (hpending : sys.pending = some state) :
    sys.step .finish = ⟨(Direct.finish sys.control state).2, none⟩ := by
  simp [Direct.step, perform, hpending]

theorem Inv.finish (h : Inv calls sys) (hcalls : calls < 2 ^ 64) :
    Inv calls (sys.step .finish) := by
  cases hpending : sys.pending with
  | none =>
    have hstep : sys.step .finish = sys := by simp [step, perform, hpending]
    rw [hstep]
    exact h
  | some state =>
    have hnext := h.next_toNat hpending hcalls
    have hcounted := h.counted
    rw [hpending] at hcounted
    rw [step_finish hpending]
    refine ⟨h.consistent.step (.setState Control.directClientId state _), fun hheld' => ?_, ?_⟩
    · change (sys.control.app.setState Control.directClientId state
        (sys.control.nextDirectSequence + 1)).2.lease.HeldBy _ at hheld'
      change (sys.control.app.setState Control.directClientId state
        (sys.control.nextDirectSequence + 1)).2.lease.lastSequence ≤
          sys.control.nextDirectSequence + 1
      by_cases hheld : sys.control.app.lease.HeldBy Control.directClientId
      · have haccepted := setState_of_accepted hheld state (h.not_stale hpending hcalls hheld)
        exact UInt64.le_of_eq (congrArg (fun r => r.2.lease.lastSequence) haccepted)
      · rw [setState_of_not_heldBy hheld] at hheld'
        exact absurd hheld' hheld
    · change (sys.control.nextDirectSequence + 1).toNat + 0 ≤ calls
      rw [hnext]
      exact hcounted

/-- **Step lemma.** -/
theorem Inv.step (h : Inv calls sys) {event : Event} (he : event.Allowed)
    (hcalls : calls < 2 ^ 64) : Inv (calls + event.isCall.toNat) (sys.step event) := by
  cases event with
  | call state => exact h.call state
  | finish => exact h.finish hcalls
  | other op => exact h.other he

/-- **Run lemma.** -/
theorem run_inv {events : List Event} (h : Inv calls sys) (he : ∀ e ∈ events, e.Allowed)
    (hcalls : calls + events.countP Event.isCall < 2 ^ 64) :
    Inv (calls + events.countP Event.isCall) (Runs.run step sys events) := by
  induction events generalizing sys calls with
  | nil => exact h
  | cons e events ih =>
    have hcount : calls + (e :: events).countP Event.isCall =
        calls + e.isCall.toNat + events.countP Event.isCall := by
      rw [List.countP_cons]
      cases e.isCall with
      | false => rfl
      | true =>
        simp only [if_true, Bool.toNat_true]
        omega
    rw [hcount] at hcalls ⊢
    exact ih (h.step (he e List.mem_cons_self) (by omega))
      (fun e' he' => he e' (List.mem_cons_of_mem _ he')) hcalls

/-! ## What a call returns -/

/-- The second half of a call: it stores its state, or the direct client has lost the lease. -/
theorem Inv.finish_cases (h : Inv calls sys) {state : State} (hpending : sys.pending = some state)
    (hcalls : calls < 2 ^ 64) :
    let r := sys.control.app.setState Control.directClientId state
      (sys.control.nextDirectSequence + 1)
    (r.1 = .ok ∧ r.2.state = state ∧ Direct.finish sys.control state =
      (.ok, ⟨r.2, sys.control.readRuntimeStatus, sys.control.nextDirectSequence + 1⟩)) ∨
    (r.1 = .notOwner ∧ (Direct.finish sys.control state).1 = .notOwner) := by
  intro r
  by_cases hheld : sys.control.app.lease.HeldBy Control.directClientId
  · have hr : r = _ := setState_of_accepted hheld state (h.not_stale hpending hcalls hheld)
    refine .inl ⟨by rw [hr], by rw [hr], ?_⟩
    change (Control.mapAppResult r.1, (⟨r.2, _, _⟩ : Control)) = _
    rw [hr]
    rfl
  · have hr : r = _ := setState_of_not_heldBy hheld state (sys.control.nextDirectSequence + 1)
    refine .inr ⟨by rw [hr], ?_⟩
    change Control.mapAppResult r.1 = _
    rw [hr]
    rfl

/-- Only the end of a call returns OK. -/
theorem returns_ok {event : Event} (h : (sys.perform event).1 = some .ok) :
    event = .finish ∧ ∃ state, sys.pending = some state ∧
      (Direct.finish sys.control state).1 = .ok := by
  cases event with
  | call state =>
    cases hpending : sys.pending with
    | some s => simp [perform, hpending] at h
    | none =>
      rcases begin_cases sys.control state with ⟨-, hbegin⟩ | ⟨-, hbegin⟩
      · simp [perform, hpending, hbegin] at h
      · simp [perform, hpending, hbegin] at h
  | finish =>
    cases hpending : sys.pending with
    | none => simp [perform, hpending] at h
    | some state =>
      refine ⟨rfl, state, rfl, ?_⟩
      simpa [perform, hpending] using h
  | other op => cases h

/-- Only the start of a call returns OWNER_BUSY, and it has changed nothing. -/
theorem Inv.control_of_ownerBusy (hinv : Inv calls sys) (hcalls : calls < 2 ^ 64) {event : Event}
    (h : (sys.perform event).1 = some .ownerBusy) : (sys.step event).control = sys.control := by
  cases event with
  | call state =>
    cases hpending : sys.pending with
    | some s => simp [perform, hpending] at h
    | none =>
      rcases begin_cases sys.control state with ⟨-, hbegin⟩ | ⟨-, hbegin⟩
      · simp [perform, hpending, hbegin] at h
      · simp [Direct.step, perform, hpending, hbegin]
  | finish =>
    cases hpending : sys.pending with
    | none => simp [perform, hpending] at h
    | some state =>
      have hbusy : (Direct.finish sys.control state).1 = .ownerBusy := by
        simpa [perform, hpending] using h
      rcases hinv.finish_cases hpending hcalls with ⟨-, -, hfinish⟩ | ⟨-, hlost⟩
      · rw [hfinish] at hbusy
        cases hbusy
      · rw [hlost] at hbusy
        cases hbusy
  | other op => cases h

theorem foreign_of_ofClient {clientId : UInt32} (hne : clientId ≠ Control.directClientId) {op : Op}
    (hop : op.OfClient clientId) : op.Foreign := by
  cases hop with
  | acquire => exact hne
  | setState => exact hne
  | release => exact hne
  | rejected => trivial

/-- **Direct submission.** From the start of the daemon, however the calls of one direct caller
interleave with foreign operations, a call that returns OK has stored its state by its own
`set_state`, which is never stale, and a call that returns OWNER_BUSY has changed nothing. The lines
of an IPC client with another id than the direct one lead to foreign operations only, and a call
that nothing interrupts is `swbt_control_submit_state`. -/
theorem submitState_stores [Platform] (readRuntimeStatus : Option (Option RuntimeStatus))
    (events : List Event) :
    ∃ app₀, Domain.init = .ok app₀ ∧
      ((∀ e ∈ events, e.Allowed) → events.countP Event.isCall < 2 ^ 64 →
        ∀ done event rest, events = done ++ event :: rest →
        let before := Runs.run step (init app₀ readRuntimeStatus) done
        let after := before.step event
        ((before.perform event).1 = some .ok →
          ∃ state, before.pending = some state ∧
            (before.control.app.perform (.setState Control.directClientId state
              (before.control.nextDirectSequence + 1))).1 = .ok ∧
            after.control.app = before.control.app.step (.setState Control.directClientId state
              (before.control.nextDirectSequence + 1)) ∧
            after.control.app.state = state) ∧
        (∀ state, before.pending = some state →
          (before.control.app.perform (.setState Control.directClientId state
            (before.control.nextDirectSequence + 1))).1 ≠ .staleSequence) ∧
        ((before.perform event).1 = some .ownerBusy → after.control = before.control)) ∧
      (∀ (control : Control) (clientId : UInt32) (line : List UInt8) (responseSize : Nat),
        clientId ≠ Control.directClientId →
        (Ipc.handleLine control clientId line responseSize).2 = control ∨
          ∃ op : Op, op.Foreign ∧
            (Ipc.handleLine control clientId line responseSize).2 = control.stepApp op) ∧
      (∀ (control : Control) (state : State),
        control.submitState state = uninterrupted control state) := by
  obtain ⟨spi, hinit⟩ := init_ok
  refine ⟨initWith spi, hinit, ?_, ?_, submitState_eq_uninterrupted⟩
  · rintro hallowed hcalls done event rest rfl before after
    have hcount : done.countP Event.isCall < 2 ^ 64 := by
      rw [List.countP_append] at hcalls
      omega
    have hinv : Inv (0 + done.countP Event.isCall) before :=
      run_inv (init_inv spi readRuntimeStatus)
        (fun e he => hallowed e (List.mem_append_left _ he)) (by omega)
    have hcalls' : 0 + done.countP Event.isCall < 2 ^ 64 := by omega
    refine ⟨fun hok => ?_, fun state hpending hstale => ?_, fun hbusy => ?_⟩
    · obtain ⟨rfl, state, hpending, hreturn⟩ := returns_ok hok
      rcases hinv.finish_cases hpending hcalls' with ⟨hset, hstate, hfinish⟩ | ⟨-, hlost⟩
      · have hafter : after.control = (Direct.finish before.control state).2 :=
          congrArg Direct.control (step_finish hpending)
        rw [hafter, hfinish]
        exact ⟨state, hpending, hset, rfl, hstate⟩
      · rw [hlost] at hreturn
        cases hreturn
    · rcases hinv.finish_cases hpending hcalls' with ⟨hset, -⟩ | ⟨hset, -⟩
      · exact absurd (hset.symm.trans hstale) (by decide)
      · exact absurd (hset.symm.trans hstale) (by decide)
    · exact hinv.control_of_ownerBusy hcalls' hbusy
  · intro control clientId line responseSize hne
    rcases Ipc.handleLine_byClient control clientId line responseSize with heq | ⟨op, hop, heq⟩
    · exact .inl heq
    · exact .inr ⟨op, foreign_of_ofClient hne hop, heq⟩

/-- Two calls of a direct caller for the state `state`, with a shutdown between the steps of the
first. -/
def revokedCall (state : State) : List Event :=
  [.call state, .other (.revoke .shutdown 0), .finish, .call state, .finish]

/-- The first call has lost the lease and stores nothing. The second one stores its state. -/
theorem revokedCall_stores :
    let _ : Platform := Platform.lp64
    let state : State := { State.neutral with buttons := Button.b.mask }
    ∃ app₀, Domain.init = .ok app₀ ∧
      let lost := Runs.run step (init app₀ none) ((revokedCall state).take 2)
      let again := Runs.run step (init app₀ none) ((revokedCall state).take 4)
      (lost.perform .finish).1 = some .notOwner ∧
        (lost.perform .finish).2.control.app.state = State.neutral ∧
        (again.perform .finish).1 = some .ok ∧ (again.step .finish).control.app.state = state := by
  intro platform state
  obtain ⟨spi, hspi⟩ := init_ok
  obtain ⟨app₀, hinit, hruns, -⟩ := submitState_stores none (revokedCall state)
  obtain rfl : initWith spi = app₀ := Except.ok.inj (hspi.symm.trans hinit)
  refine ⟨initWith spi, hinit, rfl, rfl, rfl, ?_⟩
  have hallowed : ∀ e ∈ revokedCall state, e.Allowed := by
    simp [revokedCall, Event.Allowed, Op.Foreign]
  have hcalls : (revokedCall state).countP Event.isCall = 2 := rfl
  have hsplit : revokedCall state = (revokedCall state).take 4 ++ .finish :: [] := rfl
  obtain ⟨hok, -⟩ := hruns hallowed (by rw [hcalls]; decide) _ _ _ hsplit
  obtain ⟨stored, hpending, -, -, hstored⟩ := hok rfl
  have hsame : stored = state := (Option.some.inj hpending).symm
  rw [hstored, hsame]

end Direct

end Swbt
