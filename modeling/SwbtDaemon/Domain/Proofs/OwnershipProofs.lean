import SwbtDaemon.Domain.Ownership

/-!
# Proofs: the domain shows the tenure of its owner

One lemma for each of the operations that write the lease or the controller state, one for all
others, and from them, by induction over the operations, that every reachable domain shows the
tenure its history leaves.
-/

namespace Swbt

namespace Domain

variable {app : Domain} {t : Option ClientTenure} {clientId : UInt32}

/-- The development seed profile is accepted, so that the domain starts. -/
theorem init_ok : ∃ spi, Domain.init = .ok (initWith spi) :=
  ⟨_, rfl⟩

theorem initWith_shows (spi : Spi.Flash) : (initWith spi).Shows none :=
  ⟨rfl, rfl, rfl, rfl⟩

/-! ## What each operation does -/

/-- The guard that `lease.c` spells out at each of its operations. -/
theorem not_heldBy_iff (lease : Lease) :
    (!lease.hasOwner || lease.ownerClientId != clientId) = true ↔ ¬ lease.HeldBy clientId := by
  unfold Lease.HeldBy
  cases lease.hasOwner <;> simp

theorem setState_of_not_heldBy (h : ¬ app.lease.HeldBy clientId) (state : State)
    (sequence : UInt64) :
    app.setState clientId state sequence = (.notOwner, app.recordStateUpdateRejected) := by
  unfold setState
  rw [if_pos ((not_heldBy_iff _).2 h)]

theorem setState_of_stale (h : app.lease.HeldBy clientId) (state : State) {sequence : UInt64}
    (hseq : sequence < app.lease.lastSequence) :
    app.setState clientId state sequence = (.staleSequence, app.recordStateUpdateRejected) := by
  unfold setState
  rw [if_neg (fun hn => (not_heldBy_iff _).1 hn h), if_pos hseq]

theorem setState_of_accepted (h : app.lease.HeldBy clientId) (state : State) {sequence : UInt64}
    (hseq : ¬ sequence < app.lease.lastSequence) :
    app.setState clientId state sequence =
      (.ok, { app with
        lease := { app.lease with lastSequence := sequence }
        state := state
        metrics := app.metrics.recordStateUpdateAccepted 0 }) := by
  have hg : ¬ (!app.lease.hasOwner || app.lease.ownerClientId != clientId) = true :=
    fun hn => (not_heldBy_iff _).1 hn h
  unfold setState Lease.acceptSequence
  rw [if_neg hg, if_neg hseq, if_neg hg]
  rfl

theorem revoke_of_heldBy (h : app.lease.HeldBy clientId) (reason : RevokeReason) :
    app.revoke reason clientId = (.ok, revokeAll app) := by
  have hg : ¬ (!app.lease.hasOwner || app.lease.ownerClientId != clientId) = true :=
    fun hn => (not_heldBy_iff _).1 hn h
  cases reason with
  | release => unfold revoke Lease.release; rw [if_neg hg]; rfl
  | disconnect => unfold revoke Lease.revokeIfOwner; rw [if_neg hg]; rfl
  | heartbeatTimeout => unfold revoke Lease.revokeIfOwner; rw [if_neg hg]; rfl
  | shutdown => rfl

theorem revoke_of_not_heldBy (h : ¬ app.lease.HeldBy clientId) {reason : RevokeReason}
    (hr : reason ≠ .shutdown) : (app.revoke reason clientId).2 = app := by
  have hg := (not_heldBy_iff app.lease).2 h
  cases reason with
  | release => unfold revoke Lease.release; rw [if_pos hg]; rfl
  | disconnect => unfold revoke Lease.revokeIfOwner; rw [if_pos hg]; rfl
  | heartbeatTimeout => unfold revoke Lease.revokeIfOwner; rw [if_pos hg]; rfl
  | shutdown => exact absurd rfl hr

/-- After a revoke for a client, that client does not hold the lease. -/
theorem revoke_not_heldBy (app : Domain) (reason : RevokeReason) (clientId : UInt32) :
    ¬ (app.revoke reason clientId).2.lease.HeldBy clientId := by
  by_cases hheld : app.lease.HeldBy clientId
  · rw [revoke_of_heldBy hheld]
    exact (nomatch ·.1)
  · by_cases hr : reason = .shutdown
    · rw [hr]
      exact (nomatch ·.1)
    · rwa [revoke_of_not_heldBy hheld hr]

theorem revoke_metrics (app : Domain) (reason : RevokeReason) (clientId : UInt32) :
    (app.revoke reason clientId).2.metrics = app.metrics := by
  by_cases hheld : app.lease.HeldBy clientId
  · rw [revoke_of_heldBy hheld]
    rfl
  · by_cases hr : reason = .shutdown
    · rw [hr]
      rfl
    · rw [revoke_of_not_heldBy hheld hr]

theorem acquire_of_free (h : app.lease.hasOwner = false) (clientId : UInt32) :
    app.acquire clientId =
      (.ok, { app with
        lease := { app.lease with hasOwner := true, ownerClientId := clientId } }) := by
  simp [acquire, Lease.acquire, h, mapLeaseResult]

theorem acquire_of_heldBy (h : app.lease.HeldBy clientId) :
    app.acquire clientId = (.ok, app) := by
  obtain ⟨ho, rfl⟩ := h
  have hl : (⟨true, app.lease.ownerClientId, app.lease.lastSequence⟩ : Lease) = app.lease := by
    rw [← ho]
  simp [acquire, Lease.acquire, mapLeaseResult, hl]

theorem acquire_of_busy (ho : app.lease.hasOwner = true)
    (hc : app.lease.ownerClientId ≠ clientId) : app.acquire clientId = (.ownerBusy, app) := by
  simp [acquire, Lease.acquire, ho, hc, mapLeaseResult]

/-- An operation that does not concern the ownership leaves lease and controller state as they
are. -/
theorem step_of_other (app : Domain) {op : Op} (h : op.event = .other) :
    (app.step op).lease = app.lease ∧ (app.step op).state = app.state := by
  cases op with
  | acquire | setState => cases h
  | revoke reason => cases reason <;> cases h
  | recordReportTick nowUs sendResult =>
    simp only [step, perform, recordReportTick]
    split <;> exact ⟨rfl, rfl⟩
  | _ => exact ⟨rfl, rfl⟩

/-- A client comes to hold the lease only by its own acquire. -/
theorem step_not_heldBy (h : ¬ app.lease.HeldBy clientId) {op : Op} (hop : op ≠ .acquire clientId) :
    ¬ (app.step op).lease.HeldBy clientId := by
  by_cases hother : op.event = .other
  · rwa [(step_of_other app hother).1]
  cases op with
  | acquire who =>
    change ¬ (app.acquire who).2.lease.HeldBy clientId
    by_cases ho : app.lease.hasOwner = true
    · by_cases hwho : app.lease.ownerClientId = who
      · rwa [acquire_of_heldBy ⟨ho, hwho⟩]
      · rwa [acquire_of_busy ho hwho]
    · rw [acquire_of_free (Bool.eq_false_iff.2 ho)]
      exact fun hheld => hop (congrArg Op.acquire hheld.2)
  | setState who state sequence =>
    change ¬ (app.setState who state sequence).2.lease.HeldBy clientId
    by_cases hheld : app.lease.HeldBy who
    · by_cases hstale : sequence < app.lease.lastSequence
      · rwa [setState_of_stale hheld state hstale]
      · rwa [setState_of_accepted hheld state hstale]
    · rwa [setState_of_not_heldBy hheld]
  | revoke reason who =>
    change ¬ (app.revoke reason who).2.lease.HeldBy clientId
    by_cases hheld : app.lease.HeldBy who
    · rw [revoke_of_heldBy hheld]
      exact (nomatch ·.1)
    · by_cases hr : reason = .shutdown
      · rw [hr]
        exact (nomatch ·.1)
      · rwa [revoke_of_not_heldBy hheld hr]
  | _ => exact absurd rfl hother

/-! ## One step of the refinement -/

/-- `Shows` reads only the lease and the controller state. -/
theorem Shows.congr {app' : Domain} (h : app.Shows t) (hl : app'.lease = app.lease)
    (hs : app'.state = app.state) : app'.Shows t := by
  cases t with
  | none => simpa only [Shows, hl, hs] using h
  | some t => simpa only [Shows, hl, hs] using h

/-- In a domain that shows `t`, the lease is held by `clientId` exactly when `t` is its tenure. -/
theorem Shows.heldBy_iff (h : app.Shows t) :
    app.lease.HeldBy clientId ↔ ∃ u, t = some u ∧ u.owner = clientId := by
  cases t with
  | none =>
    have ho : app.lease.hasOwner = false := h.1
    simp [Lease.HeldBy, ho]
  | some u =>
    obtain ⟨ho, hid, -⟩ := h
    simp [Lease.HeldBy, ho, hid]

theorem revokeAll_shows (app : Domain) : (revokeAll app).Shows none :=
  ⟨rfl, rfl, rfl, rfl⟩

theorem acquire_shows (h : app.Shows t) (clientId : UInt32) :
    (app.acquire clientId).2.Shows (Tenure.step t (.claim clientId)) := by
  cases t with
  | none =>
    obtain ⟨ho, -, hseq, hstate⟩ := h
    rw [acquire_of_free ho]
    exact ⟨rfl, rfl, hseq, hstate⟩
  | some u =>
    by_cases hc : app.lease.ownerClientId = clientId
    · rw [acquire_of_heldBy ⟨h.1, hc⟩]
      exact h
    · rw [acquire_of_busy h.1 hc]
      exact h

theorem setState_shows (h : app.Shows t) (clientId : UInt32) (state : State) (sequence : UInt64) :
    (app.setState clientId state sequence).2.Shows
      (Tenure.step t (.submit clientId sequence state)) := by
  cases t with
  | none =>
    have hn : ¬ app.lease.HeldBy clientId := by simp [h.heldBy_iff]
    rw [setState_of_not_heldBy hn]
    exact h.congr rfl rfl
  | some u =>
    have hacc := u.accepts_iff_sequence_le clientId sequence (0 : UInt64) UInt64.zero_le
    by_cases hheld : app.lease.HeldBy clientId
    · have hown : u.owner = clientId := by simpa [h.heldBy_iff] using hheld
      have hseq : app.lease.lastSequence = u.sequence 0 := h.2.2.1
      by_cases hstale : sequence < app.lease.lastSequence
      · -- a stale update is rejected on both sides
        have hno : ¬ u.Accepts clientId sequence := by
          rw [hacc, ← hseq]
          exact fun hle => UInt64.not_lt.2 hle.2 hstale
        rw [setState_of_stale hheld state hstale, Tenure.step, dif_neg hno]
        exact h.congr rfl rfl
      · have hyes : u.Accepts clientId sequence := by
          rw [hacc, ← hseq]
          exact ⟨hown, UInt64.not_lt.1 hstale⟩
        rw [setState_of_accepted hheld state hstale, Tenure.step, dif_pos hyes]
        exact ⟨h.1, h.2.1, rfl, rfl⟩
    · have hno : ¬ u.Accepts clientId sequence := by
        intro hyes
        exact hheld (h.heldBy_iff.2 ⟨u, rfl, hyes.1⟩)
      rw [setState_of_not_heldBy hheld, Tenure.step, dif_neg hno]
      exact h.congr rfl rfl

theorem revoke_shows (h : app.Shows t) {reason : RevokeReason} (hr : reason ≠ .shutdown)
    (clientId : UInt32) :
    (app.revoke reason clientId).2.Shows (Tenure.step t (.vacate clientId)) := by
  by_cases hheld : app.lease.HeldBy clientId
  · obtain ⟨u, rfl, hown⟩ := h.heldBy_iff.1 hheld
    rw [revoke_of_heldBy hheld, Tenure.step, if_pos hown]
    exact revokeAll_shows app
  · rw [revoke_of_not_heldBy hheld hr]
    cases t with
    | none => exact h
    | some u =>
      have hown : u.owner ≠ clientId := fun hown => hheld (h.heldBy_iff.2 ⟨u, rfl, hown⟩)
      rw [Tenure.step, if_neg hown]
      exact h

theorem step_shows_of_other (h : app.Shows t) {op : Op} (hop : op.event = .other) :
    (app.step op).Shows (Tenure.step t op.event) := by
  obtain ⟨hl, hs⟩ := step_of_other app hop
  rw [hop]
  cases t with
  | none => exact h.congr hl hs
  | some u => exact h.congr hl hs

/-- **Step lemma**: an operation changes the shown tenure as its event changes the tenure. -/
theorem step_shows (h : app.Shows t) (op : Op) : (app.step op).Shows (Tenure.step t op.event) := by
  cases op with
  | acquire clientId => exact acquire_shows h clientId
  | setState clientId state sequence => exact setState_shows h clientId state sequence
  | revoke reason clientId =>
    cases reason with
    | shutdown =>
      cases t with
      | none => exact revokeAll_shows app
      | some u => exact revokeAll_shows app
    | _ => exact revoke_shows h (by simp) clientId
  | _ => exact step_shows_of_other h rfl

/-! ## Whole histories -/

/-- **Run lemma**: from a domain without owner, every history is shown. -/
theorem run_shows (h : app.Shows none) (ops : List Op) :
    (Runs.run step app ops).Shows (tenure ops) := by
  suffices hgen : ∀ (app : Domain) t, app.Shows t →
      (Runs.run step app ops).Shows (Runs.run Tenure.step t (ops.map Op.event)) from
    hgen app none h
  induction ops with
  | nil => exact fun _ _ h => h
  | cons op ops ih => exact fun _ _ h => ih _ _ (step_shows h op)

/-- A tenure is shown by one lease and one controller state only. -/
theorem Shows.unique {app' : Domain} (h : app.Shows t) (h' : app'.Shows t) :
    app.lease = app'.lease ∧ app.state = app'.state := by
  obtain ⟨⟨ho, hid, hseq⟩, _⟩ := app
  obtain ⟨⟨ho', hid', hseq'⟩, _⟩ := app'
  cases t <;> simp_all [Shows]

theorem setState_ok_iff (h : app.Shows t) (clientId : UInt32) (state : State)
    (sequence : UInt64) :
    (app.setState clientId state sequence).1 = .ok ↔
      ∃ u, t = some u ∧ u.Accepts clientId sequence := by
  by_cases hheld : app.lease.HeldBy clientId
  · obtain ⟨u, rfl, hown⟩ := h.heldBy_iff.1 hheld
    have hseq : app.lease.lastSequence = u.sequence 0 := h.2.2.1
    have hacc := u.accepts_iff_sequence_le clientId sequence (0 : UInt64) UInt64.zero_le
    by_cases hstale : sequence < app.lease.lastSequence
    · have hno : ¬ u.sequence 0 ≤ sequence := by rwa [← hseq, UInt64.not_le]
      simp [setState_of_stale hheld state hstale, hacc, hno]
    · have hyes : u.sequence 0 ≤ sequence := by rw [← hseq]; exact UInt64.not_lt.1 hstale
      simp [setState_of_accepted hheld state hstale, hacc, hyes, hown]
  · rw [setState_of_not_heldBy hheld]
    constructor
    · intro hk
      cases hk
    · rintro ⟨u, rfl, hacc⟩
      exact absurd (h.heldBy_iff.2 ⟨u, rfl, hacc.1⟩) hheld

theorem Consistent.step (h : app.Consistent) (op : Op) : (app.step op).Consistent := by
  obtain ⟨t, ht⟩ := h
  exact ⟨_, step_shows ht op⟩

/-- Without an owner the controller is neutral. -/
theorem Consistent.neutral (h : app.Consistent) (ho : app.lease.hasOwner = false) :
    app.state = State.neutral := by
  obtain ⟨t, ht⟩ := h
  cases t with
  | none => exact ht.2.2.2
  | some u => exact absurd ht.1 (by simp [ho])

/-- Without an owner no sequence is stored. -/
theorem Consistent.lastSequence_eq_zero (h : app.Consistent) (ho : app.lease.hasOwner = false) :
    app.lease.lastSequence = 0 := by
  obtain ⟨t, ht⟩ := h
  cases t with
  | none => exact ht.2.2.1
  | some u => exact absurd ht.1 (by simp [ho])

/-- A revoke for the only possible owner leaves no owner. -/
theorem OwnedAtMostBy.revoke (h : app.OwnedAtMostBy clientId) (reason : RevokeReason) :
    (app.revoke reason clientId).2.lease.hasOwner = false := by
  by_cases ho : app.lease.hasOwner = true
  · rw [revoke_of_heldBy ⟨ho, h ho⟩]
    rfl
  · by_cases hr : reason = .shutdown
    · rw [hr]
      rfl
    · rw [revoke_of_not_heldBy (fun hheld => ho hheld.1) hr]
      exact Bool.eq_false_iff.2 ho

/-- The requests of a client cannot give the lease to another one. -/
theorem OwnedAtMostBy.step_ofClient (h : app.OwnedAtMostBy clientId) {op : Op}
    (hop : op.OfClient clientId) : (app.step op).OwnedAtMostBy clientId := by
  cases hop with
  | acquire =>
    intro _
    by_cases ho : app.lease.hasOwner = true
    · simpa [Domain.step, perform, acquire_of_heldBy ⟨ho, h ho⟩] using h ho
    · simp [Domain.step, perform, acquire_of_free (Bool.eq_false_iff.2 ho)]
  | setState state sequence =>
    change (app.setState clientId state sequence).2.OwnedAtMostBy clientId
    by_cases hheld : app.lease.HeldBy clientId
    · by_cases hstale : sequence < app.lease.lastSequence
      · rw [setState_of_stale hheld state hstale]
        exact h
      · rw [setState_of_accepted hheld state hstale]
        exact h
    · rw [setState_of_not_heldBy hheld]
      exact h
  | release =>
    change (app.revoke .release clientId).2.OwnedAtMostBy clientId
    intro ho
    exact absurd ho (by simp [h.revoke .release])
  | rejected => exact h

theorem tenure_append_of_none {ops : List Op} (h : tenure ops = none) (later : List Op) :
    tenure (ops ++ later) = tenure later := by
  have happ : tenure (ops ++ later) = Runs.run Tenure.step (tenure ops) (later.map Op.event) := by
    rw [tenure, List.map_append, Runs.run_append, ← tenure]
  rw [happ, h, tenure]

/-- **The domain shows the current tenure.** After any sequence of domain operations from
`swbt_domain_init`, lease and controller state are those of the tenure that the sequence leaves:
all zero and neutral without an owner, else the owner with the payload and the sequence of its last
accepted update. A `set_state` succeeds exactly when that tenure accepts it. Once the lease is
free, nothing of the operations before is visible in what follows. -/
theorem run_shows_tenure (ops : List Op) :
    ∃ app₀, Domain.init = .ok app₀ ∧
      (Runs.run step app₀ ops).Shows (tenure ops) ∧
      (∀ clientId state sequence,
        ((Runs.run step app₀ ops).perform (.setState clientId state sequence)).1 = .ok ↔
          ∃ t, tenure ops = some t ∧ t.Accepts clientId sequence) ∧
      (tenure ops = none → ∀ later,
        (Runs.run step app₀ (ops ++ later)).lease = (Runs.run step app₀ later).lease ∧
          (Runs.run step app₀ (ops ++ later)).state = (Runs.run step app₀ later).state) := by
  obtain ⟨spi, hinit⟩ := init_ok
  have hshows : ∀ ops, (Runs.run step (initWith spi) ops).Shows (tenure ops) :=
    run_shows (initWith_shows spi)
  refine ⟨initWith spi, hinit, hshows ops, setState_ok_iff (hshows ops), fun hnone later => ?_⟩
  have happ := hshows (ops ++ later)
  rw [tenure_append_of_none hnone] at happ
  exact happ.unique (hshows later)

end Domain

end Swbt
