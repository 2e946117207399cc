import SwbtDaemon.Bridge.Scheduler
import SwbtDaemon.Lib.Pacing
import SwbtDaemon.Switch.Proofs.ReportProofs

/-!
# The rate of the scheduler

The send attempts of a running scheduler are paced by its period, for any times of the ticks and
any answers of the send callback.
-/

namespace Swbt.Scheduler

/-- No time that a tick computes from its reading wraps. -/
def Tick.Fits (reportPeriodUs : UInt32) (t : Tick) : Prop :=
  t.nowUs.toNat + reportPeriodUs.toNat < 2 ^ 64

/-- A scheduler that has been started with a positive period. -/
structure Ready (reportPeriodUs : UInt32) (scheduler : Scheduler) : Prop where
  period : scheduler.reportPeriodUs = reportPeriodUs
  positive : 0 < reportPeriodUs.toNat
  running : scheduler.running = true

variable {reportPeriodUs : UInt32} {scheduler : Scheduler}

theorem Ready.isValid (h : Ready reportPeriodUs scheduler) : scheduler.isValid = true := by
  rw [Scheduler.isValid, h.period, decide_eq_true_eq, gt_iff_lt, UInt32.lt_iff_toNat_lt]
  exact h.positive

/-- The step of the deadline in unbounded arithmetic. -/
theorem toNat_advance {nowUs : UInt64} (hdue : scheduler.nextDeadlineUs ≤ nowUs)
    (h : nowUs.toNat + scheduler.reportPeriodUs.toNat < 2 ^ 64) :
    (scheduler.advance nowUs).nextDeadlineUs.toNat =
      Pacing.next scheduler.reportPeriodUs.toNat scheduler.nextDeadlineUs.toNat nowUs.toNat := by
  rw [UInt64.le_iff_toNat_le] at hdue
  have hnow : (nowUs + scheduler.reportPeriodUs.toUInt64).toNat =
      nowUs.toNat + scheduler.reportPeriodUs.toNat := by
    rw [UInt64.toNat_add, UInt32.toNat_toUInt64, Nat.mod_eq_of_lt h]
  have hnext : (scheduler.nextDeadlineUs + scheduler.reportPeriodUs.toUInt64).toNat =
      scheduler.nextDeadlineUs.toNat + scheduler.reportPeriodUs.toNat := by
    rw [UInt64.toNat_add, UInt32.toNat_toUInt64, Nat.mod_eq_of_lt (by omega)]
  simp only [advance, Pacing.next, UInt64.le_iff_toNat_le, hnext]
  rw [apply_ite UInt64.toNat, hnow, hnext]

/-- A tick before the deadline does nothing. -/
theorem tick_of_lt (hready : Ready reportPeriodUs scheduler) {t : Tick}
    (h : t.nowUs < scheduler.nextDeadlineUs) :
    attempt scheduler t = [] ∧ afterTick scheduler t = scheduler := by
  have htick : scheduler.tick t.nowUs t.state t.sent = (.notDue, scheduler, none) := by
    rw [tick, if_neg (by simp [hready.isValid]), if_neg (by simp [hready.running]), if_pos h]
  rw [attempt, afterTick, htick]
  exact ⟨rfl, rfl⟩

/-- A tick from the deadline on hands over a report and moves the deadline, whatever the answer. -/
theorem tick_eq_of_le (hready : Ready reportPeriodUs scheduler) {t : Tick}
    (h : scheduler.nextDeadlineUs ≤ t.nowUs) :
    ∃ result timer report, scheduler.tick t.nowUs t.state t.sent =
      (result, { scheduler.advance t.nowUs with timer := timer }, some report) := by
  have hreport := buildStandardFullReport_eq t.state scheduler.currentOptions
    (Nat.le_refl standardFullReportSize)
  rw [tick, if_neg (by simp [hready.isValid]), if_neg (by simp [hready.running]),
    if_neg (UInt64.not_lt.2 h), hreport]
  cases t.sent with
  | true => exact ⟨_, _, _, rfl⟩
  | false => exact ⟨_, _, _, rfl⟩

theorem tick_of_le (hready : Ready reportPeriodUs scheduler) {t : Tick}
    (h : scheduler.nextDeadlineUs ≤ t.nowUs) :
    attempt scheduler t = [t.nowUs] ∧ Ready reportPeriodUs (afterTick scheduler t) ∧
      (afterTick scheduler t).nextDeadlineUs = (scheduler.advance t.nowUs).nextDeadlineUs := by
  obtain ⟨result, timer, report, htick⟩ := tick_eq_of_le hready h
  rw [attempt, afterTick, htick]
  exact ⟨rfl, ⟨hready.period, hready.positive, hready.running⟩, rfl⟩

/-- **Step lemma**: a tick is an attempt paced by the deadline, or changes nothing. -/
theorem tick_paced (hready : Ready reportPeriodUs scheduler) {t : Tick}
    (hfits : t.Fits reportPeriodUs) :
    attempt scheduler t = [] ∧ afterTick scheduler t = scheduler ∨
      attempt scheduler t = [t.nowUs] ∧ Ready reportPeriodUs (afterTick scheduler t) ∧
        scheduler.nextDeadlineUs.toNat ≤ t.nowUs.toNat ∧
        (afterTick scheduler t).nextDeadlineUs.toNat =
          Pacing.next reportPeriodUs.toNat scheduler.nextDeadlineUs.toNat t.nowUs.toNat := by
  by_cases hdue : t.nowUs < scheduler.nextDeadlineUs
  · exact .inl (tick_of_lt hready hdue)
  · have hle : scheduler.nextDeadlineUs ≤ t.nowUs := UInt64.not_lt.1 hdue
    obtain ⟨hattempt, hafter, hdeadline⟩ := tick_of_le hready hle
    refine .inr ⟨hattempt, hafter, UInt64.le_iff_toNat_le.1 hle, ?_⟩
    rw [hdeadline, toNat_advance hle (by rw [hready.period]; exact hfits), hready.period]

theorem afterTick_ready (hready : Ready reportPeriodUs scheduler) {t : Tick}
    (hfits : t.Fits reportPeriodUs) : Ready reportPeriodUs (afterTick scheduler t) := by
  rcases tick_paced hready hfits with ⟨-, hsame⟩ | ⟨-, hafter, -⟩
  · rw [hsame]
    exact hready
  · exact hafter

/-- **Run lemma**: the attempts of a run are paced from the deadline on. -/
theorem attempts_paced {ticks : List Tick} (hready : Ready reportPeriodUs scheduler)
    (hfits : ∀ t ∈ ticks, t.Fits reportPeriodUs) :
    Pacing.Paced reportPeriodUs.toNat scheduler.nextDeadlineUs.toNat
      ((attempts scheduler ticks).map UInt64.toNat) := by
  induction ticks generalizing scheduler with
  | nil => exact .nil _
  | cons t ticks ih =>
    have ht : t.Fits reportPeriodUs := hfits t List.mem_cons_self
    have hrest := ih (afterTick_ready hready ht) fun t' ht' => hfits t' (List.mem_cons_of_mem t ht')
    rw [attempts, Runs.emitted, List.map_append]
    rcases tick_paced hready ht with ⟨hnone, hsame⟩ | ⟨hone, -, hdue, hdeadline⟩
    · rw [hnone, hsame]
      rw [hsame] at hrest
      exact hrest
    · rw [hone]
      rw [hdeadline] at hrest
      exact .cons hdue hrest

theorem run_ready {ticks : List Tick} (hready : Ready reportPeriodUs scheduler)
    (hfits : ∀ t ∈ ticks, t.Fits reportPeriodUs) :
    Ready reportPeriodUs (Runs.run afterTick scheduler ticks) := by
  have hall : Runs.AllSteps afterTick (fun _ t => t.Fits reportPeriodUs) scheduler ticks :=
    Runs.allSteps_of_forall (fun _ t ht => hfits t ht) scheduler
  exact Runs.run_invariant_of_allSteps (P := Ready reportPeriodUs)
    (fun _ _ h hfits => afterTick_ready h hfits) hready hall

/-- A scheduler just started is due a period later. -/
theorem start_ready (hperiod : 0 < scheduler.reportPeriodUs) (hidCid : UInt16) {startUs : UInt64}
    (hstart : startUs.toNat + scheduler.reportPeriodUs.toNat < 2 ^ 64) :
    Ready scheduler.reportPeriodUs (scheduler.start hidCid startUs).2 ∧
      (scheduler.start hidCid startUs).2.nextDeadlineUs.toNat =
        startUs.toNat + scheduler.reportPeriodUs.toNat := by
  have hvalid : scheduler.isValid = true := by
    rw [Scheduler.isValid]
    exact decide_eq_true hperiod
  rw [start, if_neg (by simp [hvalid])]
  refine ⟨⟨rfl, UInt32.lt_iff_toNat_lt.1 hperiod, rfl⟩, ?_⟩
  dsimp only
  rw [UInt64.toNat_add, UInt32.toNat_toUInt64, Nat.mod_eq_of_lt hstart]

/-- **Rate**: the `k`-th attempt of a run of ticks comes no earlier than `k` periods after the
start, so that at most one is made in each period; attempts are strictly apart, and an attempt puts
the deadline after itself by at most a period, by a whole one when it was late by one. -/
theorem attempts_rate (scheduler : Scheduler) (hperiod : 0 < scheduler.reportPeriodUs)
    (hidCid : UInt16) (startUs : UInt64)
    (hstart : startUs.toNat + scheduler.reportPeriodUs.toNat < 2 ^ 64) (ticks : List Tick)
    (hfits : ∀ t ∈ ticks, t.nowUs.toNat + scheduler.reportPeriodUs.toNat < 2 ^ 64) :
    let started := (scheduler.start hidCid startUs).2
    let period := scheduler.reportPeriodUs.toNat
    let times := (attempts started ticks).map UInt64.toNat
    (∀ (k : Nat) (hk : k < times.length), startUs.toNat + (k + 1) * period ≤ times[k]) ∧
      (∀ T : Nat, times.countP (· ≤ T) ≤ (T - startUs.toNat) / period) ∧
      times.Pairwise (· < ·) ∧
      ∀ before t after, ticks = before ++ t :: after →
        let reached := Runs.run afterTick started before
        attempt reached t ≠ [] →
          t.nowUs < (afterTick reached t).nextDeadlineUs ∧
          (afterTick reached t).nextDeadlineUs.toNat ≤ t.nowUs.toNat + period ∧
          (reached.nextDeadlineUs.toNat + period ≤ t.nowUs.toNat →
            (afterTick reached t).nextDeadlineUs.toNat = t.nowUs.toNat + period) ∧
          ∀ later ∈ attempts (afterTick reached t) after,
            (afterTick reached t).nextDeadlineUs ≤ later := by
  obtain ⟨hready, hdeadline⟩ := start_ready hperiod hidCid hstart
  have hpaced := attempts_paced hready hfits
  rw [hdeadline] at hpaced
  refine ⟨fun k hk => ?_, hpaced.countP_le_div hready.positive, hpaced.pairwise_lt hready.positive,
    ?_⟩
  · have hk' := hpaced.add_mul_le k hk
    rw [Nat.succ_mul]
    omega
  · intro before t after hticks reached hattempt
    subst hticks
    have hbefore : Ready scheduler.reportPeriodUs reached :=
      run_ready hready fun t' ht' => hfits t' (List.mem_append_left _ ht')
    have ht : t.Fits scheduler.reportPeriodUs := hfits t (by simp)
    have hlater := attempts_paced (afterTick_ready hbefore ht)
      fun t' ht' => hfits t' (List.mem_append_right _ (List.mem_cons_of_mem _ ht'))
    rcases tick_paced hbefore ht with ⟨hnone, -⟩ | ⟨-, -, hdue, hnext⟩
    · exact absurd hnone hattempt
    · rw [UInt64.lt_iff_toNat_lt, hnext]
      refine ⟨Pacing.lt_next hready.positive, Pacing.next_le hdue, Pacing.next_of_late, ?_⟩
      intro later hmem
      rw [UInt64.le_iff_toNat_le]
      exact hlater.le_of_mem _ (List.mem_map_of_mem hmem)

/-- A scheduler of eight milliseconds, ticked twice at 25 milliseconds. -/
theorem attempts_rate_late :
    let scheduler : Scheduler := ⟨8000, ⟨0, 0x8E, 0x80⟩, 0, false, 0, 0⟩
    let late : Tick := ⟨25000, State.neutral, true⟩
    let times := (attempts (scheduler.start 0x42 0).2 [late, late]).map UInt64.toNat
    times = [25000] ∧ ∀ T : Nat, times.countP (· ≤ T) ≤ (T - 0) / 8000 :=
  ⟨by decide,
    (attempts_rate ⟨8000, ⟨0, 0x8E, 0x80⟩, 0, false, 0, 0⟩ (by decide) 0x42 0 (by decide)
      [⟨25000, State.neutral, true⟩, ⟨25000, State.neutral, true⟩] (by simp)).2.1⟩

end Swbt.Scheduler
