import Mathlib.Data.List.Chain
import SwbtDaemon.Lib.Gaps
import SwbtDaemon.Support.ReportTicks

/-!
# What the report metrics measure

The counters of the report metrics follow the accepted ticks: `Tracks` says what each of them is
for a list of ticks, and each accepted tick keeps it. The counters count modulo `2 ^ 64`; the total
of the intervals never wraps around, as it is the time from the first tick to the last one.
-/

namespace Swbt

namespace Metrics

open Gaps

/-- The time of the last accepted tick. -/
def lastTick? (metrics : Metrics) : Option Nat :=
  if metrics.hasLastReportTick then some metrics.lastReportTickUs.toNat else none

/-- The intervals of the metrics are the gaps of the times `ts`. -/
structure Intervals (metrics : Metrics) (ts : List Nat) : Prop where
  count : metrics.snapshot.reportIntervalCount = UInt64.ofNat (gaps ts).length
  total : metrics.reportIntervalTotalUs.toNat = (gaps ts).sum
  average : metrics.snapshot.reportIntervalAverageUs =
    metrics.reportIntervalTotalUs / metrics.snapshot.reportIntervalCount
  max : metrics.snapshot.reportIntervalMaxUs.toNat = largest (gaps ts)

/-- **The report metrics after accepted ticks.** -/
structure Tracks (metrics : Metrics) (ticks : List Tick) : Prop where
  last : metrics.lastTick? = (times ticks).getLast?
  sorted : (times ticks).IsChain (· ≤ ·)
  reportTicks : metrics.snapshot.reportTicks = UInt64.ofNat ticks.length
  sendOk : metrics.snapshot.reportSendOk = UInt64.ofNat (ticks.countP (·.2 = .ok))
  sendFailed : metrics.snapshot.reportSendFailed = UInt64.ofNat (ticks.countP (·.2 = .failed))
  intervals : Intervals metrics (times ticks)

theorem times_concat (ticks : List Tick) (tick : Tick) :
    times (ticks ++ [tick]) = times ticks ++ [tick.1.toNat] := List.map_append

theorem tracks_init : Tracks init [] where
  last := rfl
  sorted := .nil
  reportTicks := rfl
  sendOk := rfl
  sendFailed := rfl
  intervals := ⟨rfl, rfl, by decide, rfl⟩

/-! ## One tick -/

variable {metrics after : Metrics} {nowUs : UInt64} {sendResult : ReportSendResult}

/-- **What an accepted tick does**: the first one has no interval. -/
theorem recordReportTick_cases (h : metrics.recordReportTick nowUs sendResult = some after) :
    (metrics.hasLastReportTick = false ∧
      after = { metrics.countTick sendResult with
        lastReportTickUs := nowUs
        hasLastReportTick := true }) ∨
    (metrics.hasLastReportTick = true ∧ metrics.lastReportTickUs ≤ nowUs ∧
      after = { (metrics.countTick sendResult).recordInterval
          (nowUs - metrics.lastReportTickUs) with
        lastReportTickUs := nowUs
        hasLastReportTick := true }) := by
  unfold recordReportTick at h
  cases hlast : metrics.hasLastReportTick with
  | false =>
    rw [hlast] at h
    exact .inl ⟨rfl, (Option.some.inj h).symm⟩
  | true =>
    rw [hlast, Bool.true_and] at h
    by_cases hearly : nowUs < metrics.lastReportTickUs
    · rw [if_pos (by simpa using hearly)] at h
      cases h
    · rw [if_neg (by simpa using hearly)] at h
      exact .inr ⟨rfl, UInt64.not_lt.1 hearly, (Option.some.inj h).symm⟩

theorem recordReportTick_eq_none_iff (metrics : Metrics) (nowUs : UInt64)
    (sendResult : ReportSendResult) :
    metrics.recordReportTick nowUs sendResult = none ↔
      ∃ last, metrics.lastTick? = some last ∧ nowUs.toNat < last := by
  unfold recordReportTick lastTick?
  cases metrics.hasLastReportTick with
  | false => simp
  | true => simp [UInt64.lt_iff_toNat_lt]

theorem recordReportTick_lastTick?
    (h : metrics.recordReportTick nowUs sendResult = some after) :
    after.lastTick? = some nowUs.toNat := by
  rcases recordReportTick_cases h with ⟨-, rfl⟩ | ⟨-, -, rfl⟩ <;> rfl

theorem recordReportTick_counters
    (h : metrics.recordReportTick nowUs sendResult = some after) :
    after.snapshot.reportTicks = metrics.snapshot.reportTicks + 1 ∧
      after.snapshot.reportSendOk =
        metrics.snapshot.reportSendOk + (if sendResult = .ok then 1 else 0) ∧
      after.snapshot.reportSendFailed =
        metrics.snapshot.reportSendFailed + (if sendResult = .failed then 1 else 0) := by
  rcases recordReportTick_cases h with ⟨-, rfl⟩ | ⟨-, -, rfl⟩
  · cases sendResult <;> simp [countTick]
  · cases sendResult <;> simp [countTick, recordInterval]

theorem lastTick?_eq_none : metrics.lastTick? = none ↔ metrics.hasLastReportTick = false := by
  unfold lastTick?
  cases metrics.hasLastReportTick <;> simp

theorem lastTick?_of_hasLast (h : metrics.hasLastReportTick = true) :
    metrics.lastTick? = some metrics.lastReportTickUs.toNat := if_pos h

/-- Counting a tick is not about the intervals. -/
theorem Intervals.countTick {ts : List Nat} (h : Intervals metrics ts)
    (sendResult : ReportSendResult) : Intervals (metrics.countTick sendResult) ts := by
  cases sendResult <;> exact ⟨h.count, h.total, h.average, h.max⟩

/-- **An interval is a gap more**: the total does not wrap around when the gaps sum up to less than
`2 ^ 64`. -/
theorem Intervals.recordInterval {ts : List Nat} (h : Intervals metrics ts) {t : Nat}
    {intervalUs : UInt64} (hgaps : gaps (ts ++ [t]) = gaps ts ++ [intervalUs.toNat])
    (hbound : (gaps (ts ++ [t])).sum < 2 ^ 64) :
    Intervals (metrics.recordInterval intervalUs) (ts ++ [t]) where
  count := by
    rw [hgaps, List.length_append, UInt64.ofNat_add]
    exact congrArg (· + 1) h.count
  total := by
    rw [hgaps, List.sum_append, List.sum_singleton] at hbound ⊢
    change (metrics.reportIntervalTotalUs + intervalUs).toNat = _
    rw [UInt64.toNat_add, h.total, Nat.mod_eq_of_lt hbound]
  average := rfl
  max := by
    rw [hgaps, largest_concat, ← h.max]
    change (if intervalUs > metrics.snapshot.reportIntervalMaxUs then intervalUs
      else metrics.snapshot.reportIntervalMaxUs).toNat = _
    by_cases hgt : intervalUs > metrics.snapshot.reportIntervalMaxUs
    · rw [if_pos hgt, max_eq_right (UInt64.le_iff_toNat_le.1 (UInt64.le_of_lt hgt))]
    · rw [if_neg hgt, max_eq_left (UInt64.le_iff_toNat_le.1 (UInt64.not_lt.1 hgt))]

namespace Tracks

variable {ticks : List Tick} (h : Tracks metrics ticks)

include h

/-- The times stay sorted: an accepted tick is not before the last one. -/
theorem isChain_concat (hrec : metrics.recordReportTick nowUs sendResult = some after) :
    (times ticks ++ [nowUs.toNat]).IsChain (· ≤ ·) := by
  refine List.isChain_append.2 ⟨h.sorted, .singleton _, fun last hlast now hnow => ?_⟩
  obtain rfl : nowUs.toNat = now := by simpa using hnow
  rw [← h.last] at hlast
  by_contra hearly
  have hnone := (recordReportTick_eq_none_iff metrics nowUs sendResult).2
    ⟨last, hlast, Nat.lt_of_not_le hearly⟩
  rw [hrec] at hnone
  cases hnone

/-- The gap that an accepted tick adds. -/
theorem gaps_concat_tick (hlast : metrics.hasLastReportTick = true) (t : Nat) :
    gaps (times ticks ++ [t]) =
      gaps (times ticks) ++ [t - metrics.lastReportTickUs.toNat] :=
  gaps_concat (h.last.symm.trans (lastTick?_of_hasLast hlast)) t

/-- **Step lemma**: an accepted tick keeps what the metrics track. -/
theorem recordReportTick (hrec : metrics.recordReportTick nowUs sendResult = some after) :
    Tracks after (ticks ++ [(nowUs, sendResult)]) := by
  have hsorted := h.isChain_concat hrec
  have htimes := times_concat ticks (nowUs, sendResult)
  obtain ⟨hticks, hok, hfailed⟩ := recordReportTick_counters hrec
  have hintervals : Intervals after (times ticks ++ [nowUs.toNat]) := by
    rcases recordReportTick_cases hrec with ⟨hfirst, rfl⟩ | ⟨hlast, hle, rfl⟩
    · have hnone : times ticks = [] := by
        rw [← List.getLast?_eq_none_iff, ← h.last]
        exact lastTick?_eq_none.2 hfirst
      have hbefore := h.intervals.countTick sendResult
      rw [hnone] at hbefore ⊢
      exact ⟨hbefore.count, hbefore.total, hbefore.average, hbefore.max⟩
    · have hinterval : (nowUs - metrics.lastReportTickUs).toNat =
          nowUs.toNat - metrics.lastReportTickUs.toNat := UInt64.toNat_sub_of_le _ _ hle
      have hgaps := h.gaps_concat_tick hlast nowUs.toNat
      -- The gaps so far are the time since the first tick.
      have hsum : (gaps (times ticks ++ [nowUs.toNat])).sum ≤ nowUs.toNat :=
        sum_gaps_le hsorted (by simp)
      have hlater := (h.intervals.countTick sendResult).recordInterval
        (hgaps.trans (by rw [hinterval])) (lt_of_le_of_lt hsum nowUs.toNat_lt)
      exact ⟨hlater.count, hlater.total, hlater.average, hlater.max⟩
  exact
    { last := by rw [recordReportTick_lastTick? hrec, htimes]; simp
      sorted := by rw [htimes]; exact hsorted
      reportTicks := by
        rw [hticks, h.reportTicks, List.length_append, UInt64.ofNat_add]
        rfl
      sendOk := by
        rw [hok, h.sendOk, List.countP_append, UInt64.ofNat_add]
        cases sendResult <;> rfl
      sendFailed := by
        rw [hfailed, h.sendFailed, List.countP_append, UInt64.ofNat_add]
        cases sendResult <;> rfl
      intervals := by rw [htimes]; exact hintervals }

/-- The counters of the state updates are not about ticks. -/
theorem recordStateUpdateAccepted (coalescedUpdates : UInt64) :
    Tracks (metrics.recordStateUpdateAccepted coalescedUpdates) ticks :=
  { h with
    intervals := ⟨h.intervals.count, h.intervals.total, h.intervals.average, h.intervals.max⟩ }

theorem recordStateUpdateRejected : Tracks metrics.recordStateUpdateRejected ticks :=
  { h with
    intervals := ⟨h.intervals.count, h.intervals.total, h.intervals.average, h.intervals.max⟩ }

end Tracks

/-! ## Runs of calls -/

variable {options : ReportTickOptions} {ticks : List Tick}

/-- **What a call does**: it is accepted, or it changes nothing. -/
theorem recordReportTickCall_cases (metrics : Metrics) (options : ReportTickOptions) :
    (∃ sendResult after, ReportSendResult.ofNumber options.sendResult = some sendResult ∧
      metrics.recordReportTick options.nowUs sendResult = some after ∧
      metrics.recordReportTickCall options = (.ok, after)) ∨
    ((ReportSendResult.ofNumber options.sendResult = none ∨
        ∃ last, metrics.lastTick? = some last ∧ options.nowUs.toNat < last) ∧
      metrics.recordReportTickCall options = (.invalidArgument, metrics)) := by
  unfold recordReportTickCall
  cases hnumber : ReportSendResult.ofNumber options.sendResult with
  | none => exact .inr ⟨.inl rfl, rfl⟩
  | some sendResult =>
    cases hrec : metrics.recordReportTick options.nowUs sendResult with
    | none => exact .inr ⟨.inr ((recordReportTick_eq_none_iff _ _ _).1 hrec), by simp [hrec]⟩
    | some after => exact .inl ⟨sendResult, after, rfl, hrec, by simp [hrec]⟩

theorem recordReportTickCall_of_not_ok (h : (metrics.recordReportTickCall options).1 ≠ .ok) :
    (metrics.recordReportTickCall options).2 = metrics := by
  rcases recordReportTickCall_cases metrics options with ⟨_, after, -, -, hcall⟩ | ⟨-, hcall⟩
  · rw [hcall] at h
    exact absurd rfl h
  · rw [hcall]

/-- A call is not accepted for an invalid send result or a time before the last accepted tick. -/
theorem recordReportTickCall_not_ok_iff (metrics : Metrics) (options : ReportTickOptions) :
    (metrics.recordReportTickCall options).1 ≠ .ok ↔
      ReportSendResult.ofNumber options.sendResult = none ∨
        ∃ last, metrics.lastTick? = some last ∧ options.nowUs.toNat < last := by
  rcases recordReportTickCall_cases metrics options with
    ⟨sendResult, after, hnumber, hrec, hcall⟩ | ⟨hwhy, hcall⟩
  · rw [hcall, hnumber, ← recordReportTick_eq_none_iff metrics _ sendResult, hrec]
    simp
  · rw [hcall]
    simp [hwhy]

/-- **Step lemma** for a call. -/
theorem Tracks.step (h : Tracks metrics ticks) (options : ReportTickOptions) :
    Tracks (metrics.step options) (ticks ++ metrics.acceptedTick options) := by
  unfold Metrics.step acceptedTick
  rcases recordReportTickCall_cases metrics options with
    ⟨sendResult, after, hnumber, hrec, hcall⟩ | ⟨-, hcall⟩
  · rw [hcall, hnumber]
    exact h.recordReportTick hrec
  · rw [hcall]
    cases ReportSendResult.ofNumber options.sendResult <;> simpa using h

/-- **Run lemma**: the metrics track the accepted ticks of every run. -/
theorem tracks_afterCalls (calls : List ReportTickOptions) :
    Tracks (afterCalls calls) (acceptedTicks calls) :=
  Runs.run_emitted_invariant (R := Tracks) (fun _ _ options h => h.step options) tracks_init calls

/-! ## What is measured -/

theorem countP_ok_add_countP_failed (ticks : List Tick) :
    ticks.countP (·.2 = .ok) + ticks.countP (·.2 = .failed) = ticks.length := by
  induction ticks with
  | nil => rfl
  | cons tick ticks ih =>
    rw [List.countP_cons, List.countP_cons, List.length_cons]
    cases htick : tick.2 <;> simp <;> omega

/-- **The measurements of ticks** at the times `first` to `last`. -/
structure Measured (metrics : Metrics) (ticks : List Tick) (first last : Nat) : Prop where
  reportTicks : metrics.snapshot.reportTicks.toNat = ticks.length
  sent : metrics.snapshot.reportSendOk.toNat + metrics.snapshot.reportSendFailed.toNat =
    ticks.length
  count : metrics.snapshot.reportIntervalCount.toNat = ticks.length - 1
  total : metrics.reportIntervalTotalUs.toNat = last - first
  average : metrics.snapshot.reportIntervalAverageUs.toNat =
    if ticks.length = 1 then 0 else (last - first) / (ticks.length - 1)
  max : metrics.snapshot.reportIntervalMaxUs.toNat = largest (gaps (times ticks))
  average_le_max : metrics.snapshot.reportIntervalAverageUs ≤ metrics.snapshot.reportIntervalMaxUs

/-- No addition and no subtraction of a tick wraps around, and its division is not by zero. -/
structure Fits (metrics : Metrics) (nowUs : UInt64) : Prop where
  reportTicks : metrics.snapshot.reportTicks.toNat + 1 < 2 ^ 64
  sendOk : metrics.snapshot.reportSendOk.toNat + 1 < 2 ^ 64
  sendFailed : metrics.snapshot.reportSendFailed.toNat + 1 < 2 ^ 64
  interval : metrics.hasLastReportTick = true → metrics.lastReportTickUs ≤ nowUs
  count : metrics.hasLastReportTick = true →
    metrics.snapshot.reportIntervalCount.toNat + 1 < 2 ^ 64
  divisor : metrics.hasLastReportTick = true → metrics.snapshot.reportIntervalCount + 1 ≠ 0
  total : metrics.hasLastReportTick = true →
    metrics.reportIntervalTotalUs.toNat + (nowUs - metrics.lastReportTickUs).toNat < 2 ^ 64

theorem length_times (ticks : List Tick) : (times ticks).length = ticks.length := List.length_map _

namespace Tracks

variable (h : Tracks metrics ticks)

include h

theorem toNat_count (hlen : ticks.length < 2 ^ 64) :
    metrics.snapshot.reportIntervalCount.toNat = (gaps (times ticks)).length := by
  have hcount : (gaps (times ticks)).length < 2 ^ 64 := by
    rw [length_gaps, length_times]
    omega
  rw [h.intervals.count, UInt64.toNat_ofNat_of_lt' hcount]

theorem toNat_average (hlen : ticks.length < 2 ^ 64) :
    metrics.snapshot.reportIntervalAverageUs.toNat =
      (gaps (times ticks)).sum / (gaps (times ticks)).length := by
  rw [h.intervals.average, UInt64.toNat_div, h.intervals.total, h.toNat_count hlen]

theorem toNat_sendOk (hlen : ticks.length < 2 ^ 64) :
    metrics.snapshot.reportSendOk.toNat = ticks.countP (·.2 = .ok) := by
  have hle : ticks.countP (·.2 = .ok) ≤ ticks.length := List.countP_le_length
  rw [h.sendOk, UInt64.toNat_ofNat_of_lt' (lt_of_le_of_lt hle hlen)]

theorem toNat_sendFailed (hlen : ticks.length < 2 ^ 64) :
    metrics.snapshot.reportSendFailed.toNat = ticks.countP (·.2 = .failed) := by
  have hle : ticks.countP (·.2 = .failed) ≤ ticks.length := List.countP_le_length
  rw [h.sendFailed, UInt64.toNat_ofNat_of_lt' (lt_of_le_of_lt hle hlen)]

/-- Fewer ticks than a counter can hold are measured. -/
theorem measured (hlen : ticks.length < 2 ^ 64) {first last : Nat}
    (hfirst : (times ticks).head? = some first) (hlast : (times ticks).getLast? = some last) :
    Measured metrics ticks first last := by
  have hsum : (gaps (times ticks)).sum = last - first := by
    have htelescope := add_sum_gaps h.sorted hfirst hlast
    omega
  have hgaps : (gaps (times ticks)).length = ticks.length - 1 := by
    rw [length_gaps, length_times]
  exact
    { reportTicks := by rw [h.reportTicks, UInt64.toNat_ofNat_of_lt' hlen]
      sent := by
        rw [h.toNat_sendOk hlen, h.toNat_sendFailed hlen, countP_ok_add_countP_failed]
      count := by rw [h.toNat_count hlen, hgaps]
      total := by rw [h.intervals.total, hsum]
      average := by
        rw [h.toNat_average hlen, hsum, hgaps]
        by_cases hone : ticks.length = 1
        · rw [if_pos hone, hone, Nat.sub_self, Nat.div_zero]
        · rw [if_neg hone]
      max := h.intervals.max
      average_le_max := by
        rw [UInt64.le_iff_toNat_le, h.toNat_average hlen, h.intervals.max]
        exact average_le_largest _ }

/-- An accepted tick fits unless it is the one that a counter cannot hold any more. -/
theorem fits (hlen : ticks.length + 1 < 2 ^ 64)
    (hrec : metrics.recordReportTick nowUs sendResult = some after) : Fits metrics nowUs := by
  have hlen' : ticks.length < 2 ^ 64 := by omega
  have hok : ticks.countP (·.2 = .ok) ≤ ticks.length := List.countP_le_length
  have hfailed : ticks.countP (·.2 = .failed) ≤ ticks.length := List.countP_le_length
  have hcount : metrics.snapshot.reportIntervalCount.toNat + 1 < 2 ^ 64 := by
    rw [h.toNat_count hlen', length_gaps, length_times]
    omega
  have hlater : metrics.hasLastReportTick = true → metrics.lastReportTickUs ≤ nowUs := by
    intro hlast
    rcases recordReportTick_cases hrec with ⟨hfirst, -⟩ | ⟨-, hle, -⟩
    · rw [hlast] at hfirst
      cases hfirst
    · exact hle
  exact
    { reportTicks := by rwa [h.reportTicks, UInt64.toNat_ofNat_of_lt' hlen']
      sendOk := by
        rw [h.toNat_sendOk hlen']
        omega
      sendFailed := by
        rw [h.toNat_sendFailed hlen']
        omega
      interval := hlater
      count := fun _ => hcount
      divisor := by
        intro _ hzero
        have := congrArg UInt64.toNat hzero
        rw [UInt64.toNat_add, UInt64.toNat_one, Nat.mod_eq_of_lt hcount] at this
        cases this
      total := by
        intro hlast
        have hsorted := h.isChain_concat hrec
        have hsum : (gaps (times ticks ++ [nowUs.toNat])).sum ≤ nowUs.toNat :=
          sum_gaps_le hsorted (by simp)
        rw [h.gaps_concat_tick hlast, List.sum_append, List.sum_singleton] at hsum
        rw [h.intervals.total, UInt64.toNat_sub_of_le _ _ (hlater hlast)]
        exact lt_of_le_of_lt hsum nowUs.toNat_lt }

end Tracks

theorem acceptedTicks_append (earlier later : List ReportTickOptions) :
    acceptedTicks (earlier ++ later) =
      acceptedTicks earlier ++ Runs.emitted step acceptedTick (afterCalls earlier) later :=
  Runs.emitted_append step acceptedTick init earlier later

/-- **The report metrics measure the accepted ticks.** A call that is not accepted has an invalid
send result or is earlier than the last accepted tick, and changes nothing. -/
theorem report_ticks_measured (calls : List ReportTickOptions) :
    let metrics := afterCalls calls
    let ticks := acceptedTicks calls
    (∀ options, ((metrics.recordReportTickCall options).1 ≠ .ok ↔
        ReportSendResult.ofNumber options.sendResult = none ∨
          ∃ last, (times ticks).getLast? = some last ∧ options.nowUs.toNat < last) ∧
      ((metrics.recordReportTickCall options).1 ≠ .ok →
        (metrics.recordReportTickCall options).2 = metrics)) ∧
    (times ticks).IsChain (· ≤ ·) ∧
    (ticks.length < 2 ^ 64 →
      (∀ first last, (times ticks).head? = some first → (times ticks).getLast? = some last →
        Measured metrics ticks first last) ∧
      Runs.AllSteps step
        (fun metrics options => (metrics.recordReportTickCall options).1 = .ok →
          Fits metrics options.nowUs) init calls) := by
  have h := tracks_afterCalls calls
  refine ⟨fun options => ⟨?_, recordReportTickCall_of_not_ok⟩, h.sorted, fun hlen =>
    ⟨fun first last hfirst hlast => h.measured hlen hfirst hlast, ?_⟩⟩
  · rw [← h.last]
    exact recordReportTickCall_not_ok_iff _ options
  · rw [Runs.allSteps_iff_forall_split]
    rintro earlier options later rfl hok
    have hbefore := tracks_afterCalls earlier
    rcases recordReportTickCall_cases (afterCalls earlier) options with
      ⟨sendResult, after, hnumber, hrec, hcall⟩ | ⟨-, hcall⟩
    · refine hbefore.fits ?_ hrec
      have htick : acceptedTick (afterCalls earlier) options = [(options.nowUs, sendResult)] := by
        rw [acceptedTick, hnumber, hcall]
        rfl
      rw [acceptedTicks_append, Runs.emitted, htick] at hlen
      simp only [List.length_append, List.length_cons] at hlen
      omega
    · change ((afterCalls earlier).recordReportTickCall options).1 = .ok at hok
      rw [hcall] at hok
      cases hok

/-- Ticks at the time `0`. -/
theorem acceptedTicks_replicate (n : Nat) :
    acceptedTicks (List.replicate n ⟨0, 0⟩) = List.replicate n (0, .ok) := by
  induction n with
  | zero => rfl
  | succ n ih =>
    rw [List.replicate_succ', acceptedTicks_append, ih, List.replicate_succ']
    congr 1
    rcases recordReportTickCall_cases (afterCalls (List.replicate n ⟨0, 0⟩)) ⟨0, 0⟩ with
      ⟨_, _, -, -, hcall⟩ | ⟨hwhy, -⟩
    · rw [Runs.emitted, Runs.emitted, List.append_nil, acceptedTick, hcall]
      rfl
    · rcases hwhy with hinvalid | ⟨last, hlast, hearly⟩
      · cases hinvalid
      · rw [(tracks_afterCalls _).last, ih, times, List.map_replicate] at hlast
        rw [List.eq_of_mem_replicate (List.mem_of_getLast? hlast)] at hearly
        exact absurd hearly (lt_irrefl _)

/-- After `2 ^ 64` accepted ticks the counter of ticks is zero again, and one more tick divides by
zero. -/
theorem report_ticks_wrap :
    let calls := List.replicate (2 ^ 64) ⟨0, 0⟩
    (acceptedTicks calls).length = 2 ^ 64 ∧
      (afterCalls calls).snapshot.reportTicks.toNat = 0 ∧
      (afterCalls calls).snapshot.reportIntervalCount + 1 = 0 := by
  intro calls
  have h := tracks_afterCalls calls
  have hticks : acceptedTicks calls = List.replicate (2 ^ 64) (0, .ok) :=
    acceptedTicks_replicate (2 ^ 64)
  have hlen : (acceptedTicks calls).length = 2 ^ 64 := by
    rw [hticks, List.length_replicate]
  refine ⟨hlen, ?_, ?_⟩
  · rw [h.reportTicks, hlen]
    decide
  · rw [h.intervals.count, length_gaps, length_times, hlen]
    decide

end Metrics

end Swbt
