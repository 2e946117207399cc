import SwbtDaemon.Domain.Proofs.OwnershipProofs
import SwbtDaemon.Support.Proofs.ReportTickProofs

/-!
# The report ticks of the domain

The domain records its report ticks in its metrics. No other operation touches what the metrics
measure of them, so the measurements are those of the accepted ticks of a whole execution.
-/

namespace Swbt

namespace Domain

open Metrics

/-- The tick that an operation adds to the accepted ones. -/
def acceptedTick (app : Domain) : Op → List Tick
  | .recordReportTick nowUs sendResult =>
    if (app.recordReportTick nowUs sendResult).1 = .ok then [(nowUs, sendResult)] else []
  | _ => []

variable {app : Domain} {ticks : List Tick}

theorem tracks_recordReportTick (h : Tracks app.metrics ticks) (nowUs : UInt64)
    (sendResult : ReportSendResult) :
    Tracks (app.step (.recordReportTick nowUs sendResult)).metrics
      (ticks ++ app.acceptedTick (.recordReportTick nowUs sendResult)) := by
  cases hrec : app.metrics.recordReportTick nowUs sendResult with
  | none =>
    have hcall : app.recordReportTick nowUs sendResult = (.invalidArgument, app) := by
      simp [Domain.recordReportTick, hrec]
    simpa [step, perform, acceptedTick, hcall] using h
  | some after =>
    have hcall : app.recordReportTick nowUs sendResult = (.ok, { app with metrics := after }) := by
      simp [Domain.recordReportTick, hrec]
    simpa [step, perform, acceptedTick, hcall] using h.recordReportTick hrec

theorem tracks_setState (h : Tracks app.metrics ticks) (clientId : UInt32) (state : State)
    (sequence : UInt64) : Tracks (app.setState clientId state sequence).2.metrics ticks := by
  by_cases hheld : app.lease.HeldBy clientId
  · by_cases hstale : sequence < app.lease.lastSequence
    · rw [setState_of_stale hheld state hstale]
      exact h.recordStateUpdateRejected
    · rw [setState_of_accepted hheld state hstale]
      exact h.recordStateUpdateAccepted 0
  · rw [setState_of_not_heldBy hheld]
    exact h.recordStateUpdateRejected

theorem tracks_of_no_tick {op : Op} (hop : app.acceptedTick op = [])
    (h : Tracks (app.step op).metrics ticks) :
    Tracks (app.step op).metrics (ticks ++ app.acceptedTick op) := by
  rwa [hop, List.append_nil]

/-- **Step lemma**: every operation keeps what the metrics track. -/
theorem tracks_step (h : Tracks app.metrics ticks) (op : Op) :
    Tracks (app.step op).metrics (ticks ++ app.acceptedTick op) := by
  cases op with
  | recordReportTick nowUs sendResult => exact tracks_recordReportTick h nowUs sendResult
  | setState clientId state sequence =>
    exact tracks_of_no_tick rfl (tracks_setState h clientId state sequence)
  | revoke reason clientId =>
    have hsame : (app.step (.revoke reason clientId)).metrics = app.metrics :=
      revoke_metrics app reason clientId
    exact tracks_of_no_tick rfl (hsame ▸ h)
  | recordStateUpdateRejected => exact tracks_of_no_tick rfl h.recordStateUpdateRejected
  | _ => exact tracks_of_no_tick rfl h

/-- **The domain measures its report ticks**: over an execution from initialisation on, with other
operations in between, the measurements are those of the accepted ticks. -/
theorem ticks_measured {app : Domain} (hinit : Domain.init = .ok app) (ops : List Op)
    {first last : Nat} :
    let after := Runs.run step app ops
    let ticks := Runs.emitted step acceptedTick app ops
    ticks.length < 2 ^ 64 → (times ticks).head? = some first →
      (times ticks).getLast? = some last → Measured after.metrics ticks first last := by
  intro after ticks hlen hfirst hlast
  obtain ⟨spi, hspi⟩ := init_ok
  obtain rfl : initWith spi = app := Except.ok.inj (hspi.symm.trans hinit)
  have h : Tracks after.metrics ticks :=
    Runs.run_emitted_invariant (R := fun (app : Domain) ticks => Tracks app.metrics ticks)
      (fun _ _ op h => tracks_step h op) tracks_init ops
  exact h.measured hlen hfirst hlast

end Domain

end Swbt
