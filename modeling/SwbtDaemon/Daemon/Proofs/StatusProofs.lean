import SwbtDaemon.Bridge.Proofs.TimingProofs
import SwbtDaemon.Daemon.Config
import SwbtDaemon.Daemon.Proofs.OperationsProofs

/-!
# Proofs: what the status of the daemon shows

The metrics measure the periodic reports, the rumble is that of the last output report, and the
replies come from what the console has set and from the SPI of the start.
-/

namespace Swbt

open Metrics (Tick Tracks Measured times)

namespace Domain

/-- The report tick that an operation records. -/
def Op.tick : Op → Option Tick
  | .recordReportTick nowUs sendResult => some (nowUs, sendResult)
  | _ => none

variable {app : Domain} {ticks : List Tick}

/-- A tick that is not before the last one is accepted. -/
theorem acceptedTick_of_le (h : Tracks app.metrics ticks) (tick : Tick)
    (hle : ∀ last ∈ (times ticks).getLast?, last ≤ tick.1.toNat) :
    app.acceptedTick (.ofTick tick) = [tick] := by
  cases hrec : app.metrics.recordReportTick tick.1 tick.2 with
  | none =>
    obtain ⟨last, hlast, hearly⟩ := (Metrics.recordReportTick_eq_none_iff _ _ _).1 hrec
    rw [h.last] at hlast
    exact absurd (hle last hlast) (Nat.not_le_of_lt hearly)
  | some after =>
    simp [acceptedTick, Op.ofTick, Domain.recordReportTick, hrec]

/-- **Ticks in order are all accepted.** -/
theorem emitted_acceptedTick (h : Tracks app.metrics ticks) (ops : List Op)
    (hsorted : (times (ticks ++ ops.filterMap Op.tick)).Pairwise (· ≤ ·)) :
    Runs.emitted step acceptedTick app ops = ops.filterMap Op.tick := by
  induction ops generalizing app ticks with
  | nil => rfl
  | cons op ops ih =>
    have hnext := tracks_step h op
    cases htick : op.tick with
    | none =>
      have hnone : app.acceptedTick op = [] := by
        cases op with
        | recordReportTick nowUs sendResult => cases htick
        | _ => rfl
      rw [hnone, List.append_nil] at hnext
      rw [List.filterMap_cons_none htick] at hsorted ⊢
      rw [Runs.emitted, hnone, List.nil_append]
      exact ih hnext hsorted
    | some tick =>
      obtain rfl : op = .ofTick tick := by
        cases op with
        | recordReportTick nowUs sendResult =>
          obtain rfl := Option.some.inj htick
          rfl
        | _ => cases htick
      rw [List.filterMap_cons_some htick, List.append_cons] at hsorted
      have hle : ∀ last ∈ (times ticks).getLast?, last ≤ tick.1.toNat := by
        intro last hlast
        rw [times, List.map_append, List.map_append, List.append_assoc] at hsorted
        exact (List.pairwise_append.1 hsorted).2.2 last (List.mem_of_mem_getLast? hlast) _
          (List.mem_append_left _ (List.mem_singleton_self _))
      have haccepted := acceptedTick_of_le h tick hle
      rw [haccepted] at hnext
      rw [Runs.emitted, haccepted, List.filterMap_cons_some htick, ih hnext hsorted]
      rfl

end Domain

namespace Production

/-! ## The periodic reports -/

variable [Platform]

theorem filterMap_tick_hostOps (s : Shutdown Host) (event : Event) :
    (hostOps s event).filterMap Domain.Op.tick = periodicReports s event := by
  have hown : (ownOps s event).filterMap Domain.Op.tick = [] := by
    unfold ownOps
    split
    · split_ifs <;> rfl
    · rfl
    · rfl
  have hticks : Domain.Op.tick ∘ Domain.Op.ofTick = some := rfl
  rw [hostOps, List.filterMap_append, hown, List.nil_append, List.filterMap_map, hticks,
    List.filterMap_some]

omit [Platform] in
/-- The operations of the IPC record no ticks. -/
theorem filterMap_tick_filter (ops : List Domain.Op) :
    (ops.filter fun op => !op.ofIpc).filterMap Domain.Op.tick = ops.filterMap Domain.Op.tick := by
  rw [List.filterMap_filter]
  refine List.filterMap_congr fun op _ => ?_
  cases op <;> simp [Domain.Op.ofIpc, Domain.Op.tick]

/-- A run of the daemon is a run of its domain that records the periodic reports. -/
theorem run_ticks (s : Shutdown Host) (events : List Event) :
    ∃ ops, (Runs.run step s events).host.sys.control.app =
        Runs.run Domain.step s.host.sys.control.app ops ∧
      ops.filterMap Domain.Op.tick = Runs.emitted step periodicReports s events := by
  refine Runs.run_refines periodicReports (fun s : Shutdown Host => s.host.sys.control.app)
    (List.filterMap Domain.Op.tick) rfl (fun _ _ => List.filterMap_append) (fun s event => ?_) s
    events
  obtain ⟨ops, happ, hops⟩ := step_ops s event
  refine ⟨ops, happ, ?_⟩
  rw [← filterMap_tick_filter, hops, filterMap_tick_hostOps]

/-- A periodic report has the time of its can-send event. -/
theorem periodicReports_time {s : Shutdown Host} {event : Event} {tick : Tick}
    (hmem : tick ∈ periodicReports s event) :
    ∃ timeMs, event.canSendTime = some timeMs ∧
      tick.1 = TimerAdapter.readingUs (ReportLoop.clockMs timeMs) := by
  unfold periodicReports at hmem
  split at hmem
  · split_ifs at hmem
    · exact absurd hmem List.not_mem_nil
    · obtain ⟨-, -, rfl⟩ := List.mem_map.1 hmem
      exact ⟨_, rfl, rfl⟩
  · exact absurd hmem List.not_mem_nil

omit [Platform] in
/-- The time of a reading that has not wrapped around. -/
theorem toNat_reading {timeMs : Nat} (h : timeMs < 2 ^ 32) :
    (TimerAdapter.readingUs (ReportLoop.clockMs timeMs)).toNat = timeMs * 1000 := by
  rw [TimerAdapter.toNat_readingUs, ReportLoop.clockMs, UInt32.toNat_ofNat', Nat.mod_eq_of_lt h]

/-- The periodic reports bear the times of their can-send events, in order. -/
theorem times_periodicReports (s : Shutdown Host) (events : List Event)
    (hclock : (events.filterMap Event.canSendTime).Pairwise (· ≤ ·))
    (hwrap : ∀ timeMs ∈ events.filterMap Event.canSendTime, timeMs < 2 ^ 32) :
    (times (Runs.emitted step periodicReports s events)).Pairwise (· ≤ ·) ∧
      ∀ time ∈ times (Runs.emitted step periodicReports s events),
        ∃ timeMs ∈ events.filterMap Event.canSendTime, time = timeMs * 1000 := by
  induction events generalizing s with
  | nil => exact ⟨.nil, by simp [Runs.emitted, times]⟩
  | cons event events ih =>
    have hsame : ∀ time ∈ times (periodicReports s event),
        ∃ timeMs, event.canSendTime = some timeMs ∧ timeMs < 2 ^ 32 ∧ time = timeMs * 1000 := by
      intro time htime
      obtain ⟨tick, htick, rfl⟩ := List.mem_map.1 htime
      obtain ⟨timeMs, hevent, heq⟩ := periodicReports_time htick
      have hlt : timeMs < 2 ^ 32 := hwrap timeMs (List.mem_filterMap.2 ⟨event, by simp, hevent⟩)
      exact ⟨timeMs, hevent, hlt, by rw [heq, toNat_reading hlt]⟩
    have hsublist : (events.filterMap Event.canSendTime).Sublist
        ((event :: events).filterMap Event.canSendTime) :=
      (List.sublist_cons_self event events).filterMap _
    obtain ⟨hsorted, hlater⟩ := ih (step s event) (hclock.sublist hsublist)
      fun timeMs hmem => hwrap timeMs (hsublist.subset hmem)
    rw [Runs.emitted, times, List.map_append]
    constructor
    · refine List.pairwise_append.2 ⟨?_, hsorted, ?_⟩
      · refine List.pairwise_of_forall_mem_list fun time htime time' htime' => ?_
        obtain ⟨timeMs, hevent, -, rfl⟩ := hsame time htime
        obtain ⟨timeMs', hevent', -, rfl⟩ := hsame time' htime'
        rw [Option.some.inj (hevent.symm.trans hevent')]
      · intro time htime time' htime'
        obtain ⟨timeMs, hevent, -, rfl⟩ := hsame time htime
        obtain ⟨timeMs', hmem', rfl⟩ := hlater time' htime'
        rw [List.filterMap_cons_some hevent] at hclock
        exact Nat.mul_le_mul_right 1000 (List.rel_of_pairwise_cons hclock hmem')
    · intro time htime
      rcases List.mem_append.1 htime with hnow | hnext
      · obtain ⟨timeMs, hevent, -, rfl⟩ := hsame time hnow
        exact ⟨timeMs, List.mem_filterMap.2 ⟨event, by simp, hevent⟩, rfl⟩
      · obtain ⟨timeMs, hmem, rfl⟩ := hlater time hnext
        exact ⟨timeMs, hsublist.subset hmem, rfl⟩

omit [Platform] in
/-- A started daemon has a fresh domain. -/
theorem start_app {setup : Setup} {s : Shutdown Host} (h : setup.start = some s) :
    (∃ spi, s.host.sys.control.app =
        { Domain.initWith spi with daemon := setup.daemon, hardware := setup.hardware }) ∧
      s.host.reportOptions = setup.reportOptions := by
  unfold Setup.start at h
  split at h
  · rename_i adapter app hadapter happ
    obtain rfl := Option.some.inj h
    obtain ⟨spi, hinit⟩ := Domain.init_ok
    obtain rfl : _ = app := Except.ok.inj (hinit.symm.trans happ)
    exact ⟨⟨spi, rfl⟩, rfl⟩
  · cases h

/-- **The metrics measure the periodic reports.** After any events of a daemon that has been
started, with the clock of the run loop not set back and not wrapped around, the metrics of the
status count the periodic reports that were given to the HID sender and those that it accepted, and
measure the intervals between them. -/
theorem metrics_measure_reports {setup : Setup} {s₀ : Shutdown Host}
    (hstart : setup.start = some s₀) (events : List Event)
    (hclock : (events.filterMap Event.canSendTime).Pairwise (· ≤ ·))
    (hwrap : ∀ timeMs ∈ events.filterMap Event.canSendTime, timeMs < 2 ^ 32) {first last : Nat} :
    let metrics := (Runs.run step s₀ events).host.sys.control.app.metrics
    let reports := Runs.emitted step periodicReports s₀ events
    reports.length < 2 ^ 64 → (times reports).head? = some first →
      (times reports).getLast? = some last →
        Measured metrics reports first last ∧
          metrics.snapshot.reportSendOk.toNat = reports.countP (·.2 = .ok) := by
  intro metrics reports hlen hfirst hlast
  obtain ⟨ops, happ, hops⟩ := run_ticks s₀ events
  have hinit : Metrics.Tracks s₀.host.sys.control.app.metrics [] := by
    obtain ⟨⟨spi, happ₀⟩, -⟩ := start_app hstart
    rw [happ₀]
    exact Metrics.tracks_init
  have htracks : Metrics.Tracks metrics (Runs.emitted Domain.step Domain.acceptedTick
      s₀.host.sys.control.app ops) := by
    have hrun := Runs.run_emitted_invariant
      (R := fun (app : Domain) ticks => Metrics.Tracks app.metrics ticks)
      (fun _ _ op h => Domain.tracks_step h op) hinit ops
    rwa [← happ] at hrun
  have hsorted := (times_periodicReports s₀ events hclock hwrap).1
  rw [← hops] at hsorted
  rw [Domain.emitted_acceptedTick hinit ops hsorted, hops] at htracks
  refine ⟨htracks.measured hlen hfirst hlast, ?_⟩
  rw [htracks.sendOk, UInt64.toNat_ofNat', Nat.mod_eq_of_lt]
  exact lt_of_le_of_lt List.countP_le_length hlen

/-- Two periodic reports, of which the HID sender takes the first one. -/
def reportTwice : List Event :=
  [.shutdown (.opened 0 1 ⟨0, true⟩), .reportTimer 8, .shutdown (.canSendNow ⟨8, true⟩ .requested),
    .reportTimer 16, .shutdown (.canSendNow ⟨20, false⟩ .requested)]

omit [Platform] in
/-- The metrics of a report that goes out and of one that does not. -/
theorem two_reports_are_measured :
    ∃ s₀, defaultSetup.start = some s₀ ∧
      let _ : Platform := Platform.lp64
      let metrics := (Runs.run step s₀ reportTwice).host.sys.control.app.metrics
      let reports := Runs.emitted step periodicReports s₀ reportTwice
      Measured metrics reports 8000 20000 ∧
        metrics.snapshot.reportSendOk.toNat = reports.countP (·.2 = .ok) := by
  let _ : Platform := Platform.lp64
  have hreports : defaultSetup.start.any (fun s₀ =>
      decide (Runs.emitted step periodicReports s₀ reportTwice = [(8000, .ok), (20000, .failed)])) =
        true := by
    decide +kernel
  obtain ⟨s₀, hstart, htwo⟩ := (Option.any_eq_true _ _).1 hreports
  have htwo := of_decide_eq_true htwo
  exact ⟨s₀, hstart, metrics_measure_reports hstart reportTwice (by decide) (by decide)
    (by rw [htwo]; decide) (by rw [htwo]; rfl) (by rw [htwo]; rfl)⟩

/-! ## What the console has set -/

omit [Platform] in
/-- A dispatch sets the player lights as the output report says. -/
theorem dispatch_setLights (config : DispatchConfig) (lights : PlayerLights)
    (report : OutputReport) :
    (dispatch config lights report).2.2 = ConsoleMemory.setLights lights report := by
  unfold ConsoleMemory.setLights
  split
  · rename_i raw rest hsubcommand
    unfold dispatch
    rw [hsubcommand]
    rfl
  · rename_i hother
    have hlights : (dispatch config lights report).2.2 = lights ∨ _ := dispatch_lights
    rcases hlights with hsame | ⟨-, raw, rest, hsubcommand, -⟩
    · exact hsame
    · exact absurd hsubcommand (hother raw rest)

/-- What the domain keeps of the output reports. -/
def memory (app : Domain) : ConsoleMemory := ⟨app.rumble, app.playerLights⟩

/-- The output report that an operation handles, with its time. -/
def heard : Domain.Op → Option (OutputReport × UInt64)
  | .handleOutputReport report _ _ updatedAtMs => some (report, updatedAtMs)
  | _ => none

omit [Platform] in
/-- An operation tells the memory of the domain what it handles, and leaves the SPI. -/
theorem step_memory (app : Domain) (op : Domain.Op)
    (hop : ∀ payload updatedAtMs, op ≠ .recordRumble payload updatedAtMs) :
    memory (app.step op) = Runs.run ConsoleMemory.tell (memory app) (heard op).toList ∧
      (app.step op).spi = app.spi := by
  cases op with
  | setState clientId state sequence =>
    change memory (app.setState clientId state sequence).2 = memory app ∧
      (app.setState clientId state sequence).2.spi = app.spi
    simp only [Domain.setState]
    split_ifs <;> exact ⟨rfl, rfl⟩
  | revoke reason clientId =>
    change memory (app.revoke reason clientId).2 = memory app ∧
      (app.revoke reason clientId).2.spi = app.spi
    cases reason with
    | shutdown => exact ⟨rfl, rfl⟩
    | _ =>
      simp only [Domain.revoke]
      split_ifs <;> exact ⟨rfl, rfl⟩
  | recordReportTick nowUs sendResult =>
    change memory (app.recordReportTick nowUs sendResult).2 = memory app ∧
      (app.recordReportTick nowUs sendResult).2.spi = app.spi
    unfold Domain.recordReportTick
    split <;> exact ⟨rfl, rfl⟩
  | recordRumble payload updatedAtMs => exact absurd rfl (hop payload updatedAtMs)
  | handleOutputReport report reportOptions deviceInfo updatedAtMs =>
    have hlights := dispatch_setLights ⟨app.state, reportOptions, app.spi, deviceInfo⟩
      app.playerLights report
    exact ⟨congrArg (ConsoleMemory.mk ⟨report.rumble, updatedAtMs, true⟩) hlights, rfl⟩
  | _ => exact ⟨rfl, rfl⟩

omit [Platform] in
theorem run_memory (app : Domain) (ops : List Domain.Op)
    (hops : ∀ op ∈ ops, ∀ payload updatedAtMs, op ≠ .recordRumble payload updatedAtMs) :
    memory (Runs.run Domain.step app ops) =
        Runs.run ConsoleMemory.tell (memory app) (ops.filterMap heard) ∧
      (Runs.run Domain.step app ops).spi = app.spi := by
  induction ops generalizing app with
  | nil => exact ⟨rfl, rfl⟩
  | cons op ops ih =>
    obtain ⟨hop, hops⟩ := List.forall_mem_cons.1 hops
    obtain ⟨hnext, hspi⟩ := step_memory app op hop
    obtain ⟨hlater, hspi'⟩ := ih (app.step op) hops
    refine ⟨?_, hspi'.trans hspi⟩
    rw [Runs.run_cons, hlater, hnext, List.filterMap_cons]
    cases heard op <;> rfl

omit [Platform] in
theorem filterMap_heard_filter (ops : List Domain.Op) :
    (ops.filter fun op => !op.ofIpc).filterMap heard = ops.filterMap heard := by
  rw [List.filterMap_filter]
  refine List.filterMap_congr fun op _ => ?_
  cases op <;> simp [Domain.Op.ofIpc, heard]

/-- The operations of the host record no rumble by itself, and handle the output report. -/
theorem heard_hostOps (s : Shutdown Host) (event : Event) :
    (∀ op ∈ hostOps s event, ∀ payload updatedAtMs, op ≠ .recordRumble payload updatedAtMs) ∧
      (hostOps s event).filterMap heard = event.heard.toList := by
  have hticks : ((periodicReports s event).map Domain.Op.ofTick).filterMap heard = [] := by
    rw [List.filterMap_map]
    exact List.filterMap_eq_nil_iff.2 fun _ _ => rfl
  constructor
  · rintro op hmem payload updatedAtMs rfl
    have hown : .recordRumble payload updatedAtMs ∉ ownOps s event := by
      unfold ownOps
      split
      · split_ifs <;> simp
      · simp
      · simp
    rcases List.mem_append.1 hmem with hmem | htick
    · exact hown hmem
    · obtain ⟨tick, -, heq⟩ := List.mem_map.1 htick
      cases heq
  · rw [hostOps, List.filterMap_append, hticks, List.append_nil]
    cases event with
    | shutdown event =>
      cases event with
      | callback input answer =>
        simp only [ownOps]
        split_ifs <;> rfl
      | _ => rfl
    | _ => rfl

/-- **Step lemma**: an event tells the memory its output report. -/
theorem event_memory (s : Shutdown Host) (event : Event) :
    memory (step s event).host.sys.control.app =
        Runs.run ConsoleMemory.tell (memory s.host.sys.control.app) event.heard.toList ∧
      (step s event).host.sys.control.app.spi = s.host.sys.control.app.spi := by
  obtain ⟨ops, happ, hops⟩ := step_ops s event
  obtain ⟨hrumble, hheard⟩ := heard_hostOps s event
  have hnone : ∀ op ∈ ops, ∀ payload updatedAtMs, op ≠ .recordRumble payload updatedAtMs := by
    rintro op hmem payload updatedAtMs rfl
    refine hrumble _ ?_ payload updatedAtMs rfl
    rw [← hops]
    exact List.mem_filter.2 ⟨hmem, rfl⟩
  rw [happ, ← hheard, ← hops, filterMap_heard_filter]
  exact run_memory s.host.sys.control.app ops hnone

theorem step_reportOptions (s : Shutdown Host) (event : Event) :
    (step s event).host.reportOptions = s.host.reportOptions := by
  by_cases hpoll : ∃ timeMs io, event = .poll timeMs io
  · obtain ⟨timeMs, io, rfl⟩ := hpoll
    rfl
  · exact (step_performs s fun timeMs io heq => hpoll ⟨timeMs, io, heq⟩).options

/-- **Run lemma**: the memory has been told the output reports of the events. -/
theorem run_memory_heard (s : Shutdown Host) (events : List Event) :
    memory (Runs.run step s events).host.sys.control.app =
        Runs.run ConsoleMemory.tell (memory s.host.sys.control.app)
          (events.filterMap Event.heard) ∧
      (Runs.run step s events).host.sys.control.app.spi = s.host.sys.control.app.spi ∧
      (Runs.run step s events).host.reportOptions = s.host.reportOptions := by
  induction events generalizing s with
  | nil => exact ⟨rfl, rfl, rfl⟩
  | cons event events ih =>
    obtain ⟨hnext, hspi⟩ := event_memory s event
    obtain ⟨hlater, hspi', hoptions⟩ := ih (step s event)
    refine ⟨?_, hspi'.trans hspi, hoptions.trans (step_reportOptions s event)⟩
    rw [Runs.run_cons, hlater, hnext, List.filterMap_cons]
    cases event.heard <;> rfl

omit [Platform] in
theorem dispatchedReplies_eq (s : Shutdown Host) (hidCid : UInt16) (report : OutputReport)
    (deviceInfo : DeviceInfo) (timeMs : Nat) :
    dispatchedReplies s (.outputReport hidCid report deviceInfo timeMs) =
      repliesOf hidCid report (dispatch ⟨s.host.readState, s.host.reportOptions,
        s.host.sys.control.app.spi, deviceInfo⟩ s.host.sys.control.app.playerLights report) := by
  have hresult : ∀ result : DispatchResult,
      (if result = .ok then Domain.Result.ok else .invalidArgument) ≠ .ok ↔ result ≠ .ok := by
    intro result
    split <;> simp_all
  simp only [dispatchedReplies, Domain.handleOutputReport, repliesOf]
  cases report.subcommand with
  | none => rfl
  | some subcommand => exact if_congr (or_congr_left (hresult _)) rfl rfl

/-- **What the console has set is what it gets.** After any events of a daemon that has been
started, the status shows the rumble of the last output report; and the replies to the next output
report are those of a dispatch on the player lights that the console has set last, on the SPI of
the start and on the state of the controller. -/
theorem replies_show_memory {setup : Setup} {s₀ : Shutdown Host} (hstart : setup.start = some s₀)
    (events : List Event) :
    let s := Runs.run step s₀ events
    let memory := Runs.run ConsoleMemory.tell ConsoleMemory.init (events.filterMap Event.heard)
    s.host.sys.control.app.readStatus.rumble = memory.rumble ∧
      ∀ hidCid report deviceInfo timeMs,
        dispatchedReplies s (.outputReport hidCid report deviceInfo timeMs) =
          repliesOf hidCid report (dispatch ⟨s.host.readState, setup.reportOptions,
            s₀.host.sys.control.app.spi, deviceInfo⟩ memory.lights report) := by
  intro s told
  obtain ⟨⟨spi, happ⟩, hset⟩ := start_app hstart
  obtain ⟨hmemory, hspi, hoptions⟩ := run_memory_heard s₀ events
  have hfresh : memory s₀.host.sys.control.app = ConsoleMemory.init := by
    rw [happ]
    rfl
  rw [hfresh] at hmemory
  have hlights : s.host.sys.control.app.playerLights = told.lights :=
    congrArg ConsoleMemory.lights hmemory
  refine ⟨congrArg ConsoleMemory.rumble hmemory, fun hidCid report deviceInfo timeMs => ?_⟩
  rw [dispatchedReplies_eq, hlights, hspi, hoptions, hset]

/-- The console sets the player lights. -/
def setPlayerLights : List Event :=
  [.shutdown (.opened 0 1 ⟨0, true⟩),
    .outputReport 1 ⟨0x01, 0, Vector.replicate 8 7, some (0x30, [0x21])⟩ DeviceInfo.swbtPro 4]

omit [Platform] in
/-- The player lights that have been set are the ones that the console is told. -/
theorem set_lights_are_told :
    ∃ s₀, defaultSetup.start = some s₀ ∧
      let _ : Platform := Platform.lp64
      let s := Runs.run step s₀ setPlayerLights
      let memory := Runs.run ConsoleMemory.tell ConsoleMemory.init
        (setPlayerLights.filterMap Event.heard)
      memory = ⟨⟨Vector.replicate 8 7, 4, true⟩, PlayerLights.applyRaw 0x21⟩ ∧
        s.host.sys.control.app.readStatus.rumble = memory.rumble ∧
        ∀ hidCid report deviceInfo timeMs,
          dispatchedReplies s (.outputReport hidCid report deviceInfo timeMs) =
            repliesOf hidCid report (dispatch ⟨s.host.readState, defaultSetup.reportOptions,
              s₀.host.sys.control.app.spi, deviceInfo⟩ memory.lights report) := by
  let _ : Platform := Platform.lp64
  have hstarted : defaultSetup.start.any (fun _ => true) = true := by decide +kernel
  obtain ⟨s₀, hstart, -⟩ := (Option.any_eq_true _ _).1 hstarted
  exact ⟨s₀, hstart, rfl, replies_show_memory hstart setPlayerLights⟩

end Production

end Swbt
