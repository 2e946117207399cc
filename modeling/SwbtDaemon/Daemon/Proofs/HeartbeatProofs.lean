import SwbtDaemon.Daemon.Heartbeat
import SwbtDaemon.Daemon.Proofs.IpcRunnerProofs
import SwbtDaemon.Ipc.Proofs.FramingProofs

/-!
# Proofs: when an overdue heartbeat is noticed
-/

namespace Swbt.IpcRunner

open Ipc

/-! ## Reads that complete no line -/

/-- A read that completes no line fails exactly when its input ends the connection. -/
theorem readLoop_fails_iff {line inbox : List UInt8} (hlen : line.length ≤ jsonLineMax)
    {answers : List ReadAnswer} {outcome : ReadOutcome} {rest : List UInt8}
    (sent : Bool) (hread : readLoop (jsonLineMax + 1) line inbox answers = (outcome, rest))
    (hnone : ∀ l, outcome ≠ .complete l) :
    (∃ result, outcome = .failed result) ↔ InputEnds line ⟨inbox, answers, sent⟩ := by
  induction answers generalizing line inbox with
  | nil =>
    simp only [readLoop, Prod.mk.injEq] at hread
    obtain ⟨rfl, rfl⟩ := hread
    simp [InputEnds, readyCount, hlen]
  | cons answer answers ih =>
    cases answer with
    | notReady =>
      simp only [readLoop, Prod.mk.injEq] at hread
      obtain ⟨rfl, rfl⟩ := hread
      simp [InputEnds, readyCount, hlen]
    | selectError =>
      simp only [readLoop, Prod.mk.injEq] at hread
      obtain ⟨rfl, rfl⟩ := hread
      simp [InputEnds, readyCount]
    | recvError =>
      simp only [readLoop, Prod.mk.injEq] at hread
      obtain ⟨rfl, rfl⟩ := hread
      simp [InputEnds, readyCount]
    | ready =>
      have hcount : readyCount (.ready :: answers) = readyCount answers + 1 := by
        simp [readyCount]
      cases inbox with
      | nil =>
        simp only [readLoop, Prod.mk.injEq] at hread
        obtain ⟨rfl, rfl⟩ := hread
        simp [InputEnds, hcount]
      | cons byte inbox =>
        simp only [readLoop] at hread
        split at hread
        · rename_i hfull
          simp only [Prod.mk.injEq] at hread
          obtain ⟨rfl, rfl⟩ := hread
          refine ⟨fun _ => Or.inl ?_, fun _ => ⟨_, rfl⟩⟩
          simp only [hcount, List.length_cons]
          omega
        · rename_i hroom
          split at hread
          · simp only [Prod.mk.injEq] at hread
            exact absurd hread.1.symm (hnone _)
          · have hlen' : (line ++ [byte]).length ≤ jsonLineMax := by
              simp only [List.length_append, List.length_singleton]
              omega
            rw [ih hlen' hread]
            simp only [InputEnds, hcount, List.length_append, List.length_nil,
              List.length_cons, List.getElem?_cons_succ, Nat.add_min_add_right]
            refine or_congr ?_ (or_congr ?_ Iff.rfl)
            · omega
            · omega

/-! ## The connection follows the activity -/

/-- The connection knows the configured timeout and the clock reading of its last activity. -/
structure Follows (config : IpcRunnerConfig) (activity : Nat) (connection : Connection) : Prop where
  enabled : connection.heartbeatEnabled = decide (0 < config.heartbeatTimeoutMs.toNat)
  timeout : connection.heartbeatTimeoutMs.toNat = config.heartbeatTimeoutMs.toNat
  last : 0 < config.heartbeatTimeoutMs.toNat → connection.lastHeartbeatMs = clockReading activity
  line : newline ∉ connection.line ∧ connection.line.length ≤ jsonLineMax

/-- The invariant of the watched system. -/
structure Tracks (w : Watched) : Prop where
  inv : Inv w.sys
  follows : w.sys.runner.hasConnection = true →
    Follows w.sys.runner.config w.activity w.sys.runner.connection

theorem fresh_follows (config : IpcRunnerConfig) (clientId : UInt32) (timeMs : Nat) :
    Follows config timeMs ((Connection.fresh clientId).configureHeartbeat (clockReading timeMs)
      config.heartbeatTimeoutMs.toUInt64) where
  enabled := by
    simp [Connection.configureHeartbeat, UInt64.lt_iff_toNat_lt]
  timeout := by simp [Connection.configureHeartbeat]
  last := fun _ => rfl
  line := by simp [Connection.configureHeartbeat, Connection.fresh, Connection.closed]

/-- A poll without a connection only accepts one. -/
theorem acceptAt_cases (runner : IpcRunner) (nowMs : UInt64) (accepted : Bool)
    (hconn : runner.hasConnection = false) :
    let after := (runner.acceptAt nowMs accepted).2
    after.hasConnection = false ∨
      (after.config = runner.config ∧ ∃ clientId, after.connection =
        (Connection.fresh clientId).configureHeartbeat nowMs
          runner.config.heartbeatTimeoutMs.toUInt64) := by
  unfold acceptAt
  split
  · exact Or.inl hconn
  split
  · exact Or.inl hconn
  cases hl : runner.server.listening with
  | false =>
    simp only [Server.accept, hl]
    exact Or.inl hconn
  | true =>
    cases accepted with
    | false =>
      simp only [Server.accept, hl]
      exact Or.inl hconn
    | true =>
      simp only [Server.accept, hl]
      exact Or.inr ⟨rfl, _, rfl⟩

/-- The connection after a complete line follows the time at which the line was served. -/
theorem Follows.afterLine {config : IpcRunnerConfig} {activity : Nat} {connection : Connection}
    (h : Follows config activity connection) (timeMs : Nat) :
    Follows config timeMs (afterLine connection (some (clockReading timeMs))) := by
  have hen := h.enabled
  show Follows config timeMs ({ connection with line := [] }.recordHeartbeat (clockReading timeMs))
  unfold Connection.recordHeartbeat
  split
  · exact ⟨hen, h.timeout, fun _ => rfl, by simp⟩
  · rename_i hoff
    refine ⟨hen, h.timeout, fun hpos => ?_, by simp⟩
    exact absurd (by simpa [hpos] using hen) hoff

theorem activityAfter_of_connection {w : Watched} (hconn : w.sys.runner.hasConnection = true)
    (timeMs : Nat) (polled : Polled) :
    w.activityAfter timeMs polled = if polled.handed.isSome then timeMs else w.activity := by
  simp [Watched.activityAfter, hconn]

theorem activityAfter_of_new {w : Watched} (hconn : w.sys.runner.hasConnection = false)
    (timeMs : Nat) {polled : Polled} (hnew : polled.runner.hasConnection = true) :
    w.activityAfter timeMs polled = timeMs := by
  simp [Watched.activityAfter, hconn, hnew]

/-- The clock readings decide whether the heartbeat counts as due. -/
theorem heartbeatDue_iff {w : Watched} (h : Tracks w) (hconn : w.sys.runner.hasConnection = true)
    (hpos : 0 < w.timeoutMs) (timeMs : Nat) :
    w.sys.runner.connection.HeartbeatDue (clockReading timeMs) ↔
      w.activity % 2 ^ 32 ≤ timeMs % 2 ^ 32 ∧
        w.timeoutMs ≤ timeMs % 2 ^ 32 - w.activity % 2 ^ 32 := by
  have hf := h.follows hconn
  have hen : w.sys.runner.connection.heartbeatEnabled = true := by
    rw [hf.enabled]
    exact decide_eq_true hpos
  have hreading : ∀ t, (clockReading t).toNat = t % 2 ^ 32 := by
    intro t
    have : t % 2 ^ 32 < 2 ^ 32 := Nat.mod_lt _ (by decide)
    simp only [clockReading, Nat.toUInt64_eq, UInt64.toNat_ofNat']
    omega
  have hto := hf.timeout
  unfold Connection.HeartbeatDue
  rw [hf.last hpos]
  simp only [hen, true_and, UInt64.le_iff_toNat_le, hreading]
  refine and_congr_right fun hle => ?_
  rw [UInt64.toNat_sub_of_le _ _ (by simpa [UInt64.le_iff_toNat_le, hreading] using hle),
    hreading, hreading, hto]
  rfl

section Polls

variable [Platform] {w : Watched}

/-- What a poll does when there is a connection, by what the probe of it answers. -/
theorem pollOnceAt_of_connection {sys : System} (h : Inv sys)
    (hconn : sys.runner.hasConnection = true) (nowMs : UInt64) (io : PollIo) :
    sys.runner.pollOnceAt sys.control nowMs io =
      match io.dataPending with
      | .error => ⟨.socket, sys.runner, sys.control, none⟩
      | .notReady => sys.runner.checkHeartbeat sys.control nowMs
      | .ready => sys.runner.afterServe
          (serveConnectionOnceInternal sys.control sys.runner.connection (some nowMs) io.serve) := by
  obtain ⟨hrun, hopen, hsock⟩ := h.live hconn
  unfold pollOnceAt Connection.hasPendingData serveConnection
  simp only [hrun, hconn, hopen, hsock]
  cases io.dataPending <;> rfl

/-- The connection that a poll leaves follows the activity that the poll leaves. -/
def KeptFollows (w : Watched) (timeMs : Nat) (polled : Polled) : Prop :=
  polled.runner.hasConnection = true →
    Follows polled.runner.config (w.activityAfter timeMs polled) polled.runner.connection

theorem serve_follows (h : Tracks w) (hconn : w.sys.runner.hasConnection = true) (timeMs : Nat)
    (io : ServeIo) :
    KeptFollows w timeMs (w.sys.runner.afterServe (serveConnectionOnceInternal w.sys.control
      w.sys.runner.connection (some (clockReading timeMs)) io)) := by
  have hf := h.follows hconn
  have hlive := (h.inv.live hconn).2
  have hread := readLoop_explains jsonLineMax hf.line.1 hf.line.2 io.inbox io.answers
  rw [serve_of_live w.sys.control hlive]
  unfold afterServe
  split
  · rename_i line inbox hloop
    rw [hloop] at hread
    obtain ⟨-, hline⟩ := hread
    intro _
    rw [activityAfter_of_connection hconn]
    exact ⟨hf.enabled, hf.timeout, hf.last, hline⟩
  · rename_i line inbox hloop
    have hresult := serveLine_result w.sys.control
      (afterLine w.sys.runner.connection (some (clockReading timeMs))) line inbox io.sent
    rw [if_neg (by rcases hresult with h | h <;> simp [h])]
    intro _
    simp only [activityAfter_of_connection hconn, serveLine_handed, serveLine_connection,
      Option.isSome_some, if_true]
    exact hf.afterLine timeMs
  · exact fun hkept => nomatch hkept
  · exact fun hkept => nomatch hkept

theorem poll_follows (h : Tracks w) (timeMs : Nat) (io : PollIo) :
    KeptFollows w timeMs (w.poll timeMs io) := by
  unfold Watched.poll
  cases hconn : w.sys.runner.hasConnection with
  | true =>
    have hf := h.follows hconn
    have hsame : ∀ result, KeptFollows w timeMs ⟨result, w.sys.runner, w.sys.control, none⟩ := by
      intro result _
      rw [activityAfter_of_connection hconn]
      exact hf
    rw [pollOnceAt_of_connection h.inv hconn]
    cases io.dataPending with
    | error => exact hsame _
    | notReady =>
      simp only [checkHeartbeat]
      by_cases hdue : w.sys.runner.connection.HeartbeatDue (clockReading timeMs)
      · rw [checkHeartbeat_of_due hdue]
        exact fun hkept => nomatch hkept
      · rw [checkHeartbeat_of_not_due hdue]
        exact hsame _
    | ready => exact serve_follows h hconn timeMs io.serve
  | false =>
    have hsame : ∀ result, KeptFollows w timeMs ⟨result, w.sys.runner, w.sys.control, none⟩ :=
      fun result hkept => nomatch hconn.symm.trans hkept
    unfold pollOnceAt
    split
    · exact hsame _
    · rw [if_pos (by simp [hconn])]
      split
      · exact hsame _
      · exact hsame _
      · intro hkept
        rcases acceptAt_cases w.sys.runner (clockReading timeMs) io.accepted hconn with
          hnone | ⟨hconfig, clientId, hfresh⟩
        · exact nomatch hnone.symm.trans hkept
        · rw [activityAfter_of_new hconn timeMs hkept, hconfig, hfresh]
          exact fresh_follows w.sys.runner.config clientId timeMs

theorem start_tracks (h : Tracks w) (config : IpcRunnerConfig) (listening : Option UInt16) :
    Tracks (w.step (.start config listening)) := by
  refine ⟨start_inv h.inv config listening, fun hkept => ?_⟩
  simp only [Watched.step, System.step] at hkept ⊢
  rcases start_cases w.sys.runner config listening with heq | ⟨hrun, -, -, hafter⟩
  · rw [heq] at hkept ⊢
    exact h.follows hkept
  · -- a start that changes the runner finds or leaves it without a connection
    exfalso
    rcases hafter with ⟨-, hsame⟩ | ⟨hnone, -⟩
    · have hr := (h.inv.live (hsame ▸ hkept)).1
      simp [hrun] at hr
    · simp [hnone] at hkept

/-- **Step lemma**: every event keeps the connection in step with its activity. -/
theorem step_tracks (h : Tracks w) (s : WatchedStep) : Tracks (w.step s) := by
  cases s with
  | poll timeMs io => exact ⟨pollOnceAt_inv h.inv _ io, poll_follows h timeMs io⟩
  | start config listening => exact start_tracks h config listening
  | stop =>
    refine ⟨stop_inv h.inv, fun hkept => ?_⟩
    have hnone := stop_hasConnection h.inv
    exact nomatch hnone.symm.trans hkept
  | shutdown => exact ⟨shutdown_inv h.inv, h.follows⟩

theorem serve_drops_iff (h : Tracks w) (hconn : w.sys.runner.hasConnection = true) (timeMs : Nat)
    (io : ServeIo) :
    let polled := w.sys.runner.afterServe (serveConnectionOnceInternal w.sys.control
      w.sys.runner.connection (some (clockReading timeMs)) io)
    polled.handed = none →
      (polled.runner.hasConnection = false ↔ InputEnds w.sys.runner.connection.line io) := by
  have hlive := (h.inv.live hconn).2
  have hlen := (h.follows hconn).line.2
  cases hloop : readLoop (jsonLineMax + 1) w.sys.runner.connection.line io.inbox io.answers with
  | mk outcome rest =>
    have hserve := serve_of_live w.sys.control hlive (some (clockReading timeMs)) io
    simp only [hloop] at hserve
    rw [hserve]
    cases outcome with
    | pending line =>
      intro polled _
      have hiff := readLoop_fails_iff hlen io.sent hloop (by simp)
      simp only [reduceCtorEq, exists_false, false_iff] at hiff
      simp [polled, afterServe, hconn, hiff]
    | complete line =>
      intro polled hnone
      have hresult := serveLine_result w.sys.control
        (afterLine w.sys.runner.connection (some (clockReading timeMs))) line rest io.sent
      have hhanded : polled.handed = some line := by
        simp only [polled, afterServe]
        rw [if_neg (by rcases hresult with h | h <;> simp [h])]
        exact serveLine_handed line rest io.sent
      simp [hhanded] at hnone
    | failed result =>
      intro polled _
      have hends := (readLoop_fails_iff hlen io.sent hloop (by simp)).1 ⟨result, rfl⟩
      have hdropped : polled.runner.hasConnection = false := by cases result <;> rfl
      exact ⟨fun _ => hends, fun _ => hdropped⟩

/-- At an overdue poll that completes no line, the connection is dropped exactly when the poll
notices. -/
theorem poll_drops_iff (h : Tracks w) {timeMs : Nat} (hover : w.Overdue timeMs) (io : PollIo)
    (hnone : (w.poll timeMs io).handed = none) :
    (w.poll timeMs io).runner.hasConnection = false ↔ w.Notices timeMs io := by
  obtain ⟨hconn, hpos, -⟩ := hover
  unfold Watched.Notices
  rw [← heartbeatDue_iff h hconn hpos]
  unfold Watched.poll at hnone ⊢
  rw [pollOnceAt_of_connection h.inv hconn] at hnone ⊢
  cases hprobe : io.dataPending with
  | error => simp [hconn]
  | notReady =>
    simp only [checkHeartbeat]
    by_cases hdue : w.sys.runner.connection.HeartbeatDue (clockReading timeMs)
    · rw [checkHeartbeat_of_due hdue]
      simp [hdue]
    · rw [checkHeartbeat_of_not_due hdue]
      simp [hdue, hconn]
  | ready =>
    rw [hprobe] at hnone
    simpa using serve_drops_iff h hconn timeMs io.serve hnone

end Polls

theorem init_tracks (spi : Spi.Flash) (readRuntimeStatus : Option (Option RuntimeStatus)) :
    Tracks ⟨⟨init, Control.init (Domain.initWith spi) readRuntimeStatus⟩, 0⟩ :=
  ⟨init_inv spi readRuntimeStatus, fun hconn => nomatch hconn⟩

/-- **When an overdue heartbeat is noticed.** In every run of the runner under the pump, with any
arrival of bytes and any answers of the sockets, a poll at which the heartbeat is overdue and which
completes no line drops the connection, revokes its lease and makes the controller neutral exactly
when nothing is pending on the connection and the 32-bit readings show the elapsed time, or the
pending input ends the connection by itself. -/
theorem overdue_poll_failSafe_iff [Platform] :
    ∃ app, Domain.init = .ok app ∧
      ∀ (readRuntimeStatus : Option (Option RuntimeStatus)) (steps : List WatchedStep)
        (timeMs : Nat) (io : PollIo),
        let w := Runs.run Watched.step ⟨⟨init, Control.init app readRuntimeStatus⟩, 0⟩ steps
        w.Overdue timeMs → (w.poll timeMs io).handed = none →
          ((w.poll timeMs io).FailSafe ↔ w.Notices timeMs io) := by
  obtain ⟨spi, hinit⟩ := Domain.init_ok
  refine ⟨_, hinit, ?_⟩
  intro readRuntimeStatus steps timeMs io w hover hnone
  have htracks : Tracks w := Runs.run_invariant (P := Tracks) (fun _ s h => step_tracks h s)
    (init_tracks spi readRuntimeStatus) steps
  rw [← poll_drops_iff htracks hover io hnone]
  constructor
  · exact fun hsafe => hsafe.1
  · intro hdrop
    exact ⟨hdrop, (pollOnceAt_inv htracks.inv (clockReading timeMs) io).neutral hdrop⟩

/-- A client takes the lease and then sends one byte of an unfinished line just when its heartbeat
is due: the poll reads the byte and does not look at the heartbeat. -/
theorem trickle_keeps_connection :
    ∃ app, Domain.init = .ok app ∧
      let _ : Platform := Platform.lp64
      let quiet : ServeIo := ⟨[], [], true⟩
      let acquire := CString.bytes "\x7b\"v\":1,\"type\":\"acquire\"\x7d\n"
      let w := Runs.run Watched.step ⟨⟨init, Control.init app none⟩, 0⟩
        [.start ⟨CString.bytes "127.0.0.1", 0, 1, 1000⟩ (some 5000),
          .poll 0 ⟨.ready, true, .notReady, quiet⟩,
          .poll 10 ⟨.notReady, false, .ready,
            ⟨acquire, List.replicate acquire.length .ready, true⟩⟩]
      let io : PollIo := ⟨.notReady, false, .ready, ⟨[0x7B], [.ready, .notReady], true⟩⟩
      w.Overdue 1010 ∧ (w.poll 1010 io).handed = none ∧
        (w.poll 1010 io).control.app.lease.hasOwner = true ∧ ¬ (w.poll 1010 io).FailSafe := by
  refine ⟨_, rfl, ⟨rfl, by decide, by decide⟩, rfl, rfl, fun hsafe => ?_⟩
  exact nomatch hsafe.1

end Swbt.IpcRunner
