import SwbtDaemon.Daemon.IpcRunner
import SwbtDaemon.Ipc.Proofs.ServerProofs
import SwbtDaemon.Lib.Runs

/-!
# Proofs: the owner is the live connection

`Inv` ties the lease to the connection of the runner. Every step keeps it: a step that drops the
connection revokes the lease of its client first, and no other client can have it.
-/

namespace Swbt.IpcRunner

open Ipc

variable {sys : System}

/-- The invariant of the runner and its control. -/
structure Inv (sys : System) : Prop where
  initialized : sys.runner.initialized = true
  /-- While the runner runs, the server works on the control. -/
  bound : sys.runner.running = true → sys.runner.server.controlBound = true
  /-- A connection is live, and there is one only while the runner runs. -/
  live : sys.runner.hasConnection = true →
    sys.runner.running = true ∧ sys.runner.connection.Live
  /-- An owner is the client of the connection. -/
  owner : sys.control.app.lease.hasOwner = true →
    sys.runner.hasConnection = true ∧
      sys.control.app.lease.ownerClientId = sys.runner.connection.clientId
  consistent : sys.control.app.Consistent

theorem Inv.ownedAtMostBy (h : Inv sys) :
    sys.control.app.OwnedAtMostBy sys.runner.connection.clientId :=
  fun ho => (h.owner ho).2

theorem Inv.no_owner (h : Inv sys) (hc : sys.runner.hasConnection = false) :
    sys.control.app.lease.hasOwner = false := by
  by_contra ho
  have hconn := (h.owner (by simpa using ho)).1
  simp [hc] at hconn

/-- Without a connection there is no owner and the controller is neutral. -/
theorem Inv.neutral (h : Inv sys) (hc : sys.runner.hasConnection = false) :
    sys.control.app.lease.hasOwner = false ∧ sys.control.app.state = State.neutral :=
  ⟨h.no_owner hc, h.consistent.neutral (h.no_owner hc)⟩

theorem init_inv (spi : Spi.Flash) (readRuntimeStatus : Option (Option RuntimeStatus)) :
    Inv ⟨init, Control.init (Domain.initWith spi) readRuntimeStatus⟩ :=
  ⟨rfl, by simp [init], by simp [init], (nomatch ·), none, Domain.initWith_shows spi⟩

/-! ## The control after a revoke -/

theorem handleDisconnect_app (control : Control) (clientId : UInt32) :
    (handleDisconnect control clientId).2.app = (control.app.revoke .disconnect clientId).2 := rfl

theorem revoke_consistent {app : Domain} (h : app.Consistent) (reason : Domain.RevokeReason)
    (clientId : UInt32) : (app.revoke reason clientId).2.Consistent :=
  h.step (.revoke reason clientId)

/-! ## One step -/

/-- The system after the connection is closed, with `app` as the domain afterwards. -/
theorem Inv.drop (h : Inv sys) {control : Control}
    (ho : control.app.lease.hasOwner = false) (hc : control.app.Consistent) :
    Inv ⟨{ sys.runner with connection := Connection.closed, hasConnection := false }, control⟩ where
  initialized := h.initialized
  bound := h.bound
  live := by simp
  owner := by simp [ho]
  consistent := hc

/-- A start changes nothing of a running runner, and either leaves a stopped one stopped or makes
it run without a connection. -/
theorem start_cases (runner : IpcRunner) (config : IpcRunnerConfig) (listening : Option UInt16) :
    let after := (runner.start config listening).2
    after = runner ∨
      (runner.running = false ∧ after.initialized = runner.initialized ∧
        after.connection = runner.connection ∧
        ((after.running = false ∧ after.hasConnection = runner.hasConnection) ∨
          (after.hasConnection = false ∧ after.server.controlBound = true))) := by
  unfold start
  split
  · exact Or.inl rfl
  split
  · exact Or.inl rfl
  rename_i hrun
  have hrun : runner.running = false := by simpa using hrun
  cases hl : runner.server.listening with
  | true =>
    simp [Server.bindControl, hl]
  | false =>
    refine Or.inr ⟨hrun, ?_⟩
    simp only [Server.bindControl, hl, Bool.false_eq_true, if_false, ne_eq, not_true_eq_false]
    split
    · exact ⟨rfl, rfl, Or.inl ⟨hrun, rfl⟩⟩
    · rename_i hlisten
      refine ⟨rfl, rfl, Or.inr ⟨rfl, ?_⟩⟩
      unfold Server.listen at hlisten ⊢
      split_ifs at hlisten ⊢ <;> simp_all
      split <;> simp_all

theorem start_inv (h : Inv sys) (config : IpcRunnerConfig) (listening : Option UInt16) :
    Inv { sys with runner := (sys.runner.start config listening).2 } := by
  rcases start_cases sys.runner config listening with heq | ⟨hrun, hinit, hconn, hafter⟩
  · rw [heq]
    exact h
  · have hnone : sys.runner.hasConnection = false := by
      by_contra hc
      have hr := (h.live (by simpa using hc)).1
      simp [hrun] at hr
    have ho := h.no_owner hnone
    rcases hafter with ⟨hrun', hconn'⟩ | ⟨hconn', hbound'⟩
    · exact ⟨by rw [hinit]; exact h.initialized, by simp [hrun'], by simp [hconn', hnone],
        by simp [ho], h.consistent⟩
    · exact ⟨by rw [hinit]; exact h.initialized, fun _ => hbound', by simp [hconn'],
        by simp [ho], h.consistent⟩

theorem acceptAt_inv (h : Inv sys) (nowMs : UInt64) (accepted : Bool) :
    Inv { sys with runner := (sys.runner.acceptAt nowMs accepted).2 } := by
  unfold acceptAt
  split
  · exact h
  split
  · exact h
  rename_i hrun hconn
  have hrun : sys.runner.running = true := by simpa using hrun
  have ho := h.no_owner (by simpa using hconn)
  cases hl : sys.runner.server.listening with
  | false =>
    simp only [Server.accept, hl]
    exact h
  | true =>
    cases accepted with
    | false =>
      simp only [Server.accept, hl]
      exact ⟨h.initialized, h.bound, by simp [hconn], by simp [ho], h.consistent⟩
    | true =>
      simp only [Server.accept, hl]
      exact ⟨h.initialized, fun _ => h.bound hrun, fun _ => ⟨hrun, rfl, rfl⟩, by simp [ho],
        h.consistent⟩

theorem checkHeartbeat_inv (h : Inv sys) (nowMs : UInt64) :
    let polled := sys.runner.checkHeartbeat sys.control nowMs
    Inv ⟨polled.runner, polled.control⟩ := by
  unfold checkHeartbeat
  by_cases hdue : sys.runner.connection.HeartbeatDue nowMs
  · rw [checkHeartbeat_of_due hdue]
    exact h.drop (h.ownedAtMostBy.revoke .heartbeatTimeout) (revoke_consistent h.consistent _ _)
  · rw [checkHeartbeat_of_not_due hdue]
    exact h

/-- The runner after a serve: without the connection, or with the same client on it. -/
theorem afterServe_inv (h : Inv sys) (hconn : sys.runner.hasConnection = true) {served : Served}
    (hserved : served.Drops sys.control sys.runner.connection ∨
      served.Keeps sys.control sys.runner.connection) :
    let polled := sys.runner.afterServe served
    Inv ⟨polled.runner, polled.control⟩ := by
  unfold afterServe
  rcases hserved with ⟨hresult, hcontrol, -⟩ | ⟨hd, hm, hlive, hid, hby⟩
  · rw [if_pos hresult, hcontrol]
    exact h.drop (h.ownedAtMostBy.revoke .disconnect) (revoke_consistent h.consistent _ _)
  · rw [if_neg (by simp [hd, hm])]
    have howned := hby.ownedAtMostBy h.ownedAtMostBy
    exact ⟨h.initialized, h.bound, fun _ => ⟨(h.live hconn).1, hlive⟩,
      fun ho => ⟨hconn, by rw [howned ho, hid]⟩, hby.consistent h.consistent⟩

section Steps

variable [Platform]

theorem serveConnection_inv (h : Inv sys) (heartbeat : Option UInt64) (io : ServeIo) :
    let polled := sys.runner.serveConnection sys.control heartbeat io
    Inv ⟨polled.runner, polled.control⟩ := by
  unfold serveConnection
  split
  · exact h
  split
  · exact h
  · rename_i hconn
    have hconn : sys.runner.hasConnection = true := by simpa using hconn
    exact afterServe_inv h hconn (serve_cases (h.live hconn).2 heartbeat io)

theorem pollOnceAt_inv (h : Inv sys) (nowMs : UInt64) (io : PollIo) :
    let polled := sys.runner.pollOnceAt sys.control nowMs io
    Inv ⟨polled.runner, polled.control⟩ := by
  unfold pollOnceAt
  split
  · exact h
  split
  · split
    · exact h
    · exact h
    · exact acceptAt_inv h nowMs io.accepted
  · split
    · exact h
    · exact checkHeartbeat_inv h nowMs
    · exact serveConnection_inv h (some nowMs) io.serve

end Steps

/-- A stop leaves no connection. -/
theorem stop_hasConnection (h : Inv sys) :
    (sys.runner.stop sys.control).1.hasConnection = false := by
  unfold stop
  rw [if_neg (by simp [h.initialized])]
  split
  · rename_i hstopped
    simpa using (by simpa using hstopped : _ ∧ sys.runner.hasConnection = false).2
  · split
    · rfl
    · rename_i hconn
      simpa using hconn

theorem stop_inv (h : Inv sys) :
    Inv ⟨(sys.runner.stop sys.control).1, (sys.runner.stop sys.control).2⟩ := by
  unfold stop
  rw [if_neg (by simp [h.initialized])]
  split
  · exact ⟨h.initialized, h.bound, h.live, h.owner, h.consistent⟩
  · rename_i hactive
    split
    · rename_i hconn
      have hrun := (h.live hconn).1
      have ho := h.ownedAtMostBy.revoke .disconnect
      have hc := revoke_consistent h.consistent .disconnect sys.runner.connection.clientId
      simp only [h.bound hrun, if_true]
      exact ⟨h.initialized, by simp, by simp, fun ho' => absurd ho' (by
        rw [handleDisconnect_app, ho]; simp), hc⟩
    · rename_i hconn
      have hrun : sys.runner.running = true := by simpa [hconn] using hactive
      simp only [h.bound hrun, if_true]
      exact ⟨h.initialized, by simp, by simp [hconn], (nomatch ·),
        revoke_consistent h.consistent .shutdown 0⟩

/-- The shutdown revoke leaves no owner, and does not touch the runner. -/
theorem shutdown_inv (h : Inv sys) : Inv { sys with control := sys.control.shutdown.2 } :=
  ⟨h.initialized, h.bound, h.live, (nomatch ·), revoke_consistent h.consistent _ _⟩

/-- **Step lemma**: every step of the runner keeps the invariant. -/
theorem step_inv [Platform] (h : Inv sys) (s : Step) : Inv (sys.step s) := by
  cases s with
  | start config listening => exact start_inv h config listening
  | accept accepted => exact acceptAt_inv h 0 accepted
  | serve io => exact serveConnection_inv h none io
  | pollOnceAt nowMs io => exact pollOnceAt_inv h nowMs io
  | stop => exact stop_inv h
  | shutdown => exact shutdown_inv h

/-- **The owner is the live connection.** In every state that the runner reaches over a fresh
domain, with any answers of the sockets, an owner of the lease is the client of the connection of
the running runner. So a step that drops the connection, and every stop, leaves no owner and a
neutral controller. -/
theorem owner_is_live_connection [Platform] :
    ∃ app, Domain.init = .ok app ∧
      ∀ (readRuntimeStatus : Option (Option RuntimeStatus)) (steps : List Step),
        let sys := Runs.run System.step ⟨init, Control.init app readRuntimeStatus⟩ steps
        (sys.control.app.lease.hasOwner = true →
          sys.runner.running = true ∧ sys.runner.hasConnection = true ∧
            sys.runner.connection.opened = true ∧
            sys.control.app.lease.ownerClientId = sys.runner.connection.clientId) ∧
        (∀ next : Step, sys.runner.hasConnection = true →
          (sys.step next).runner.hasConnection = false →
            (sys.step next).control.app.lease.hasOwner = false ∧
              (sys.step next).control.app.state = State.neutral) ∧
        ((sys.step .stop).runner.hasConnection = false ∧
          (sys.step .stop).control.app.lease.hasOwner = false ∧
            (sys.step .stop).control.app.state = State.neutral) := by
  obtain ⟨spi, hinit⟩ := Domain.init_ok
  refine ⟨_, hinit, fun readRuntimeStatus steps => ?_⟩
  have hinv := Runs.run_invariant (P := Inv) (fun _ s h => step_inv h s)
    (init_inv spi readRuntimeStatus) steps
  refine ⟨fun ho => ?_, fun next _ hdrop => (step_inv hinv next).neutral hdrop, ?_⟩
  · obtain ⟨hconn, hid⟩ := hinv.owner ho
    obtain ⟨hrun, hlive⟩ := hinv.live hconn
    exact ⟨hrun, hconn, hlive.1, hid⟩
  · have hstop := stop_hasConnection hinv
    exact ⟨hstop, (step_inv hinv .stop).neutral hstop⟩

end Swbt.IpcRunner
