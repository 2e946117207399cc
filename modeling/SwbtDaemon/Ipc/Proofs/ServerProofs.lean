import SwbtDaemon.Ipc.Proofs.AdapterProofs
import SwbtDaemon.Ipc.Server

/-!
# Proofs: serving a connection

`serve_of_live` says what a serve of a live connection does, by the outcome of the read loop alone.
-/

namespace Swbt.Ipc

variable {control : Control} {connection : Connection}

/-- The read loop fails only in these three ways. -/
theorem readLoop_failed {lineSize : Nat} {line inbox inbox' : List UInt8}
    {answers : List ReadAnswer} {result : Server.Result}
    (h : readLoop lineSize line inbox answers = (.failed result, inbox')) :
    result = .disconnected ∨ result = .socket ∨ result = .messageTooLong := by
  induction answers generalizing line inbox with
  | nil => simp [readLoop] at h
  | cons answer answers ih =>
    cases answer with
    | notReady => simp [readLoop] at h
    | selectError =>
      obtain ⟨rfl, -⟩ : result = .socket ∧ inbox = inbox' := by simpa [readLoop, eq_comm] using h
      exact Or.inr (Or.inl rfl)
    | recvError =>
      obtain ⟨rfl, -⟩ : result = .socket ∧ inbox = inbox' := by simpa [readLoop, eq_comm] using h
      exact Or.inr (Or.inl rfl)
    | ready =>
      cases inbox with
      | nil =>
        simp only [readLoop, Prod.mk.injEq, ReadOutcome.failed.injEq] at h
        exact Or.inl h.1.symm
      | cons byte inbox =>
        simp only [readLoop] at h
        split at h
        · simp only [Prod.mk.injEq, ReadOutcome.failed.injEq] at h
          exact Or.inr (Or.inr h.1.symm)
        · split at h
          · simp at h
          · exact ih h

/-- The connection after a complete line, with the heartbeat recorded if there is one. -/
def afterLine (connection : Connection) (heartbeat : Option UInt64) : Connection :=
  match heartbeat with
  | none => { connection with line := [] }
  | some nowMs => { connection with line := [] }.recordHeartbeat nowMs

/-- **What a serve does** to a live connection: it keeps an unfinished line, hands on a complete
one, closes after an over-long one, and reports every other failure as a disconnect. Both failures
revoke the lease of the client. -/
theorem serve_of_live [Platform] (control : Control) (hlive : connection.Live)
    (heartbeat : Option UInt64) (io : ServeIo) :
    serveConnectionOnceInternal control connection heartbeat io =
      match readLoop (jsonLineMax + 1) connection.line io.inbox io.answers with
      | (.pending line, inbox) => ⟨.ok, { connection with line := line }, control, inbox, none⟩
      | (.complete line, inbox) =>
        serveLine control (afterLine connection heartbeat) line inbox io.sent
      | (.failed .messageTooLong, inbox) =>
        ⟨.messageTooLong, Connection.closed, (handleDisconnect control connection.clientId).2,
          inbox, none⟩
      | (.failed _, inbox) =>
        ⟨.disconnected, connection, (handleDisconnect control connection.clientId).2, inbox,
          none⟩ := by
  obtain ⟨hopen, hsock⟩ := hlive
  unfold serveConnectionOnceInternal readLine
  rw [if_neg (by simp [hopen]), if_neg (by simp [hopen, hsock])]
  cases hread : readLoop (jsonLineMax + 1) connection.line io.inbox io.answers with
  | mk outcome inbox =>
    cases outcome with
    | pending line => rfl
    | complete line =>
      cases heartbeat with
      | none => rfl
      | some nowMs => rfl
    | failed result =>
      rcases readLoop_failed hread with rfl | rfl | rfl
      · rfl
      · rfl
      · rfl

theorem afterLine_clientId (heartbeat : Option UInt64) :
    (afterLine connection heartbeat).clientId = connection.clientId := by
  unfold afterLine Connection.recordHeartbeat
  split
  · rfl
  · split <;> rfl

theorem afterLine_line (heartbeat : Option UInt64) :
    (afterLine connection heartbeat).line = [] := by
  unfold afterLine Connection.recordHeartbeat
  split
  · rfl
  · split <;> rfl

theorem afterLine_live (hlive : connection.Live) (heartbeat : Option UInt64) :
    (afterLine connection heartbeat).Live := by
  unfold afterLine Connection.recordHeartbeat
  split
  · exact hlive
  · split <;> exact hlive

theorem serveLine_connection [Platform] (line inbox : List UInt8) (sent : Bool) :
    (serveLine control connection line inbox sent).connection = connection := by
  unfold serveLine
  split <;> rfl

theorem serveLine_handed [Platform] (line inbox : List UInt8) (sent : Bool) :
    (serveLine control connection line inbox sent).handed = some line := by
  unfold serveLine
  split <;> rfl

theorem serveLine_inbox [Platform] (line inbox : List UInt8) (sent : Bool) :
    (serveLine control connection line inbox sent).inbox = inbox := by
  unfold serveLine
  split <;> rfl

theorem serveLine_control [Platform] (line inbox : List UInt8) (sent : Bool) :
    (serveLine control connection line inbox sent).control =
      (handleLine control connection.clientId (CString.ofArray line) jsonResponseMax).2 := by
  unfold serveLine
  rcases handleLine control connection.clientId (CString.ofArray line) jsonResponseMax with
    ⟨_ | _ | _, control⟩ <;> rfl

/-- A line that was served keeps the connection, whatever became of the response. -/
theorem serveLine_result [Platform] (control : Control) (connection : Connection)
    (line inbox : List UInt8) (sent : Bool) :
    (serveLine control connection line inbox sent).result = .ok ∨
      (serveLine control connection line inbox sent).result = .socket := by
  unfold serveLine
  split
  · exact Or.inr rfl
  · exact Or.inl rfl
  · cases sent
    · exact Or.inr rfl
    · exact Or.inl rfl

theorem serveLine_byClient [Platform] (line inbox : List UInt8) (sent : Bool) :
    ByClient control connection.clientId
      (serveLine control connection line inbox sent).control := by
  have h := handleLine_byClient control connection.clientId (CString.ofArray line) jsonResponseMax
  unfold serveLine
  split <;> rename_i heq <;> rw [heq] at h <;> exact h

/-- The serve makes the caller drop the connection; the lease of its client is revoked. -/
def Served.Drops (served : Served) (control : Control) (connection : Connection) : Prop :=
  (served.result = .disconnected ∨ served.result = .messageTooLong) ∧
    served.control = (handleDisconnect control connection.clientId).2 ∧ served.handed = none

/-- The serve keeps the connection and its client. -/
def Served.Keeps (served : Served) (control : Control) (connection : Connection) : Prop :=
  served.result ≠ .disconnected ∧ served.result ≠ .messageTooLong ∧ served.connection.Live ∧
    served.connection.clientId = connection.clientId ∧
    ByClient control connection.clientId served.control

theorem serve_cases [Platform] (hlive : connection.Live) (heartbeat : Option UInt64)
    (io : ServeIo) :
    let served := serveConnectionOnceInternal control connection heartbeat io
    served.Drops control connection ∨ served.Keeps control connection := by
  rw [serve_of_live control hlive]
  split
  · exact Or.inr ⟨by simp, by simp, hlive, rfl, Or.inl rfl⟩
  · rename_i line inbox _
    have hresult := serveLine_result control (afterLine connection heartbeat) line inbox io.sent
    refine Or.inr ⟨?_, ?_, ?_, ?_, ?_⟩
    · rcases hresult with h | h <;> simp [h]
    · rcases hresult with h | h <;> simp [h]
    · rw [serveLine_connection]
      exact afterLine_live hlive heartbeat
    · rw [serveLine_connection, afterLine_clientId]
    · rw [← afterLine_clientId heartbeat]
      exact serveLine_byClient line inbox io.sent
  · exact Or.inl ⟨Or.inr rfl, rfl, rfl⟩
  · exact Or.inl ⟨Or.inl rfl, rfl, rfl⟩

/-! ## The heartbeat -/

theorem checkHeartbeat_of_due {nowMs : UInt64} (h : connection.HeartbeatDue nowMs) :
    checkHeartbeat control connection nowMs =
      (.heartbeatTimeout, (handleHeartbeatTimeout control connection.clientId).2) := by
  obtain ⟨hen, hle, hdue⟩ := h
  unfold checkHeartbeat
  rw [if_neg (by simp [hen]), if_neg (UInt64.not_lt.2 hle), if_neg (UInt64.not_lt.2 hdue)]

theorem checkHeartbeat_of_not_due {nowMs : UInt64} (h : ¬ connection.HeartbeatDue nowMs) :
    checkHeartbeat control connection nowMs = (.ok, control) := by
  unfold checkHeartbeat
  split_ifs with hen hlt hdue
  · rfl
  · rfl
  · rfl
  · exact absurd ⟨by simpa using hen, UInt64.not_lt.1 hlt, UInt64.not_lt.1 hdue⟩ h

end Swbt.Ipc
