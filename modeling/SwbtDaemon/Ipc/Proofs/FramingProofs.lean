import Mathlib.Data.List.TakeWhile
import SwbtDaemon.Ipc.Framing
import SwbtDaemon.Ipc.Proofs.ServerProofs

/-!
# Proofs: the lines of a stream

However the reads are cut into polls, the lines that reach the adapter are those of the stream, up
to the first one that does not fit into the line buffer.
-/

namespace Swbt.Ipc

open CString Lines

/-! ## The read loop -/

/-- What the outcome of a read says about the bytes `line ++ inbox` it started with, when a line
has at most `n` bytes. `clean` says that no call on the socket fails. -/
def ReadOutcome.Explains (n : Nat) (clean : Prop) (text : List UInt8) :
    ReadOutcome × List UInt8 → Prop
  | (.pending line, inbox) => text = line ++ inbox ∧ newline ∉ line ∧ line.length ≤ n
  | (.complete line, inbox) => text = line ++ inbox ∧ IsLine newline line ∧ line.length ≤ n
  | (.failed .messageTooLong, inbox) =>
    ∃ start byte, text = start ++ byte :: inbox ∧ newline ∉ start ∧ start.length = n
  | (.failed _, inbox) =>
    (∃ start, text = start ++ inbox ∧ newline ∉ start ∧ start.length ≤ n) ∧
      (clean → inbox = [])

theorem ReadOutcome.Explains.mono {n : Nat} {clean clean' : Prop} (himp : clean' → clean)
    {text : List UInt8} {r : ReadOutcome × List UInt8} (h : Explains n clean text r) :
    Explains n clean' text r := by
  unfold Explains at h ⊢
  split at h
  · exact h
  · exact h
  · exact h
  · exact ⟨h.1, fun hclean => h.2 (himp hclean)⟩

theorem readLoop_explains (n : Nat) {line : List UInt8} (hline : newline ∉ line)
    (hlen : line.length ≤ n) (inbox : List UInt8) (answers : List ReadAnswer) :
    ReadOutcome.Explains n (∀ a ∈ answers, a = .ready ∨ a = .notReady) (line ++ inbox)
      (readLoop (n + 1) line inbox answers) := by
  induction answers generalizing line inbox with
  | nil =>
    rw [readLoop]
    exact ⟨rfl, hline, hlen⟩
  | cons answer answers ih =>
    cases answer with
    | notReady =>
      rw [readLoop]
      exact ⟨rfl, hline, hlen⟩
    | selectError =>
      rw [readLoop]
      exact ⟨⟨line, rfl, hline, hlen⟩, fun h => by simp at h⟩
    | recvError =>
      rw [readLoop]
      exact ⟨⟨line, rfl, hline, hlen⟩, fun h => by simp at h⟩
    | ready =>
      cases inbox with
      | nil =>
        rw [readLoop]
        exact ⟨⟨line, rfl, hline, hlen⟩, fun _ => rfl⟩
      | cons byte inbox =>
        have happ : line ++ byte :: inbox = line ++ [byte] ++ inbox := by simp
        simp only [readLoop]
        split
        · rename_i hfull
          exact ⟨line, byte, rfl, hline, by omega⟩
        · rename_i hroom
          have hlen' : (line ++ [byte]).length ≤ n := by
            simp only [List.length_append, List.length_singleton]
            omega
          rw [happ]
          split
          · rename_i hnl
            exact ⟨rfl, ⟨line, by rw [hnl], hline⟩, hlen'⟩
          · rename_i hnl
            have hline' : newline ∉ line ++ [byte] := by simp [hline, Ne.symm hnl]
            exact (ih hline' hlen' inbox).mono fun h a ha => h a (List.mem_cons_of_mem _ ha)

/-- The read loop reads one byte for each answer that finds the socket ready, up to the newline or
the byte that does not fit. -/
theorem readLoop_reads (n : Nat) {line : List UInt8} (hlen : line.length ≤ n) (inbox : List UInt8)
    (answers : List ReadAnswer) :
    (readLoop (n + 1) line inbox answers).2 =
      inbox.drop (min (answers.takeWhile (· == .ready)).length
        (min ((inbox.takeWhile (· != newline)).length + 1) (n + 1 - line.length))) := by
  induction answers generalizing line inbox with
  | nil => simp [readLoop]
  | cons answer answers ih =>
    cases answer with
    | notReady => simp [readLoop]
    | selectError => simp [readLoop]
    | recvError => simp [readLoop]
    | ready =>
      have hready : ((ReadAnswer.ready :: answers).takeWhile (· == .ready)).length =
          (answers.takeWhile (· == .ready)).length + 1 := rfl
      rw [hready]
      cases inbox with
      | nil => simp [readLoop]
      | cons byte inbox =>
        simp only [readLoop]
        split
        · rename_i hfull
          rw [show n + 1 - line.length = 1 by omega,
            show ∀ a b : Nat, min (a + 1) (min (b + 1) 1) = 1 by omega, List.drop_one,
            List.tail_cons]
        · rename_i hroom
          have hlen' : (line ++ [byte]).length ≤ n := by
            simp only [List.length_append, List.length_singleton]
            omega
          split
          · rename_i hnl
            rw [hnl, List.takeWhile_cons_of_neg (by simp), List.length_nil,
              show min ((answers.takeWhile (· == .ready)).length + 1)
                (min (0 + 1) (n + 1 - line.length)) = 1 by omega, List.drop_one, List.tail_cons]
          · rename_i hnl
            rw [ih hlen' inbox, List.takeWhile_cons_of_pos (by simpa using hnl), List.length_cons,
              List.length_append, List.length_singleton]
            generalize (answers.takeWhile (· == .ready)).length = a
            generalize (inbox.takeWhile (· != newline)).length = b
            rw [show min (a + 1) (min (b + 1 + 1) (n + 1 - line.length)) =
              min a (min (b + 1) (n + 1 - (line.length + 1))) + 1 by omega, List.drop_succ_cons]

/-- The rest of a line whose bytes are all ready is read whole. -/
theorem readLoop_line {n : Nat} {body : List UInt8} (h : newline ∉ body) (line rest : List UInt8)
    (hlen : line.length + body.length < n) {answers : List ReadAnswer}
    (hready : body.length < (answers.takeWhile (· == .ready)).length) :
    readLoop (n + 1) line (body ++ newline :: rest) answers =
      (.complete (line ++ body ++ [newline]), rest) := by
  induction body generalizing line answers with
  | nil =>
    rcases answers with _ | ⟨_ | _ | _ | _, answers⟩
    all_goals simp at hready
    rw [List.length_nil] at hlen
    rw [List.nil_append, readLoop, if_neg (by omega), if_pos rfl, List.append_nil]
  | cons byte body ih =>
    obtain ⟨hbyte, hbody⟩ := not_or.1 (mt List.mem_cons.2 h)
    rw [List.length_cons] at hlen hready
    rcases answers with _ | ⟨_ | _ | _ | _, answers⟩
    all_goals simp at hready
    rw [List.cons_append, readLoop, if_neg (by omega), if_neg (Ne.symm hbyte),
      ih hbody (line ++ [byte]) (by simp only [List.length_append, List.length_singleton]; omega)
        hready]
    simp

/-! ## Sessions -/

namespace Session

/-- The connection is still read: what was handed on, the kept part of the line and what was not
read yet are the stream. -/
def Reading (stream : List UInt8) (clientId : UInt32) (s : Session) : Prop :=
  s.connection.Live ∧ s.connection.clientId = clientId ∧
    stream = s.handed.flatten ++ (s.connection.line ++ s.inbox) ∧
    newline ∉ s.connection.line ∧ s.connection.line.length ≤ jsonLineMax ∧
    Server.Result.messageTooLong ∉ s.results

/-- The connection was closed at a line that is too long. -/
def TooLong (stream : List UInt8) (clientId : UInt32) (s : Session) : Prop :=
  s.connection = Connection.closed ∧
    (∃ start byte, stream = s.handed.flatten ++ (start ++ byte :: s.inbox) ∧ newline ∉ start ∧
      start.length = jsonLineMax) ∧
    Server.Result.messageTooLong ∈ s.results ∧ ¬ s.control.app.lease.HeldBy clientId

/-- The connection was closed because a read failed or the peer closed. -/
def Lost (stream : List UInt8) (clean : Prop) (s : Session) : Prop :=
  s.connection = Connection.closed ∧
    (∃ start, stream = s.handed.flatten ++ (start ++ s.inbox) ∧ newline ∉ start ∧
      start.length ≤ jsonLineMax) ∧
    Server.Result.messageTooLong ∉ s.results ∧ (clean → s.inbox = [])

/-- The invariant of a session. -/
structure Framed (stream : List UInt8) (clientId : UInt32) (clean : Prop) (s : Session) : Prop where
  lines : ∀ l ∈ s.handed, IsLine newline l ∧ l.length ≤ jsonLineMax
  phase : s.Reading stream clientId ∨ s.TooLong stream clientId ∨ s.Lost stream clean

variable {stream : List UInt8} {clientId : UInt32} {clean : Prop} {s : Session}

theorem start_framed (clientId : UInt32) (nowMs timeoutMs : UInt64) (control : Control)
    (stream : List UInt8) (clean : Prop) :
    Framed stream clientId clean (start clientId nowMs timeoutMs control stream) :=
  ⟨by simp [start], Or.inl ⟨⟨rfl, rfl⟩, rfl, rfl, by simp [start, Connection.fresh,
    Connection.closed, Connection.configureHeartbeat], by simp [start, Connection.fresh,
    Connection.closed, Connection.configureHeartbeat], by simp [start]⟩⟩

section Polls

variable [Platform]

/-- A closed connection is not read any more. -/
theorem poll_of_closed (h : s.connection = Connection.closed) (p : Poll) :
    s.poll p = { s with results := s.results ++ [.invalidArgument] } := by
  unfold poll serveConnectionOnceInternal
  rw [if_pos (by rw [h]; rfl)]
  simp

/-- A serve that completes a line hands it on, and the adapter handles it. -/
theorem poll_of_complete (hlive : s.connection.Live) {p : Poll} {line inbox : List UInt8}
    (hloop : readLoop (jsonLineMax + 1) s.connection.line s.inbox p.answers =
      (.complete line, inbox)) :
    ∃ result, (result = .ok ∨ result = .socket) ∧ s.poll p =
      { connection := afterLine s.connection p.heartbeat
        control := (handleLine s.control s.connection.clientId (ofArray line) jsonResponseMax).2
        inbox := inbox
        handed := s.handed ++ [line]
        results := s.results ++ [result] } := by
  have hserve := serve_of_live s.control hlive p.heartbeat ⟨s.inbox, p.answers, p.sent⟩
  simp only [hloop] at hserve
  have hresult := serveLine_result s.control (afterLine s.connection p.heartbeat) line inbox p.sent
  have hkept : (serveLine s.control (afterLine s.connection p.heartbeat) line inbox
      p.sent).result ≠ .disconnected := by
    rcases hresult with h | h <;> rw [h] <;> decide
  refine ⟨_, hresult, ?_⟩
  simp only [poll, hserve, if_neg hkept, serveLine_handed, serveLine_connection, serveLine_inbox,
    serveLine_control, afterLine_clientId, Option.toList_some]

theorem poll_framed_of_reading (hlines : ∀ l ∈ s.handed, IsLine newline l ∧ l.length ≤ jsonLineMax)
    (h : s.Reading stream clientId) (p : Poll) (hclean : clean → p.Clean) :
    (s.poll p).Framed stream clientId clean := by
  obtain ⟨hlive, hid, hstream, hline, hlen, hresults⟩ := h
  have hread := readLoop_explains jsonLineMax hline hlen s.inbox p.answers
  have hserve := serve_of_live s.control hlive p.heartbeat ⟨s.inbox, p.answers, p.sent⟩
  cases hloop : readLoop (jsonLineMax + 1) s.connection.line s.inbox p.answers with
  | mk outcome inbox =>
    rw [hloop] at hread
    simp only [hloop] at hserve
    cases outcome with
    | pending line =>
      obtain ⟨htext, hline', hlen'⟩ := hread
      simp only [poll, hserve]
      refine ⟨by simpa using hlines, Or.inl ⟨hlive, hid, ?_, hline', hlen', by simp [hresults]⟩⟩
      simpa [htext] using hstream
    | complete line =>
      obtain ⟨htext, hisLine, hlen'⟩ := hread
      obtain ⟨result, hresult, hpoll⟩ := poll_of_complete hlive hloop
      rw [hpoll]
      refine ⟨?_, Or.inl ⟨afterLine_live hlive _, (afterLine_clientId _).trans hid, ?_, ?_, ?_, ?_⟩⟩
      · intro l hl
        rcases List.mem_append.1 hl with hl | hl
        · exact hlines l hl
        · obtain rfl : l = line := by simpa using hl
          exact ⟨hisLine, hlen'⟩
      · simp [afterLine_line, hstream, htext]
      · simp [afterLine_line]
      · simp [afterLine_line]
      · rcases hresult with h | h <;> simp [h, hresults]
    | failed result =>
      have hrevoked : ¬ (handleDisconnect s.control s.connection.clientId).2.app.lease.HeldBy
          clientId := by
        rw [hid]
        exact Domain.revoke_not_heldBy s.control.app .disconnect clientId
      by_cases hlong : result = .messageTooLong
      · subst hlong
        obtain ⟨start, byte, htext, hstart, hlen'⟩ := hread
        simp only [poll, hserve]
        refine ⟨by simpa using hlines, Or.inr (Or.inl ⟨rfl, ⟨start, byte, ?_, hstart, hlen'⟩,
          by simp, hrevoked⟩)⟩
        simpa [htext] using hstream
      · have hlost : (∃ start, s.connection.line ++ s.inbox = start ++ inbox ∧ newline ∉ start ∧
            start.length ≤ jsonLineMax) ∧
            ((∀ a ∈ p.answers, a = .ready ∨ a = .notReady) → inbox = []) := by
          unfold ReadOutcome.Explains at hread
          cases result <;> first | exact hread | exact absurd rfl hlong
        obtain ⟨⟨start, htext, hstart, hlen'⟩, hempty⟩ := hlost
        have hserve' : serveConnectionOnceInternal s.control s.connection p.heartbeat
            ⟨s.inbox, p.answers, p.sent⟩ =
            ⟨.disconnected, s.connection, (handleDisconnect s.control s.connection.clientId).2,
              inbox, none⟩ := by
          rw [hserve]
          cases result <;> first | rfl | exact absurd rfl hlong
        simp only [poll, hserve']
        refine ⟨by simpa using hlines, Or.inr (Or.inr ⟨rfl, ⟨start, ?_, hstart, hlen'⟩,
          by simp [hresults], fun hc => hempty (hclean hc)⟩)⟩
        simpa [htext] using hstream

/-- **Step lemma**: a serve keeps the session framed. -/
theorem poll_framed (h : s.Framed stream clientId clean) (p : Poll) (hclean : clean → p.Clean) :
    (s.poll p).Framed stream clientId clean := by
  rcases h.phase with hreading | ⟨hclosed, hlong, hmem, hheld⟩ | ⟨hclosed, hlost, hmem, hempty⟩
  · exact poll_framed_of_reading h.lines hreading p hclean
  · rw [poll_of_closed hclosed]
    exact ⟨h.lines, Or.inr (Or.inl ⟨hclosed, hlong, by simp [hmem], hheld⟩)⟩
  · rw [poll_of_closed hclosed]
    exact ⟨h.lines, Or.inr (Or.inr ⟨hclosed, hlost, by simp [hmem], hempty⟩)⟩

/-- **Run lemma**: every session is framed, however it is polled. -/
theorem run_framed (h : s.Framed stream clientId clean) (polls : List Poll)
    (hclean : clean → ∀ p ∈ polls, p.Clean) :
    (Runs.run poll s polls).Framed stream clientId clean := by
  induction polls generalizing s with
  | nil => exact h
  | cons p polls ih =>
    exact ih (poll_framed h p fun hc => hclean hc p List.mem_cons_self)
      fun hc q hq => hclean hc q (List.mem_cons_of_mem _ hq)

/-! ### Progress -/

theorem poll_inbox_of_live (hlive : s.connection.Live) (p : Poll) :
    (s.poll p).inbox =
      (readLoop (jsonLineMax + 1) s.connection.line s.inbox p.answers).2 := by
  have hserve := serve_of_live s.control hlive p.heartbeat ⟨s.inbox, p.answers, p.sent⟩
  simp only [poll, hserve]
  rcases readLoop (jsonLineMax + 1) s.connection.line s.inbox p.answers with
    ⟨line | line | result, inbox⟩
  · rfl
  · exact serveLine_inbox _ _ _
  · cases result <;> rfl

/-- A serve of an open connection reads as far as its answers and one line go. -/
theorem poll_reads (h : s.Reading stream clientId) (p : Poll) :
    (s.poll p).inbox = s.inbox.drop (min p.ready s.wanted) := by
  rw [poll_inbox_of_live h.1, readLoop_reads _ h.2.2.2.2.1]
  rfl

/-- A line whose missing bytes are all ready is handed on by one serve. -/
theorem poll_line (hlive : s.connection.Live) {body rest : List UInt8} (hbody : newline ∉ body)
    (hinbox : s.inbox = body ++ newline :: rest)
    (hlen : s.connection.line.length + body.length < jsonLineMax) {p : Poll}
    (hready : body.length < p.ready) :
    (s.poll p).handed = s.handed ++ [s.connection.line ++ body ++ [newline]] ∧
      (s.poll p).inbox = rest ∧ (s.poll p).connection.line = [] ∧
      (s.poll p).control = (handleLine s.control s.connection.clientId
        (ofArray (s.connection.line ++ body ++ [newline])) jsonResponseMax).2 := by
  have hloop : readLoop (jsonLineMax + 1) s.connection.line s.inbox p.answers =
      (.complete (s.connection.line ++ body ++ [newline]), rest) := by
    rw [hinbox]
    exact readLoop_line hbody s.connection.line rest hlen hready
  obtain ⟨result, -, hpoll⟩ := poll_of_complete hlive hloop
  rw [hpoll]
  exact ⟨rfl, rfl, afterLine_line _, rfl⟩

theorem mem_results_run {result : Server.Result} (h : result ∈ s.results) (polls : List Poll) :
    result ∈ (Runs.run poll s polls).results :=
  Runs.run_invariant (P := fun s : Session => result ∈ s.results)
    (fun _ _ hmem => List.mem_append_left _ hmem) h polls

/-- Enough polls that find a byte ready read the stream to its end or to a line that is too
long: while the connection is read, each of them takes a byte. -/
theorem run_reads (h : s.Framed stream clientId True) (polls : List Poll)
    (hclean : ∀ p ∈ polls, p.Clean) (henough : s.inbox.length ≤ polls.countP (0 < ·.ready)) :
    (Runs.run poll s polls).inbox = [] ∨
      .messageTooLong ∈ (Runs.run poll s polls).results := by
  induction polls generalizing s with
  | nil => exact Or.inl (List.length_eq_zero_iff.1 (Nat.le_zero.1 henough))
  | cons p polls ih =>
    have hnext : (s.poll p).Framed stream clientId True :=
      poll_framed h p fun _ => hclean p List.mem_cons_self
    have hclean' : ∀ q ∈ polls, q.Clean := fun q hq => hclean q (List.mem_cons_of_mem _ hq)
    rcases h.phase with hreading | hlong | ⟨hclosed, -, -, hempty⟩
    · refine ih hnext hclean' ?_
      have hroom : 0 < s.wanted := by
        have hlen := hreading.2.2.2.2.1
        unfold wanted
        omega
      rw [poll_reads hreading, List.length_drop]
      rw [List.countP_cons] at henough
      split at henough
      · rename_i hready
        have hready : 0 < p.ready := by simpa using hready
        omega
      · omega
    · exact Or.inr (mem_results_run hlong.2.2.1 (p :: polls))
    · refine ih hnext hclean' ?_
      rw [poll_of_closed hclosed, hempty trivial]
      exact Nat.zero_le _

end Polls

/-! ## What a framed session says about the whole stream -/

theorem Framed.handed_prefix (h : s.Framed stream clientId clean) :
    s.handed <+: (completeLines newline stream).takeWhile (·.length ≤ jsonLineMax) := by
  have hrest : ∃ rest, stream = s.handed.flatten ++ rest := by
    rcases h.phase with hreading | hlong | hlost
    · exact ⟨_, hreading.2.2.1⟩
    · obtain ⟨-, ⟨start, byte, hstream, -⟩, -⟩ := hlong
      exact ⟨_, hstream⟩
    · obtain ⟨-, ⟨start, hstream, -⟩, -⟩ := hlost
      exact ⟨_, hstream⟩
  obtain ⟨rest, rfl⟩ := hrest
  rw [completeLines_flatten_append fun l hl => (h.lines l hl).1,
    List.takeWhile_append_of_pos fun l hl => by simpa using (h.lines l hl).2]
  exact List.prefix_append _ _

theorem Framed.line_length_le (h : s.Framed stream clientId clean) :
    s.connection.line.length ≤ jsonLineMax := by
  rcases h.phase with hreading | ⟨hclosed, -⟩ | ⟨hclosed, -⟩
  · exact hreading.2.2.2.2.1
  · simp [hclosed, Connection.closed]
  · simp [hclosed, Connection.closed]

theorem Framed.reading_of_opened (h : s.Framed stream clientId clean)
    (ho : s.connection.opened = true) : s.Reading stream clientId := by
  rcases h.phase with hreading | ⟨hclosed, -⟩ | ⟨hclosed, -⟩
  · exact hreading
  · exact absurd ho (by simp [hclosed, Connection.closed])
  · exact absurd ho (by simp [hclosed, Connection.closed])

theorem Framed.tooLong_of_mem (h : s.Framed stream clientId clean)
    (hm : Server.Result.messageTooLong ∈ s.results) : s.TooLong stream clientId := by
  rcases h.phase with hreading | hlong | hlost
  · exact absurd hm hreading.2.2.2.2.2
  · exact hlong
  · exact absurd hm hlost.2.2.1

theorem Framed.completeLines_eq (h : s.Framed stream clientId clean) {start : List UInt8}
    (hstream : stream = s.handed.flatten ++ start) (hstart : newline ∉ start) :
    completeLines newline stream = s.handed ∧ unfinished newline stream = start := by
  have hlines : ∀ l ∈ s.handed, IsLine newline l := fun l hl => (h.lines l hl).1
  rw [hstream, completeLines_flatten_append hlines, unfinished_flatten_append hlines,
    completeLines_of_not_mem hstart, unfinished_of_not_mem hstart, List.append_nil]
  exact ⟨rfl, rfl⟩

theorem Framed.takeWhile_eq (h : s.Framed stream clientId clean)
    (hc : completeLines newline stream = s.handed) :
    (completeLines newline stream).takeWhile (·.length ≤ jsonLineMax) = s.handed := by
  rw [hc, List.takeWhile_eq_self_iff]
  exact fun l hl => by simpa using (h.lines l hl).2

/-- A stream that was read to its end without a line that is too long has none. -/
theorem Framed.short_of_read (h : s.Framed stream clientId clean) (hempty : s.inbox = [])
    (hm : Server.Result.messageTooLong ∉ s.results) :
    ∀ l ∈ completeLines newline stream ++ [unfinished newline stream],
      l.length ≤ jsonLineMax := by
  have hread : ∃ start, stream = s.handed.flatten ++ start ∧ newline ∉ start ∧
      start.length ≤ jsonLineMax := by
    rcases h.phase with ⟨-, -, hstream, hline, hlen, -⟩ | hlong | ⟨-, ⟨start, hstream, hs⟩, -⟩
    · exact ⟨_, by simpa [hempty] using hstream, hline, hlen⟩
    · exact absurd hlong.2.2.1 hm
    · exact ⟨start, by simpa [hempty] using hstream, hs⟩
  obtain ⟨start, hstream, hstart, hlen⟩ := hread
  obtain ⟨hc, hu⟩ := h.completeLines_eq hstream hstart
  rw [hc, hu]
  intro l hl
  rcases List.mem_append.1 hl with hl | hl
  · exact (h.lines l hl).2
  · obtain rfl : l = start := by simpa using hl
    exact hlen

/-- What an end of the stream without a line that is too long says about the lines. -/
theorem Framed.handed_of_read (h : s.Framed stream clientId clean) (hempty : s.inbox = [])
    (hm : Server.Result.messageTooLong ∉ s.results) :
    s.handed = completeLines newline stream := by
  rcases h.phase with ⟨-, -, hstream, hline, -⟩ | hlong | ⟨-, ⟨start, hstream, hs, -⟩, -⟩
  · exact (h.completeLines_eq (by simpa [hempty] using hstream) hline).1.symm
  · exact absurd hlong.2.2.1 hm
  · exact (h.completeLines_eq (by simpa [hempty] using hstream) hs).1.symm

/-- **The lines of the stream.** For every stream of a client and every schedule of reads, the
lines that reach the adapter are the stream split after each newline, in order and up to the first
line of more than `SWBT_IPC_JSON_LINE_MAX` bytes. Nothing is lost or read twice between two polls,
and the kept part of a line never exceeds that size. At the first longer line, and only there, the
result is `MESSAGE_TOO_LONG`, the connection is closed and its client does not hold the lease.

The session makes progress: a poll reads one byte for each answer that finds the socket ready, up
to the end of the line, a line whose bytes are ready is handed on at once, and enough polls read
the stream to its end. -/
theorem session_hands_on_lines [Platform] (clientId : UInt32) (nowMs timeoutMs : UInt64)
    (control : Control) (stream : List UInt8) (polls : List Poll) :
    let e := Runs.run poll (start clientId nowMs timeoutMs control stream) polls
    let short := (completeLines newline stream).takeWhile (·.length ≤ jsonLineMax)
    e.handed <+: short ∧
    e.connection.line.length ≤ jsonLineMax ∧
    (e.connection.opened = true →
      stream = e.handed.flatten ++ e.connection.line ++ e.inbox ∧ newline ∉ e.connection.line) ∧
    (e.inbox = [] → .messageTooLong ∉ e.results →
      e.handed = completeLines newline stream ∧ e.handed = short) ∧
    (e.connection.opened = true → e.inbox = [] →
      e.connection.line = unfinished newline stream) ∧
    (.messageTooLong ∈ e.results →
      e.handed = short ∧
        (∃ start byte, stream = e.handed.flatten ++ start ++ byte :: e.inbox ∧
          newline ∉ start ∧ start.length = jsonLineMax) ∧
        e.connection.opened = false ∧ ¬ e.control.app.lease.HeldBy clientId) ∧
    (e.inbox = [] →
      (∃ l ∈ completeLines newline stream ++ [unfinished newline stream],
        jsonLineMax < l.length) →
      .messageTooLong ∈ e.results) ∧
    ((∀ p ∈ polls, p.Clean) → e.inbox ≠ [] → .messageTooLong ∉ e.results →
      e.connection.opened = true) ∧
    (e.connection.opened = true → ∀ p : Poll,
      (e.poll p).inbox = e.inbox.drop (min p.ready e.wanted)) ∧
    (e.connection.opened = true → ∀ body rest, newline ∉ body →
      e.inbox = body ++ newline :: rest →
      e.connection.line.length + body.length < jsonLineMax →
      ∀ p : Poll, body.length < p.ready →
        let line := e.connection.line ++ body ++ [newline]
        (e.poll p).handed = e.handed ++ [line] ∧ (e.poll p).inbox = rest ∧
          (e.poll p).connection.line = [] ∧
          (e.poll p).control =
            (handleLine e.control clientId (ofArray line) jsonResponseMax).2) ∧
    ((∀ p ∈ polls, p.Clean) → stream.length ≤ polls.countP (0 < ·.ready) →
      e.inbox = [] ∨ .messageTooLong ∈ e.results) := by
  intro e short
  have hstart (clean : Prop) := start_framed clientId nowMs timeoutMs control stream clean
  have h : e.Framed stream clientId (∀ p ∈ polls, p.Clean) := run_framed (hstart _) polls id
  refine ⟨h.handed_prefix, h.line_length_le, fun ho => ?_, fun hempty hm => ?_,
    fun ho hempty => ?_, fun hm => ?_, fun hempty hlong => ?_, fun hclean hne hm => ?_,
    fun ho p => poll_reads (h.reading_of_opened ho) p, fun ho body rest hbody hinbox hlen p hp => ?_,
    fun hclean henough => run_reads (hstart True) polls hclean henough⟩
  · obtain ⟨-, -, hstream, hline, -⟩ := h.reading_of_opened ho
    exact ⟨by rw [List.append_assoc]; exact hstream, hline⟩
  · have hc := h.handed_of_read hempty hm
    exact ⟨hc, (h.takeWhile_eq hc.symm).symm⟩
  · obtain ⟨-, -, hstream, hline, -⟩ := h.reading_of_opened ho
    exact (h.completeLines_eq (by simpa [hempty] using hstream) hline).2.symm
  · obtain ⟨hclosed, ⟨start, byte, hstream, hstart, hlen⟩, -, hheld⟩ := h.tooLong_of_mem hm
    refine ⟨?_, ⟨start, byte, by rw [List.append_assoc]; exact hstream, hstart, hlen⟩,
      by rw [hclosed]; rfl, hheld⟩
    have htake := takeWhile_length_le_of_long h.lines hstart (byte :: e.inbox)
      (Nat.le_of_eq hlen.symm)
    rw [← hstream] at htake
    exact htake.symm
  · by_contra hm
    obtain ⟨l, hl, hlt⟩ := hlong
    have := h.short_of_read hempty hm l hl
    omega
  · rcases h.phase with hreading | hlong | hlost
    · exact hreading.1.1
    · exact absurd hlong.2.2.1 hm
    · exact absurd (hlost.2.2.2 hclean) hne
  · obtain ⟨hlive, hid, -⟩ := h.reading_of_opened ho
    rw [← hid]
    exact poll_line hlive hbody hinbox hlen hp

end Session

end Swbt.Ipc
