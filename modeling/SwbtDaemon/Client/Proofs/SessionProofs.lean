import SwbtDaemon.Client.Session
import SwbtDaemon.Client.Proofs.RoundTripProofs

/-!
# Proofs: sessions with any server

Whatever answers the client, it makes its requests in order, speaks only as the owner that it was
told to be, and gives the ownership back before it ends.
-/

namespace Swbt.DebugClient

open CString Ipc

/-! ## Requests that fit -/

theorem ioSendFormat_of_lt {text : List UInt8} (h : text.length < jsonLineMax) :
    ioSendFormat text = some text := by
  unfold ioSendFormat
  rw [if_neg (by omega)]

theorem ioSendRelease_eq {ownerId : List UInt8} (h : ownerId.length < idSize) :
    ioSendRelease ownerId = some (releaseText ownerId) := by
  refine ioSendFormat_of_lt ?_
  have hstart : (bytes "\x7b\"v\":1,\"type\":\"release\",\"owner_id\":\"").length = 36 := by decide
  have hend : (bytes "\",\"request_id\":\"r1\"\x7d\n").length = 21 := by decide
  simp only [releaseText, List.length_append, hstart, hend, idSize, jsonLineMax] at h ⊢
  omega

theorem ioSendSetState_isSome {ownerId : List UInt8} (h : ownerId.length < idSize) (state : State)
    (sequence : UInt64) : ∃ line, ioSendSetState ownerId state sequence = some line := by
  refine ⟨_, ioSendFormat_of_lt ?_⟩
  have hsequence := printUnsigned_uint64 sequence
  have hbuttons := printUnsigned_uint32 state.buttons
  have hlx := printUnsigned_uint16 state.lx
  have hly := printUnsigned_uint16 state.ly
  have hrx := printUnsigned_uint16 state.rx
  have hry := printUnsigned_uint16 state.ry
  have haccelX := printSigned_int16 state.accelX
  have haccelY := printSigned_int16 state.accelY
  have haccelZ := printSigned_int16 state.accelZ
  have hgyroX := printSigned_int16 state.gyroX
  have hgyroY := printSigned_int16 state.gyroY
  have hgyroZ := printSigned_int16 state.gyroZ
  simp only [List.length_append, idSize, jsonLineMax] at h ⊢
  simp only [bytes, List.length_map, String.reduceToList, List.length_cons, List.length_nil]
  omega

theorem responseString_length {response key text : List UInt8} {outSize : Nat}
    (h : responseString response key outSize = some text) : text.length < outSize := by
  unfold responseString at h
  split_ifs at h
  dsimp only at h
  cases hfound : strstr response (0x22 :: (key ++ [0x22, 0x3A, 0x22])) with
  | none =>
    rw [hfound] at h
    exact nomatch h
  | some found =>
    rw [hfound] at h
    dsimp only at h
    split_ifs at h with hquote hsize
    obtain rfl := Option.some.inj h
    omega

/-! ## The record changes nothing -/

section Forget

variable {τ : Type} (config : Config) (io : Io τ) (peer : τ × List Message)

theorem sendReceive_forget (request : Option (List UInt8)) :
    sendReceive io peer.1 request =
      ((sendReceive io.recorded peer request).1, (sendReceive io.recorded peer request).2.1) := by
  cases request with
  | none => rfl
  | some line =>
    cases hsend : io.send peer.1 line with
    | mk sent peer₁ => cases sent <;> simp [sendReceive, Io.recorded, hsend]

theorem releaseBestEffort_forget (ownerId : List UInt8) :
    (releaseBestEffort io.recorded peer ownerId).1 = releaseBestEffort io peer.1 ownerId := by
  unfold releaseBestEffort
  split
  · rfl
  · rw [sendReceive_forget]

theorem runRelease_forget (ownerId status : List UInt8) :
    (runRelease config io.recorded peer ownerId status).forget =
      runRelease config io peer.1 ownerId status := by
  unfold runRelease
  rw [sendReceive_forget io peer]
  rcases sendReceive io.recorded peer (ioSendRelease ownerId) with ⟨_ | response, peer'⟩
  · split <;> rfl
  · dsimp only
    split
    · rfl
    · split <;> rfl

theorem runStatus_forget (ownerId : List UInt8) :
    (runStatus config io.recorded peer ownerId).forget =
      runStatus config io peer.1 ownerId := by
  unfold runStatus
  rw [sendReceive_forget io peer]
  rcases sendReceive io.recorded peer (some getStatusRequest) with ⟨_ | response, peer'⟩
  · dsimp only
    rw [← releaseBestEffort_forget]
    rfl
  · dsimp only
    split
    · rw [← releaseBestEffort_forget]
      rfl
    · exact runRelease_forget config io peer' ownerId response

theorem runOwner_forget (ownerId : List UInt8) :
    (runOwner config io.recorded peer ownerId).forget = runOwner config io peer.1 ownerId := by
  unfold runOwner
  rw [sendReceive_forget io peer]
  rcases sendReceive io.recorded peer (ioSendSetState ownerId config.state config.sequence) with
    ⟨_ | response, peer'⟩
  · dsimp only
    rw [← releaseBestEffort_forget]
    rfl
  · dsimp only
    split
    · rw [← releaseBestEffort_forget]
      rfl
    · exact runStatus_forget config io peer' ownerId

theorem runAcquire_forget :
    (runAcquire config io.recorded peer).forget = runAcquire config io peer.1 := by
  unfold runAcquire
  rw [sendReceive_forget io peer]
  rcases sendReceive io.recorded peer (some acquireRequest) with ⟨_ | response, peer'⟩
  · rfl
  · dsimp only
    split
    · rfl
    split
    · rfl
    cases responseString response (bytes "owner_id") idSize with
    | none => rfl
    | some ownerId => exact runOwner_forget config io peer' ownerId

/-- A recorded run is a run. -/
theorem runIo_forget : (runIo config io.recorded peer).forget = runIo config io peer.1 := by
  unfold runIo
  rw [sendReceive_forget io peer]
  rcases sendReceive io.recorded peer (some helloRequest) with ⟨_ | response, peer'⟩
  · rfl
  · dsimp only
    split
    · rfl
    cases responseString response (bytes "client_id") idSize with
    | none => rfl
    | some clientId => exact runAcquire_forget config io peer'

end Forget

/-! ## The record -/

section Recorded

variable {τ : Type} (config : Config) (io : Io τ)

theorem lines_append (before after : List Message) :
    lines (before ++ after) = lines before ++ lines after := List.filterMap_append

@[simp] theorem lines_nil : lines [] = [] := rfl

@[simp] theorem lines_sent (line : List UInt8) (messages : List Message) :
    lines (.sent line :: messages) = line :: lines messages := rfl

@[simp] theorem lines_received (response : List UInt8) (messages : List Message) :
    lines (.received response :: messages) = lines messages := rfl

/-- A request is recorded, and its response if there is one. -/
theorem sendReceive_recorded (peer : τ) (log : List Message) (line : List UInt8) :
    (∃ peer' later, lines later = [] ∧ sendReceive io.recorded (peer, log) (some line) =
      (none, (peer', log ++ .sent line :: later))) ∨
    ∃ peer' response, sendReceive io.recorded (peer, log) (some line) =
      (some response, (peer', log ++ [.sent line, .received response])) := by
  cases hsend : io.send peer line with
  | mk sent peer₁ =>
    cases sent with
    | false => exact Or.inl ⟨peer₁, [], rfl, by simp [sendReceive, Io.recorded, hsend]⟩
    | true =>
      cases hreceive : io.receive peer₁ jsonResponseMax with
      | mk response peer₂ =>
        cases response with
        | none =>
          exact Or.inl ⟨peer₂, [], rfl, by simp [sendReceive, Io.recorded, hsend, hreceive]⟩
        | some response =>
          exact Or.inr ⟨peer₂, ofArray response,
            by simp [sendReceive, Io.recorded, hsend, hreceive]⟩

/-- The release that is made on a failure. -/
theorem releaseBestEffort_recorded (peer : τ) (log : List Message) {ownerId : List UInt8}
    (h : ownerId.length < idSize) :
    ∃ later, (releaseBestEffort io.recorded (peer, log) ownerId).2 = log ++ later ∧
      lines later = if ownerId = [] then [] else [releaseText ownerId] := by
  unfold releaseBestEffort
  by_cases hempty : ownerId = []
  · rw [if_pos hempty, if_pos hempty]
    exact ⟨[], (List.append_nil log).symm, rfl⟩
  · rw [if_neg hempty, if_neg hempty, ioSendRelease_eq h]
    rcases sendReceive_recorded io peer log (releaseText ownerId) with
      ⟨peer', later, hlater, heq⟩ | ⟨peer', response, heq⟩
    · exact ⟨_, congrArg (·.2.2) heq, by rw [lines_sent, hlater]⟩
    · exact ⟨_, congrArg (·.2.2) heq, rfl⟩

/-- A session that fails before its last request, and makes the release. -/
theorem finished_failed (peer : τ) (log : List Message) {ownerId : List UInt8}
    (h : ownerId.length < idSize) {first : List Message} {line : List UInt8}
    (hfirst : lines first = [line]) (between : List (List UInt8)) (text : List UInt8) :
    ∃ later, (failed text (releaseBestEffort io.recorded (peer, log ++ first) ownerId)).peer.2 =
        log ++ later ∧
      Finished config ownerId (line :: (between ++ [releaseText ownerId])) later
        (failed text (releaseBestEffort io.recorded (peer, log ++ first) ownerId)) := by
  obtain ⟨release, hrelease, hlines⟩ := releaseBestEffort_recorded io peer (log ++ first) h
  have hall : lines (first ++ release) =
      line :: if ownerId = [] then [] else [releaseText ownerId] := by
    rw [lines_append, hfirst, hlines, List.singleton_append]
  refine ⟨first ++ release, by rw [failed, hrelease, List.append_assoc], ⟨?_, ?_, ?_, ?_, ?_, ?_⟩⟩
  · exact Nat.le_refl 1
  · exact fun hzero => absurd hzero (Nat.succ_ne_zero 0)
  · rw [hall]
    refine List.Sublist.cons_cons line ?_
    split
    · exact List.nil_sublist _
    · exact List.sublist_append_right between _
  · exact fun hzero => absurd hzero (Nat.succ_ne_zero 0)
  · intro hempty
    rw [hall, if_neg hempty]
    exact Or.inr rfl
  · rintro (hzero | hout)
    · exact absurd hzero (Nat.succ_ne_zero 0)
    · exact absurd rfl hout

variable {config} in
/-- A request that is answered comes before the others. -/
theorem Finished.cons {ownerId line response : List UInt8} {requests : List (List UInt8)}
    {later : List Message} {outcome : Outcome τ} (hne : requests ≠ [])
    (h : Finished config ownerId requests later outcome) :
    Finished config ownerId (line :: requests) (.sent line :: .received response :: later)
      outcome := by
  refine ⟨h.result, h.silent, h.ordered.cons_cons line, ?_, ?_, ?_⟩
  · intro hzero
    rw [lines_sent, lines_received, h.complete hzero, List.dropLast_cons_of_ne_nil hne]
    split <;> rfl
  · intro hempty
    rcases h.released hempty with hskip | hlast
    · exact Or.inl hskip
    · rw [lines_sent, lines_received, List.getLast?_cons, hlast]
      exact Or.inr rfl
  · intro hshown
    obtain ⟨hnoerror, before, after, rfl⟩ := h.shown hshown
    exact ⟨hnoerror, .sent line :: .received response :: before, after, rfl⟩

/-- The end of a session, after its status was received. -/
theorem runRelease_recorded (peer : τ) (log : List Message) {ownerId : List UInt8}
    (h : ownerId.length < idSize) {status : List UInt8}
    (hstatus : responseContains status "error" = false) :
    ∃ later, (runRelease config io.recorded
        (peer, log ++ [.sent getStatusRequest, .received status]) ownerId status).peer.2 =
          log ++ later ∧
      Finished config ownerId [getStatusRequest, releaseText ownerId] later
        (runRelease config io.recorded
          (peer, log ++ [.sent getStatusRequest, .received status]) ownerId status) := by
  unfold runRelease
  by_cases hskip : config.skipRelease = true
  · rw [if_pos hskip]
    refine ⟨_, rfl, Nat.zero_le 1, fun _ => rfl, ?_, fun _ => ?_, fun _ => Or.inl ⟨rfl, hskip⟩,
      fun _ => ⟨hstatus, [], [], rfl⟩⟩
    · exact List.Sublist.cons_cons _ (List.nil_sublist _)
    · rw [if_pos hskip]
      rfl
  · have hdone : ∀ (outcome : Outcome (τ × List Message)) (last : List Message),
        lines last = [releaseText ownerId] → outcome.out = status → outcome.result ≤ 1 →
        (outcome.result = 0 → outcome.err = []) →
        Finished config ownerId [getStatusRequest, releaseText ownerId]
          (.sent getStatusRequest :: .received status :: last) outcome := by
      intro outcome last hlast hout hresult hsilent
      have hall : lines (.sent getStatusRequest :: .received status :: last) =
          [getStatusRequest, releaseText ownerId] := by
        rw [lines_sent, lines_received, hlast]
      refine ⟨hresult, hsilent, ?_, fun _ => ?_, fun _ => Or.inr ?_, fun _ => ?_⟩
      · rw [hall]
      · rw [hall, if_neg hskip]
      · rw [hall]
        rfl
      · rw [hout]
        exact ⟨hstatus, [], last, rfl⟩
    rw [if_neg hskip, ioSendRelease_eq h]
    rcases sendReceive_recorded io peer (log ++ [.sent getStatusRequest, .received status])
      (releaseText ownerId) with ⟨peer', later, hlater, heq⟩ | ⟨peer', response, heq⟩
    · rw [heq]
      exact ⟨.sent getStatusRequest :: .received status :: .sent (releaseText ownerId) :: later,
        List.append_assoc _ _ _,
        hdone _ _ (by rw [lines_sent, hlater]) rfl (Nat.le_refl 1) (nomatch ·)⟩
    · have happend := List.append_assoc log [.sent getStatusRequest, .received status]
        [.sent (releaseText ownerId), .received response]
      rw [heq]
      dsimp only
      split
      · exact ⟨_, happend, hdone _ [.sent (releaseText ownerId), .received response] rfl rfl
          (Nat.le_refl 1) (nomatch ·)⟩
      · exact ⟨_, happend, hdone _ [.sent (releaseText ownerId), .received response] rfl rfl
          (Nat.zero_le 1) fun _ => rfl⟩

theorem runStatus_recorded (peer : τ) (log : List Message) {ownerId : List UInt8}
    (h : ownerId.length < idSize) :
    ∃ later, (runStatus config io.recorded (peer, log) ownerId).peer.2 = log ++ later ∧
      Finished config ownerId [getStatusRequest, releaseText ownerId] later
        (runStatus config io.recorded (peer, log) ownerId) := by
  unfold runStatus
  rcases sendReceive_recorded io peer log getStatusRequest with
    ⟨peer', later, hlater, heq⟩ | ⟨peer', response, heq⟩
  · rw [heq]
    exact finished_failed config io peer' log h (by rw [lines_sent, hlater]) [] _
  · rw [heq]
    dsimp only
    by_cases herror : responseContains response "error" = true
    · rw [if_pos herror]
      exact finished_failed config io peer' log h rfl [] _
    · rw [if_neg herror]
      exact runRelease_recorded config io peer' log h (Bool.eq_false_iff.2 herror)

theorem runOwner_recorded (peer : τ) (log : List Message) {ownerId : List UInt8}
    (h : ownerId.length < idSize) :
    ∃ later, (runOwner config io.recorded (peer, log) ownerId).peer.2 = log ++ later ∧
      Finished config ownerId (script config ownerId) later
        (runOwner config io.recorded (peer, log) ownerId) := by
  obtain ⟨line, hline⟩ := ioSendSetState_isSome h config.state config.sequence
  unfold runOwner script
  rw [hline, ioSendRelease_eq h]
  rcases sendReceive_recorded io peer log line with
    ⟨peer', later, hlater, heq⟩ | ⟨peer', response, heq⟩
  · rw [heq]
    exact finished_failed config io peer' log h (by rw [lines_sent, hlater]) [getStatusRequest] _
  · rw [heq]
    dsimp only
    by_cases herror : responseContains response "error" = true
    · rw [if_pos herror]
      exact finished_failed config io peer' log h rfl [getStatusRequest] _
    · rw [if_neg herror]
      obtain ⟨later, hlater, hfinished⟩ := runStatus_recorded config io peer'
        (log ++ [.sent line, .received response]) h
      refine ⟨.sent line :: .received response :: later, ?_,
        hfinished.cons (List.cons_ne_nil _ _)⟩
      rw [hlater, List.append_assoc]
      rfl

/-- A session that ends before it owns anything. -/
theorem orderly_failed (text : List UInt8) (peer : τ) {log : List Message}
    (h : (lines log).Sublist [helloRequest, acquireRequest]) :
    Orderly config (failed text (peer, log)) := Or.inl ⟨rfl, rfl, h⟩

/-- The session after the greeting. -/
theorem runAcquire_recorded (peer : τ) {hello : List UInt8}
    (hgreeted : responseContains hello "hello_ok" = true) :
    Orderly config
      (runAcquire config io.recorded (peer, [.sent helloRequest, .received hello])) := by
  have hasked : ∀ later, lines later = [] →
      (lines ([.sent helloRequest, .received hello] ++ .sent acquireRequest :: later)).Sublist
        [helloRequest, acquireRequest] := by
    intro later hlater
    rw [lines_append, lines_sent, lines_sent, hlater]
    exact List.Sublist.refl _
  unfold runAcquire
  rcases sendReceive_recorded io peer [.sent helloRequest, .received hello] acquireRequest with
    ⟨peer', later, hlater, heq⟩ | ⟨peer', acquired, heq⟩
  · rw [heq]
    exact orderly_failed config _ peer' (hasked later hlater)
  have hanswered := hasked [.received acquired] rfl
  rw [heq]
  dsimp only
  by_cases herror : responseContains acquired "error" = true
  · rw [if_pos herror]
    exact orderly_failed config _ peer' hanswered
  rw [if_neg herror]
  by_cases hacquired : responseContains acquired "acquired" = true
  · rw [hacquired, if_neg (by simp)]
    cases howner : responseString acquired (bytes "owner_id") idSize with
    | none => exact orderly_failed config _ peer' hanswered
    | some ownerId =>
      dsimp only
      obtain ⟨later, hlater, hfinished⟩ := runOwner_recorded config io peer'
        ([.sent helloRequest, .received hello] ++ [.sent acquireRequest, .received acquired])
        (responseString_length howner)
      have hgranted : Granted ownerId ([.sent helloRequest, .received hello] ++
          [.sent acquireRequest, .received acquired] ++ later) later :=
        ⟨hello, acquired, hgreeted, Bool.eq_false_iff.2 herror, hacquired, howner, rfl⟩
      rw [← hlater] at hgranted
      exact Or.inr ⟨ownerId, later, hgranted, hfinished⟩
  · rw [Bool.eq_false_iff.2 hacquired, if_pos (by simp)]
    exact orderly_failed config _ peer' hanswered

end Recorded

/-- The recorded run is orderly. -/
theorem runIo_recorded {τ : Type} (config : Config) (io : Io τ) (peer : τ) :
    Orderly config (runIo config io.recorded (peer, [])) := by
  have hgreeting : ∀ later, lines later = [] →
      (lines ([] ++ .sent helloRequest :: later)).Sublist [helloRequest, acquireRequest] := by
    intro later hlater
    rw [List.nil_append, lines_sent, hlater]
    exact List.Sublist.cons_cons _ (List.nil_sublist _)
  unfold runIo
  rcases sendReceive_recorded io peer [] helloRequest with
    ⟨peer', later, hlater, heq⟩ | ⟨peer', hello, heq⟩
  · rw [heq]
    exact orderly_failed config _ peer' (hgreeting later hlater)
  have hanswered := hgreeting [.received hello] rfl
  rw [heq]
  dsimp only
  by_cases hgreeted : responseContains hello "hello_ok" = true
  · rw [hgreeted, if_neg (by simp)]
    cases responseString hello (bytes "client_id") idSize with
    | none => exact orderly_failed config _ peer' hanswered
    | some clientId => exact runAcquire_recorded config io peer' hgreeted
  · rw [Bool.eq_false_iff.2 hgreeted, if_pos (by simp)]
    exact orderly_failed config _ peer' hanswered

/-- **A session with any server.** It ends before it owns anything, with no more than the greeting
and the request for the ownership made and nothing written to the output. Or the server granted the
ownership to an owner id, and the session goes on with the requests of that owner, of which the
release is the last. -/
theorem runIo_orderly {τ : Type} (config : Config) (io : Io τ) (peer : τ) :
    ∃ outcome : Outcome (τ × List Message), Orderly config outcome ∧
      outcome = runIo config io.recorded (peer, []) ∧ outcome.forget = runIo config io peer :=
  ⟨_, runIo_recorded config io peer, rfl, runIo_forget config io (peer, [])⟩

end Swbt.DebugClient
