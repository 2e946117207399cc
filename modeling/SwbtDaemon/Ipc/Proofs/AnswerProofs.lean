import SwbtDaemon.Ipc.Proofs.RequestProofs
import SwbtDaemon.Ipc.Proofs.ResponseProofs

/-!
# Proofs: every line is answered

The response to a line bears the request id of the line and a message of the source. So every line
is answered within the buffer of the daemon, and what the client reads there is its own request id.
-/

namespace Swbt.Ipc

open CString Json Braces Written Domain

/-! ## The scanners stay within the line -/

theorem skipSpace_suffix (s : List UInt8) : skipSpace s <:+ s := List.dropWhile_suffix _

theorem completeLoop_suffix {s : CompleteScan} {cs rest : List UInt8}
    (h : completeLoop s cs = some rest) : rest <:+ cs := by
  -- every branch of the loop fails, goes on behind the byte it reads, or ends there
  fun_induction completeLoop s cs
  all_goals first
    | contradiction
    | (rename_i ih; exact (ih h).trans (List.suffix_cons _ _))
    | (obtain rfl := Option.some.inj h; exact List.suffix_cons _ _)

theorem findLoop_suffix {key : List UInt8} {s : FindScan} {cs rest : List UInt8}
    (h : findLoop key s cs = some rest) : rest <:+ cs := by
  fun_induction findLoop key s cs
  all_goals first
    | contradiction
    | (rename_i ih; exact (ih h).trans (List.suffix_cons _ _))
    | skip
  -- the key is found: the value stands behind its quote and a colon
  next cs _ _ _ _ _ _ name afterQuote hquote afterColon hcolon _ =>
    obtain rfl := Option.some.inj h
    have h₁ : 0x22 :: afterQuote <:+ cs := hquote ▸ List.drop_suffix _ _
    have h₂ : 0x3A :: afterColon <:+ afterQuote := hcolon ▸ skipSpace_suffix _
    have h₃ : skipSpace afterColon <:+ afterQuote :=
      (skipSpace_suffix _).trans ((List.suffix_cons _ _).trans h₂)
    exact h₃.trans ((List.suffix_cons _ _).trans (h₁.trans (List.suffix_cons _ _)))

/-- What a string read returns fits in the buffer, needs no escape, and leaves a rest of the text. -/
theorem readStringLoop_some {n k : Nat} {cs text rest : List UInt8}
    (h : readStringLoop n k cs = some (text, rest)) :
    (text = [] ∨ k + text.length < n) ∧ textCanBeWrittenRaw text = true ∧ rest <:+ cs := by
  induction cs generalizing k text with
  | nil => cases h
  | cons c cs ih =>
    rw [readStringLoop] at h
    split_ifs at h with hquote hrefused hfull
    · obtain ⟨rfl, rfl⟩ := Prod.mk.inj (Option.some.inj h)
      exact ⟨.inl rfl, rfl, List.suffix_cons _ _⟩
    · cases hread : readStringLoop n (k + 1) cs with
      | none => simp [hread] at h
      | some r =>
        obtain ⟨text', rest'⟩ := r
        rw [hread] at h
        obtain ⟨rfl, rfl⟩ : c :: text' = text ∧ rest' = rest := Prod.mk.inj (Option.some.inj h)
        obtain ⟨hlen, hraw, hsuffix⟩ := ih hread
        obtain ⟨hback, hlow⟩ := not_or.1 hrefused
        refine ⟨.inr ?_, ?_, hsuffix.trans (List.suffix_cons _ _)⟩
        · rw [List.length_cons]
          rcases hlen with rfl | hlen
          · exact Nat.lt_of_not_le hfull
          · omega
        · rw [textCanBeWrittenRaw, List.all_cons, Bool.and_eq_true]
          exact ⟨by simp [hquote, hback, hlow], hraw⟩

theorem readDigits_suffix (base acc : Nat) (cs : List UInt8) :
    (readDigits base acc cs).2 <:+ cs := by
  induction cs generalizing acc with
  | nil => exact List.suffix_refl _
  | cons c cs ih =>
    rw [readDigits]
    split
    · exact (ih _).trans (List.suffix_cons _ _)
    · exact List.suffix_refl _

theorem readSign_suffix (cs : List UInt8) : (readSign cs).2 <:+ cs := by
  unfold readSign
  split
  · exact List.suffix_cons _ _
  · exact List.suffix_cons _ _
  · exact List.suffix_refl _

theorem strtoll_suffix {s : List UInt8} {r : Converted Int} (h : strtoll s = some r) :
    r.rest <:+ s := by
  have hdigits := (readDigits_suffix 10 0 (readSign (skipSpace s)).2).trans
    ((readSign_suffix (skipSpace s)).trans (skipSpace_suffix s))
  unfold strtoll at h
  dsimp only at h
  split at h
  · split_ifs at h
    all_goals
      obtain rfl := Option.some.inj h
      exact hdigits
  · cases h

/-! ## The request id and the messages of a response -/

/-- The text fits in a buffer of `jsonStringMax` bytes and can be written as it is. -/
def ShortRaw (text : List UInt8) : Prop :=
  text.length < jsonStringMax ∧ textCanBeWrittenRaw text = true

theorem getString_shortRaw {json key text : List UInt8}
    (h : getString json key jsonStringMax = .value text) : ShortRaw text := by
  unfold getString readString at h
  split at h
  · cases h
  · next cs _ =>
    cases hread : readStringLoop jsonStringMax 0 cs with
    | none => simp [hread] at h
    | some r =>
      obtain ⟨text', rest⟩ := r
      obtain ⟨hlen, hraw, -⟩ := readStringLoop_some hread
      simp only [hread] at h
      split_ifs at h
      obtain rfl := ReadResult.value.inj h
      refine ⟨?_, hraw⟩
      rcases hlen with rfl | hlen
      · decide
      · omega
  · cases h

theorem parseRequestId_shortRaw {line id : List UInt8}
    (h : parseRequestId line = some (some id)) : ShortRaw id := by
  unfold parseRequestId at h
  cases hget : getString line (bytes "request_id") jsonStringMax with
  | invalid => simp [hget] at h
  | absent => simp [hget] at h
  | value text =>
    simp only [hget, Option.some.injEq] at h
    rw [← h]
    exact getString_shortRaw hget

theorem decodedRequestId_shortRaw {line id : List UInt8} (h : decodedRequestId line = some id) :
    ShortRaw id := by
  unfold decodedRequestId at h
  split_ifs at h
  exact parseRequestId_shortRaw (Option.join_eq_some_iff.1 h)

theorem map_copyText {requestId : Option (List UInt8)}
    (h : ∀ id, requestId = some id → ShortRaw id) :
    requestId.map (copyText jsonStringMax) = requestId := by
  cases requestId with
  | none => rfl
  | some id => rw [Option.map_some, copyText_of_lt (h id rfl).1]

/-- The result of a decoding bears the request id `requestId`, and its message is one that can be
written. -/
def Labelled (requestId : Option (List UInt8)) : Except ErrorResponse Command → Prop
  | .error e => e.requestId = requestId ∧ ShortRaw e.errorMessage
  | .ok command => command.requestId = requestId

theorem labelled_setError {requestId : Option (List UInt8)}
    (h : requestId.map (copyText jsonStringMax) = requestId) (code : ErrorCode) {message : String}
    (hmessage : ShortRaw (copyText jsonStringMax (bytes message))) :
    Labelled requestId (.error (setError requestId code message)) :=
  ⟨h, hmessage⟩

section Decoding

variable [Platform] {requestId : Option (List UInt8)}
  (h : requestId.map (copyText jsonStringMax) = requestId)

include h

theorem decodeType_labelled (line type : List UInt8) :
    Labelled requestId (decodeType line requestId type) := by
  unfold decodeType
  dsimp only
  split_ifs
  · exact h
  · exact h
  · exact h
  · split
    · exact labelled_setError h _ ⟨by decide, by decide⟩
    · exact h
  · exact h
  · exact labelled_setError h _ ⟨by decide, by decide⟩

end Decoding

/-- Command and error response bear the request id of the line. -/
theorem decodeCommand_labelled [Platform] (line : List UInt8) :
    Labelled (decodedRequestId line) (decodeCommand line) := by
  have hid : (decodedRequestId line).map (copyText jsonStringMax) = decodedRequestId line :=
    map_copyText fun _ => decodedRequestId_shortRaw
  unfold decodeCommand
  unfold decodedRequestId at hid ⊢
  cases hcomplete : isCompleteObject line with
  | false => exact ⟨rfl, by decide, by decide⟩
  | true =>
    simp only [hcomplete, Bool.not_true, Bool.false_eq_true, if_false, if_true] at hid ⊢
    cases hparse : parseRequestId line with
    | none => exact ⟨rfl, by decide, by decide⟩
    | some requestId =>
      rw [hparse] at hid
      have hid : requestId.map (copyText jsonStringMax) = requestId := hid
      change Labelled requestId _
      simp only
      split_ifs
      · exact labelled_setError hid _ ⟨by decide, by decide⟩
      · split
        · exact labelled_setError hid _ ⟨by decide, by decide⟩
        · exact labelled_setError hid _ ⟨by decide, by decide⟩
        · exact decodeType_labelled hid line _

/-- The response bears the request id, and its message is one that can be written. -/
def Bears (requestId : Option (List UInt8)) (response : Response) : Prop :=
  response.requestId = requestId ∧
    ∀ code message, response.body = .error code message → ShortRaw message

theorem bears_error {command : Command} (code : ErrorCode) {message : String}
    (hmessage : ShortRaw (copyText jsonStringMax (bytes message))) :
    Bears (command.requestId.map (copyText jsonStringMax))
      (errorFromCommand command code message) := by
  refine ⟨rfl, fun c m hbody => ?_⟩
  obtain ⟨-, rfl⟩ := ResponseBody.error.inj hbody
  exact hmessage

theorem bears_body {requestId : Option (List UInt8)} {body : ResponseBody}
    (h : ∀ code message, body ≠ .error code message) : Bears requestId ⟨requestId, body⟩ :=
  ⟨rfl, fun code message hbody => absurd hbody (h code message)⟩

theorem executeCommand_bears (control : Control) (clientId : UInt32) (command : Command) :
    Bears (command.requestId.map (copyText jsonStringMax))
      (executeCommand control clientId command).1 := by
  unfold executeCommand
  cases command.type with
  | none => exact bears_error _ ⟨by decide, by decide⟩
  | hello => exact bears_body fun _ _ h => nomatch h
  | acquire =>
    dsimp only
    split
    · exact bears_error _ ⟨by decide, by decide⟩
    · exact bears_body fun _ _ h => nomatch h
    · exact bears_error _ ⟨by decide, by decide⟩
  | release =>
    dsimp only
    split
    · exact bears_error _ ⟨by decide, by decide⟩
    · split
      · exact bears_error _ ⟨by decide, by decide⟩
      · exact bears_body fun _ _ h => nomatch h
      · exact bears_error _ ⟨by decide, by decide⟩
  | setState =>
    dsimp only
    split
    · exact bears_error _ ⟨by decide, by decide⟩
    · split
      · exact bears_error _ ⟨by decide, by decide⟩
      · exact bears_body fun _ _ h => nomatch h
      · exact bears_error _ ⟨by decide, by decide⟩
  | getStatus =>
    dsimp only
    split
    · exact bears_error _ ⟨by decide, by decide⟩
    · exact bears_body fun _ _ h => nomatch h

theorem Executed.ne_none {control after : Control} {clientId : UInt32} {command : Command}
    {body : ResponseBody} (h : Executed control clientId command body after) : body ≠ .none := by
  rintro rfl
  cases h with
  | told _ hbody =>
    rcases hbody with ⟨status, hbody⟩ | hbody
    · exact nomatch hbody
    · exact nomatch hbody

/-- The response is `state_accepted` exactly for the updates that the domain accepts or finds
stale. -/
theorem Executed.stateAccepted_iff {control after : Control} {clientId : UInt32}
    {command : Command} {body : ResponseBody} (h : Executed control clientId command body after) :
    (∃ sequence, body = .stateAccepted sequence) ↔
      command.type = .setState ∧ commandOwnerMatchesClient command clientId = true ∧
        ((control.app.setState clientId command.state command.sequence).1 = .ok ∨
          (control.app.setState clientId command.state command.sequence).1 = .staleSequence) := by
  cases h with
  | refused code message htype =>
    constructor
    · rintro ⟨_, hbody⟩
      cases hbody
    · exact fun h => absurd h.1 htype
  | told htype hbody =>
    constructor
    · rintro ⟨_, haccepted⟩
      rcases hbody with ⟨status, rfl⟩ | rfl
      · cases haccepted
      · cases haccepted
    · exact fun h => absurd h.1 htype
  | acquired htype ho =>
    constructor
    · rintro ⟨_, hbody⟩
      cases hbody
    · rintro ⟨hset, -⟩
      simp [htype] at hset
  | released htype hadm =>
    constructor
    · rintro ⟨_, hbody⟩
      cases hbody
    · rintro ⟨hset, -⟩
      simp [htype] at hset
  | rejected message htype hno =>
    constructor
    · rintro ⟨_, hbody⟩
      cases hbody
    · rintro ⟨-, hmatch, hresult⟩
      have hheld : ¬ control.app.lease.HeldBy clientId := fun hheld =>
        hno ⟨(ownerMatches_iff clientId command).1 hmatch, hheld⟩
      rw [setState_of_not_heldBy hheld] at hresult
      rcases hresult with hresult | hresult
      · cases hresult
      · cases hresult
  | stale htype hadm hseq =>
    refine ⟨fun _ => ⟨htype, (ownerMatches_iff clientId command).2 hadm.1, .inr ?_⟩,
      fun _ => ⟨_, rfl⟩⟩
    rw [setState_of_stale hadm.2 command.state hseq]
  | stored htype hadm hseq =>
    refine ⟨fun _ => ⟨htype, (ownerMatches_iff clientId command).2 hadm.1, .inl ?_⟩,
      fun _ => ⟨_, rfl⟩⟩
    rw [setState_of_accepted hadm.2 command.state hseq]

section Typed

variable [Platform] (control : Control) (clientId : UInt32) (line : List UInt8)

/-- The response to a line bears the request id of the line. -/
theorem typedResponse_bears :
    Bears (decodedRequestId line) (typedResponse control clientId line) := by
  have hlabel := decodeCommand_labelled line
  unfold typedResponse
  cases hdecode : decodeCommand line with
  | error e =>
    rw [hdecode] at hlabel
    refine ⟨hlabel.1, fun code message hbody => ?_⟩
    obtain ⟨-, rfl⟩ := ResponseBody.error.inj hbody
    exact hlabel.2
  | ok command =>
    rw [hdecode] at hlabel
    have hid : command.requestId.map (copyText jsonStringMax) = decodedRequestId line := by
      rw [show command.requestId = decodedRequestId line from hlabel]
      exact map_copyText fun _ => decodedRequestId_shortRaw
    rw [← hid]
    exact executeCommand_bears control clientId command

theorem typedResponse_short : (typedResponse control clientId line).Short := by
  obtain ⟨hid, hmessage⟩ := typedResponse_bears control clientId line
  exact ⟨fun id h => (decodedRequestId_shortRaw (hid.symm.trans h)).1,
    fun code message h => (hmessage code message h).1⟩

theorem typedResponse_raw : (typedResponse control clientId line).Raw := by
  obtain ⟨hid, hmessage⟩ := typedResponse_bears control clientId line
  exact ⟨fun id h => (decodedRequestId_shortRaw (hid.symm.trans h)).2,
    fun code message h => (hmessage code message h).2⟩

theorem handleLine_eq {responseSize : Nat} (hsize : responseSize ≠ 0) :
    (handleLine control clientId line responseSize).1 =
      encodeResponse (typedResponse control clientId line) responseSize := by
  unfold handleLine typedResponse
  rw [if_neg hsize]
  cases decodeCommand line <;> rfl

theorem silent_iff_unanswered :
    (typedResponse control clientId line).Silent ↔ Unanswered control clientId line := by
  unfold typedResponse
  cases hdecode : decodeCommand line with
  | error e =>
    constructor
    · rintro (hbody | ⟨-, sequence, hbody⟩)
      · exact nomatch hbody
      · exact nomatch hbody
    · rintro ⟨command, hcommand, -⟩
      rw [hdecode] at hcommand
      cases hcommand
  | ok command =>
    have hid : (executeCommand control clientId command).1.requestId =
        command.requestId.map (copyText jsonStringMax) :=
      (executeCommand_bears control clientId command).1
    have haccepted := (executed control clientId command).stateAccepted_iff
    constructor
    · rintro (hbody | ⟨hnone, hbody⟩)
      · exact absurd hbody (executed control clientId command).ne_none
      · rw [hid, Option.map_eq_none_iff] at hnone
        obtain ⟨htype, hmatch, hresult⟩ := haccepted.1 hbody
        exact ⟨command, hdecode, htype, hnone, hmatch, hresult⟩
    · rintro ⟨c, hc, htype, hnone, hmatch, hresult⟩
      obtain rfl : command = c := Except.ok.inj (hdecode.symm.trans hc)
      refine .inr ⟨?_, haccepted.2 ⟨htype, hmatch, hresult⟩⟩
      rw [hid, hnone]
      rfl

end Typed

/-! ## Every line is answered -/

section Texts

variable [Platform] {response : Response}

theorem find_requestId (response : Response) :
    Written.find? (bytes "request_id") (versionField :: response.fields) =
    response.requestId.map Written.Value.string := by
  obtain ⟨requestId, body⟩ := response
  cases requestId with
  | some id => rfl
  | none => cases body <;> rfl

/-- What the reader of the daemon finds as the request id of a response. -/
theorem parseRequestId_text (hversion : ∀ b ∈ Platform.versionString, PlainByte b)
    (hraw : response.Raw) (hshort : response.Short) :
    parseRequestId response.text = some response.requestId := by
  have hlegal := fields_legal hversion hraw
  have hfind := find_requestId response
  unfold parseRequestId Response.text
  cases hid : response.requestId with
  | none =>
    rw [hid] at hfind
    rw [getString_written_absent versionField_legal hlegal _ hfind]
  | some id =>
    rw [hid] at hfind
    rw [getString_written versionField_legal hlegal _ hfind (plain_of_raw (hraw.requestId id hid))
      (hshort.requestId id hid)]

/-- The text of a response is one line. -/
theorem text_one_line (hversion : ∀ b ∈ Platform.versionString, PlainByte b)
    (hraw : response.Raw) :
    ∃ body, response.text = body ++ [0x0A] ∧ (0x0A : UInt8) ∉ body := by
  have hbody := newline_not_mem_body versionField_legal (fields_legal hversion hraw)
  refine ⟨0x7B :: (bodyBytes versionField response.fields ++ [0x7D]), ?_, ?_⟩
  · simp [Response.text]
  · simp [hbody]

theorem isCompleteObject_text (hlen : Platform.versionString.length ≤ 512)
    (hversion : ∀ b ∈ Platform.versionString, PlainByte b) (hraw : response.Raw)
    (hshort : response.Short) : isCompleteObject response.text = true := by
  have hlt := text_length_lt hlen hshort
  have hmax : jsonResponseMax = 2048 := rfl
  have hline : jsonLineMax = 8192 := rfl
  simp only [Response.text, List.length_cons, List.length_append, List.length_nil] at hlt
  refine isCompleteObject_written versionField_legal (fields_legal hversion hraw) _ (by omega) ?_
  intro b hb
  rw [List.mem_singleton.1 hb]
  decide

/-- The response is silent, or its text is written. -/
theorem encodeResponse_cases (hlen : Platform.versionString.length ≤ 512) (hraw : response.Raw)
    (hshort : response.Short) :
    (response.Silent ∧ encodeResponse response jsonResponseMax = .ok []) ∨
    (¬ response.Silent ∧ encodeResponse response jsonResponseMax = .ok response.text) := by
  unfold encodeResponse
  rw [if_neg (by decide), if_neg (by simp [hraw.textsRaw])]
  by_cases hsilent : response.Silent
  · exact .inl ⟨hsilent, encodeBody_of_silent _ _ hsilent⟩
  · refine .inr ⟨hsilent, ?_⟩
    rw [encodeBody_of_not_silent _ _ hsilent, jsonWrite,
      if_neg (Nat.not_le.2 (text_length_lt hlen hshort))]

end Texts

/-- **Every line is answered.** Whatever a client sends, in whatever state the daemon is, the
response fits in the buffer of the daemon. It is empty exactly for an update without request id
that is accepted or stale. Otherwise it is one line, which the completeness check takes and in which
the reader of the daemon finds the request id of the line, if that was decoded. The scanners hand on
only what remains of the line. -/
theorem handleLine_answers [Platform] (hlen : Platform.versionString.length ≤ 512)
    (hversion : ∀ b ∈ Platform.versionString, PlainByte b) (control : Control)
    (clientId : UInt32) (line : List UInt8) :
    (∃ text, (handleLine control clientId line jsonResponseMax).1 = .ok text ∧
      (text = [] ↔ Unanswered control clientId line) ∧
      (text ≠ [] →
        (∃ body, text = body ++ [0x0A] ∧ (0x0A : UInt8) ∉ body) ∧
        isCompleteObject text = true ∧
        parseRequestId text = some (decodedRequestId line))) ∧
    (∀ s rest, completeLoop s line = some rest → rest <:+ line) ∧
    (∀ key rest, findKeyValue line key = some rest → rest <:+ line) ∧
    (∀ value n text rest, value <:+ line → readStringLoop n 0 value = some (text, rest) →
      rest <:+ line) ∧
    (∀ value r, value <:+ line → strtoll value = some r → r.rest <:+ line) := by
  have hraw := typedResponse_raw control clientId line
  have hshort := typedResponse_short control clientId line
  have hid := (typedResponse_bears control clientId line).1
  have hsilent := silent_iff_unanswered control clientId line
  refine ⟨?_, fun s rest h => completeLoop_suffix h, fun key rest h => findLoop_suffix h,
    fun value n text rest hv h => (readStringLoop_some h).2.2.trans hv,
    fun value r hv h => (strtoll_suffix h).trans hv⟩
  rw [handleLine_eq control clientId line (by decide)]
  rcases encodeResponse_cases hlen hraw hshort with ⟨hs, htext⟩ | ⟨hs, htext⟩
  · exact ⟨[], htext, ⟨fun _ => hsilent.1 hs, fun _ => rfl⟩, fun h => absurd rfl h⟩
  · refine ⟨_, htext, ⟨fun h => ?_, fun h => absurd (hsilent.2 h) hs⟩, fun _ => ⟨?_, ?_, ?_⟩⟩
    · exact absurd h (by simp [Response.text])
    · exact text_one_line hversion hraw
    · exact isCompleteObject_text hlen hversion hraw hshort
    · rw [parseRequestId_text hversion hraw hshort, hid]

/-- A `hello` to a daemon with the version text of the sources. -/
theorem handleLine_answers_hello :
    (@Platform.versionString Platform.lp64).length ≤ 512 ∧
    ∃ text, (@handleLine Platform.lp64 (Control.init (initWith Spi.init) none) 1
      (bytes "\x7b\"v\":1,\"type\":\"hello\",\"request_id\":\"a\"\x7d") jsonResponseMax).1 =
        .ok text := by
  refine ⟨by decide, ?_⟩
  obtain ⟨⟨text, htext, -⟩, -⟩ := @handleLine_answers Platform.lp64 (by decide)
    (plain_of_raw (by decide)) (Control.init (initWith Spi.init) none) 1
    (bytes "\x7b\"v\":1,\"type\":\"hello\",\"request_id\":\"a\"\x7d")
  exact ⟨text, htext⟩

end Swbt.Ipc
