import SwbtDaemon.Client.Proofs.DebugClientProofs
import SwbtDaemon.Ipc.Proofs.ReadBackProofs

/-!
# From the debug client to the daemon

The daemon decodes the `set_state` line of the client to what the client was told, unless the
sequence needs the sixty-fourth bit: the client takes sequences up to `2 ^ 64 - 1`, and the daemon
reads a signed number.
-/

namespace Swbt.DebugClient

open CString Json Written Ipc

/-! ## The line -/

/-- The members of the request after the version. -/
def requestRest (clientId : UInt32) (state : State) (sequence : UInt64) : List Member :=
  [stringField "type" (bytes "set_state"), stringField "owner_id" (formatOwnerId clientId),
    bareField "seq" (printUnsigned sequence.toNat), stringField "request_id" (bytes "s1"),
    stateField state]

/-- The line of the request. -/
def requestLine (clientId : UInt32) (state : State) (sequence : UInt64) : List UInt8 :=
  0x7B :: (bodyBytes versionField (requestRest clientId state sequence) ++ 0x7D :: [0x0A])

section Line

variable (clientId : UInt32) (state : State) (sequence : UInt64)

theorem requestRest_legal : ∀ m ∈ requestRest clientId state sequence, m.Legal := by
  refine List.forall_mem_cons.2 ⟨legal_stringField (by decide) (plain_of_raw (by decide)), ?_⟩
  refine List.forall_mem_cons.2 ⟨legal_stringField (by decide) (plain_formatOwnerId _), ?_⟩
  refine List.forall_mem_cons.2 ⟨legal_bareField (by decide) (legal_printUnsigned _), ?_⟩
  refine List.forall_mem_cons.2 ⟨legal_stringField (by decide) (plain_of_raw (by decide)), ?_⟩
  exact List.forall_mem_cons.2 ⟨stateField_legal state, forall_mem_nil⟩

theorem requestBody_length :
    (bodyBytes versionField (requestRest clientId state sequence)).length ≤ 400 := by
  have hsequence := printUnsigned_uint64 sequence
  have hstate := stateField_length state
  simp only [bodyBytes, requestRest, versionField, List.length_append, moreBytes_length_cons,
    moreBytes_length_nil, stringField_length, bareField_length, formatOwnerId_length]
  simp only [bytes, List.length_map, String.reduceToList, List.length_cons, List.length_nil]
  omega

theorem requestMembers_eq :
    requestRest clientId state sequence =
      [stringField "type" (bytes "set_state"), stringField "owner_id" (formatOwnerId clientId),
        bareField "seq" (printUnsigned sequence.toNat), stringField "request_id" (bytes "s1")] ++
      [stateField state] := rfl

/-- What the format string of the client prints. -/
theorem requestText_eq :
    bytes "\x7b\"v\":1,\"type\":\"set_state\",\"owner_id\":\"" ++ formatOwnerId clientId ++
    bytes "\",\"seq\":" ++ printUnsigned sequence.toNat ++
    bytes ",\"request_id\":\"s1\",\"state\":\x7b\"buttons\":" ++
      printUnsigned state.buttons.toNat ++
    bytes ",\"lx\":" ++ printUnsigned state.lx.toNat ++
    bytes ",\"ly\":" ++ printUnsigned state.ly.toNat ++
    bytes ",\"rx\":" ++ printUnsigned state.rx.toNat ++
    bytes ",\"ry\":" ++ printUnsigned state.ry.toNat ++
    bytes ",\"accel_x\":" ++ printSigned state.accelX.toInt ++
    bytes ",\"accel_y\":" ++ printSigned state.accelY.toInt ++
    bytes ",\"accel_z\":" ++ printSigned state.accelZ.toInt ++
    bytes ",\"gyro_x\":" ++ printSigned state.gyroX.toInt ++
    bytes ",\"gyro_y\":" ++ printSigned state.gyroY.toInt ++
    bytes ",\"gyro_z\":" ++ printSigned state.gyroZ.toInt ++
    bytes "\x7d\x7d\n" = requestLine clientId state sequence := by
  have hopen : bytes ",\"request_id\":\"s1\",\"state\":\x7b\"buttons\":" =
      bytes ",\"request_id\":\"s1\"" ++ bytes ",\"state\":\x7b\"buttons\":" := rfl
  have hclose : bytes "\x7d\x7d\n" = bytes "\x7d" ++ bytes "\x7d\n" := rfl
  have hstate := statusState_eq state
  unfold statusState at hstate
  rw [requestLine, bodyBytes, requestMembers_eq, moreBytes_append, ← hstate, hopen, hclose]
  simp only [List.append_assoc]
  rw [versionField, bareField_bytes_append]
  simp only [moreBytes_cons_append, moreBytes_nil_append, stringField_bytes_append,
    bareField_bytes_append]
  rfl

/-- The client sends this line, and it fits in its buffer. -/
theorem ioSendSetState_eq :
    ioSendSetState (formatOwnerId clientId) state sequence =
      some (requestLine clientId state sequence) := by
  have hlength : ¬ (requestLine clientId state sequence).length ≥ jsonLineMax := by
    have hbody := requestBody_length clientId state sequence
    simp only [requestLine, List.length_cons, List.length_append, List.length_nil, jsonLineMax]
    omega
  unfold ioSendSetState
  rw [requestText_eq, ioSendFormat, if_neg hlength]

/-! ## Decoding the line -/

/-- The state object in the line. -/
theorem findKeyValue_requestLine :
    ∃ after, findKeyValue (requestLine clientId state sequence) (bytes "state") =
      some (0x7B :: (bodyBytes (bareField "buttons" (printUnsigned state.buttons.toNat))
        (stateRest state) ++ 0x7D :: after)) :=
  findKeyValue_nested versionField_legal (requestRest_legal clientId state sequence) [0x0A] rfl

/-- A sequence is read back when it is below `2 ^ 63`. -/
theorem parseSequence_requestLine :
    parseSequence (requestLine clientId state sequence) =
      if sequence.toNat < 2 ^ 63 then some sequence else none := by
  have hread : getI64 (requestLine clientId state sequence) (bytes "seq") =
      if sequence.toNat ≤ 2 ^ 63 - 1 then .value (sequence.toNat : Int) else .invalid :=
    getI64_written versionField_legal (requestRest_legal clientId state sequence) [0x0A] rfl
  rw [parseSequence, hread]
  by_cases hsequence : sequence.toNat < 2 ^ 63
  · rw [if_pos (by omega), if_pos hsequence]
    change (if (sequence.toNat : Int) < 0 then none
      else some (sequence.toNat : Int).toNat.toUInt64) = _
    rw [if_neg (by omega), Int.toNat_natCast, Nat.toUInt64, UInt64.ofNat_toNat]
  · rw [if_neg (by omega), if_neg hsequence]

variable {state} in
theorem parseState_requestLine (hstate : state.Reportable) :
    parseState (requestLine clientId state sequence) =
      if sequence.toNat < 2 ^ 63 then some (state, sequence) else none := by
  obtain ⟨after, hfind⟩ := findKeyValue_requestLine clientId state sequence
  have hfields := parseStateFields_of_carries (carries_printed state after) hstate
  unfold parseState
  rw [hfind]
  change (parseStateFields _ >>= fun state' =>
    parseSequence _ >>= fun sequence' => some (state', sequence')) = _
  rw [hfields, parseSequence_requestLine]
  by_cases hsequence : sequence.toNat < 2 ^ 63
  · rw [if_pos hsequence, if_pos hsequence]
    rfl
  · rw [if_neg hsequence, if_neg hsequence]
    rfl

theorem decodeType_setState [Platform] (line : List UInt8) (requestId : Option (List UInt8)) :
    decodeType line requestId (bytes "set_state") =
      match parseState line with
      | none => .error (setError requestId .invalidState "state field is invalid")
      | some (state, sequence) =>
        .ok ⟨.setState, requestId.map (copyText jsonStringMax), decodeOwnerId line, sequence,
          state⟩ := rfl

variable {state} in
/-- What the daemon decodes from the line of the client. -/
theorem decodeCommand_requestLine [Platform] (hstate : state.Reportable) :
    decodeCommand (requestLine clientId state sequence) =
      if sequence.toNat < 2 ^ 63 then
        .ok ⟨.setState, some (bytes "s1"), some clientId, sequence, state⟩
      else .error (setError (some (bytes "s1")) .invalidState "state field is invalid") := by
  have hlegal := requestRest_legal clientId state sequence
  have hlength := requestBody_length clientId state sequence
  have hcomplete : isCompleteObject (requestLine clientId state sequence) = true := by
    refine isCompleteObject_written versionField_legal hlegal [0x0A] ?_ (by simp [isspace])
    simp only [jsonLineMax]
    omega
  have hid : parseRequestId (requestLine clientId state sequence) = some (some (bytes "s1")) := by
    have hread : getString (requestLine clientId state sequence) (bytes "request_id")
        jsonStringMax = .value (bytes "s1") :=
      getString_written versionField_legal hlegal [0x0A] rfl (plain_of_raw (by decide)) (by decide)
    rw [parseRequestId, hread]
  have hversion : getI64 (requestLine clientId state sequence) (bytes "v") = .value 1 :=
    getI64_written versionField_legal hlegal [0x0A] (n := 1) rfl
  have htype : getString (requestLine clientId state sequence) (bytes "type") jsonStringMax =
      .value (bytes "set_state") :=
    getString_written versionField_legal hlegal [0x0A] rfl (plain_of_raw (by decide)) (by decide)
  have howner : decodeOwnerId (requestLine clientId state sequence) = some clientId := by
    have hread : getString (requestLine clientId state sequence) (bytes "owner_id")
        jsonStringMax = .value (formatOwnerId clientId) :=
      getString_written versionField_legal hlegal [0x0A] rfl (plain_formatOwnerId clientId)
        (by rw [formatOwnerId_length]; decide)
    rw [decodeOwnerId, hread]
    exact parseOwnerId_formatOwnerId clientId
  unfold decodeCommand
  rw [hcomplete, hid]
  dsimp only
  rw [hversion, if_neg (by simp), if_neg (by simp), htype]
  dsimp only
  rw [decodeType_setState, parseState_requestLine clientId sequence hstate, howner]
  by_cases hsequence : sequence.toNat < 2 ^ 63
  · rw [if_pos hsequence, if_pos hsequence]
    rfl
  · rw [if_neg hsequence, if_neg hsequence]

end Line

/-! ## The round trip -/

/-- The last `--seq` of the command line, if there is one, has a value below `2 ^ 63`. -/
def SequenceFits (argv : List (List UInt8)) : Prop :=
  ∀ text n, lastSeq argv.tail = some text → parseU64 text 0xFFFFFFFFFFFFFFFF = some n → n < 2 ^ 63

theorem sequence_lt_iff {argv : List (List UInt8)} {config : Config}
    (h : parseArgs argv = .ok config) : config.sequence.toNat < 2 ^ 63 ↔ SequenceFits argv := by
  obtain ⟨-, hsequence⟩ := parseArgs_ok h
  rw [hsequence, sequenceAfter, SequenceFits]
  cases lastSeq argv.tail with
  | none => exact ⟨fun _ text n htext => absurd htext (by simp), fun _ => by decide⟩
  | some text =>
    dsimp only
    cases hparse : parseU64 text 0xFFFFFFFFFFFFFFFF with
    | none =>
      refine ⟨?_, fun _ => by decide⟩
      intro _ text' n htext hn
      rw [← Option.some.inj htext, hparse] at hn
      exact absurd hn (by simp)
    | some n =>
      have hle := parseU64_le hparse
      have hvalue : ((some n).getD 0).toUInt64.toNat = n := by
        rw [Option.getD_some, Nat.toUInt64, UInt64.toNat_ofNat', Nat.mod_eq_of_lt (by omega)]
      rw [hvalue]
      refine ⟨?_, fun hfits => hfits text n rfl hparse⟩
      intro hlt text' n' htext hn
      rw [← Option.some.inj htext, hparse] at hn
      exact Option.some.inj hn ▸ hlt

/-- The daemon decodes the `set_state` line of an accepted command line to exactly the state, the
sequence and the owner of the client if and only if the sequence is below `2 ^ 63`. -/
theorem setState_decoded_iff [Platform] (argv : List (List UInt8)) (config : Config)
    (hargs : parseArgs argv = .ok config) (clientId : UInt32) :
    (∃ line, ioSendSetState (formatOwnerId clientId) config.state config.sequence = some line ∧
      decodeCommand line =
        .ok ⟨.setState, some (bytes "s1"), some clientId, config.sequence, config.state⟩) ↔
    SequenceFits argv := by
  obtain ⟨hstate, -⟩ := parseArgs_ok hargs
  rw [← sequence_lt_iff hargs, ioSendSetState_eq]
  constructor
  · rintro ⟨line, hline, hdecode⟩
    obtain rfl := Option.some.inj hline
    rw [decodeCommand_requestLine clientId config.sequence hstate] at hdecode
    by_contra hsequence
    rw [if_neg hsequence] at hdecode
    exact absurd hdecode (by simp)
  · intro hsequence
    refine ⟨_, rfl, ?_⟩
    rw [decodeCommand_requestLine clientId config.sequence hstate, if_pos hsequence]

/-- A command line with the given sequence. -/
def commandLine (seq : String) : List (List UInt8) :=
  [bytes "swbt-debug-client", bytes "--port", bytes "1", bytes "--button", bytes "a", bytes "--seq",
    bytes seq]

theorem setState_decoded_iff_maximum :
    let _ : Platform := Platform.lp64
    ∃ config, parseArgs (commandLine "0x7fffffffffffffff") = .ok config ∧
      ∃ line, ioSendSetState (formatOwnerId 1) config.state config.sequence = some line ∧
        decodeCommand line =
          .ok ⟨.setState, some (bytes "s1"), some 1, 0x7FFFFFFFFFFFFFFF, config.state⟩ := by
  let _ : Platform := Platform.lp64
  have hargs : parseArgs (commandLine "0x7fffffffffffffff") =
      .ok ⟨1, { State.neutral with buttons := 8 }, 0x7FFFFFFFFFFFFFFF, 0, false⟩ := by
    decide +kernel
  have hfits : SequenceFits (commandLine "0x7fffffffffffffff") :=
    (sequence_lt_iff hargs).1 (by decide)
  exact ⟨_, hargs, (setState_decoded_iff _ _ hargs 1).2 hfits⟩

/-- The client accepts the sequence `2 ^ 63`, and the daemon answers its line with an error. -/
theorem setState_not_decoded :
    let _ : Platform := Platform.lp64
    ∃ config, parseArgs (commandLine "9223372036854775808") = .ok config ∧
      ∃ line, ioSendSetState (formatOwnerId 1) config.state config.sequence = some line ∧
        decodeCommand line ≠
          .ok ⟨.setState, some (bytes "s1"), some 1, config.sequence, config.state⟩ ∧
        decodeCommand line =
          .error (setError (some (bytes "s1")) .invalidState "state field is invalid") := by
  let _ : Platform := Platform.lp64
  have hargs : parseArgs (commandLine "9223372036854775808") =
      .ok ⟨1, { State.neutral with buttons := 8 }, 0x8000000000000000, 0, false⟩ := by
    decide +kernel
  have hdecode := decodeCommand_requestLine 1 0x8000000000000000 (parseArgs_ok hargs).1
  rw [if_neg (by decide)] at hdecode
  refine ⟨_, hargs, _, ioSendSetState_eq _ _ _, ?_, hdecode⟩
  rw [hdecode]
  simp

end Swbt.DebugClient
