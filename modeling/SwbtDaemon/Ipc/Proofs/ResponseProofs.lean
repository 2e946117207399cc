import SwbtDaemon.Ipc.Fields
import SwbtDaemon.Ipc.Proofs.WrittenProofs

/-!
# Proofs: every request is answered

The text of a response is a printed object whose members are those of its type. From this follow
its length, that it stands on one line, that the completeness check takes it, and what the reader
of the daemon finds in it.
-/

namespace Swbt.Ipc

open CString Json Braces Written

/-! ## The format strings print these members -/

theorem moreBytes_append (xs ys : List Member) :
    moreBytes (xs ++ ys) = moreBytes xs ++ moreBytes ys := List.flatMap_append

section Print

variable (name : String) (text k : List UInt8) (rest : List Member)

theorem bareField_bytes_append :
    (bareField name text).bytes ++ k = 0x22 :: (bytes name ++ 0x22 :: 0x3A :: (text ++ k)) := by
  simp [bareField, Member.bytes, Written.Value.bytes]

theorem stringField_bytes_append :
    (stringField name text).bytes ++ k =
      0x22 :: (bytes name ++ 0x22 :: 0x3A :: 0x22 :: (text ++ 0x22 :: k)) := by
  simp [stringField, Member.bytes, Written.Value.bytes]

theorem moreBytes_cons_append (m : Member) :
    moreBytes (m :: rest) ++ k = 0x2C :: (m.bytes ++ (moreBytes rest ++ k)) := by
  simp [moreBytes]

theorem moreBytes_nil_append : moreBytes [] ++ k = k := rfl

theorem moreBytes_object (first : Member) :
    moreBytes [objectField name first rest] =
      0x2C :: 0x22 :: (bytes name ++ 0x22 :: 0x3A :: 0x7B ::
        (first.bytes ++ (moreBytes rest ++ [0x7D]))) := by
  simp [moreBytes, objectField, Member.bytes, Written.Value.bytes, bodyBytes]

theorem stringMember_eq : stringMember name text = moreBytes [stringField name text] := by
  have h := moreBytes_cons_append [] [] (stringField name text)
  rw [List.append_nil, stringField_bytes_append] at h
  rw [h]
  simp only [stringMember, List.append_assoc]
  rfl

theorem responseHead_eq (requestId : Option (List UInt8)) :
    responseHead name requestId =
      0x7B :: (versionField.bytes ++ moreBytes (headFields name requestId)) := by
  have htype : responseHead name none = 0x7B :: (versionField.bytes ++
      moreBytes [stringField "type" (bytes name)]) := by
    rw [← stringMember_eq, versionField, bareField_bytes_append]
    simp only [responseHead, stringMember, List.append_assoc, List.append_nil]
    rfl
  cases requestId with
  | none => exact htype
  | some id =>
    have hid : headFields name (some id) =
        [stringField "type" (bytes name)] ++ [stringField "request_id" id] := rfl
    have hhead : responseHead name (some id) =
        responseHead name none ++ stringMember "request_id" id := by
      simp only [responseHead, stringMember, List.append_assoc, List.append_nil]
      rfl
    rw [hhead, htype, hid, moreBytes_append, stringMember_eq]
    simp only [List.cons_append, List.append_assoc]

end Print

theorem statusDaemon_eq [Platform] (daemon : DaemonStatus) :
    statusDaemon daemon = moreBytes [daemonField daemon] := by
  unfold statusDaemon daemonField
  simp only [List.append_assoc]
  rw [moreBytes_object]
  simp only [bareField_bytes_append, moreBytes_cons_append, stringField_bytes_append,
    moreBytes_nil_append]
  rfl

set_option maxRecDepth 2000 in
theorem statusMetrics_eq (metrics : Metrics.Snapshot) :
    statusMetrics metrics = moreBytes [metricsField metrics] := by
  unfold statusMetrics metricsField
  simp only [List.append_assoc]
  rw [moreBytes_object]
  simp only [bareField_bytes_append, moreBytes_cons_append, stringField_bytes_append,
    moreBytes_nil_append]
  rfl

theorem statusHardware_eq (hardware : HardwareStatus) :
    statusHardware hardware = moreBytes [hardwareField hardware] := by
  unfold statusHardware hardwareField
  simp only [List.append_assoc]
  rw [moreBytes_object]
  simp only [moreBytes_cons_append, stringField_bytes_append, moreBytes_nil_append]
  rfl

theorem statusOwner_eq (hasOwner : Bool) (ownerClientId : UInt32) (lastSequence : UInt64) :
    statusOwner hasOwner ownerClientId lastSequence =
      moreBytes [ownerField hasOwner ownerClientId lastSequence] := by
  unfold statusOwner ownerField
  simp only [List.append_assoc]
  rw [moreBytes_object]
  simp only [bareField_bytes_append, moreBytes_cons_append, stringField_bytes_append,
    moreBytes_nil_append]
  rfl

theorem statusState_eq (state : State) : statusState state = moreBytes [stateField state] := by
  unfold statusState stateField stateRest
  simp only [List.append_assoc]
  rw [moreBytes_object]
  simp only [stickField, signedField, bareField_bytes_append, moreBytes_cons_append,
    moreBytes_nil_append]
  rfl

theorem statusRumble_eq (rumble : RumbleState) :
    statusRumble rumble = moreBytes [rumbleField rumble] := by
  unfold statusRumble rumbleField
  simp only [List.append_assoc]
  rw [moreBytes_object]
  simp only [bareField_bytes_append, moreBytes_cons_append, stringField_bytes_append,
    moreBytes_nil_append]
  rfl

theorem statusMembers_eq [Platform] (status : Domain.StatusSnapshot) :
    statusMembers status = moreBytes (statusFields status) := by
  unfold statusMembers
  rw [statusDaemon_eq, statusMetrics_eq, statusHardware_eq, statusOwner_eq, statusState_eq,
    statusRumble_eq]
  simp only [← moreBytes_append, List.cons_append, List.nil_append]
  rfl

/-- The text between the head and the end of a response, as the members of its body. -/
theorem head_more_tail (type : String) (requestId : Option (List UInt8)) (members : List Member) :
    responseHead type requestId ++ (moreBytes members ++ responseTail) =
      0x7B :: (bodyBytes versionField (headFields type requestId ++ members) ++
        0x7D :: [0x0A]) := by
  have htail : responseTail = 0x7D :: [0x0A] := rfl
  rw [responseHead_eq, bodyBytes, moreBytes_append, htail]
  simp only [List.cons_append, List.append_assoc]

theorem seqMember_eq (n : Nat) :
    bytes ",\"seq\":" ++ printUnsigned n = moreBytes [bareField "seq" (printUnsigned n)] := by
  have h := moreBytes_cons_append [] [] (bareField "seq" (printUnsigned n))
  rw [List.append_nil, bareField_bytes_append, moreBytes_nil_append, List.append_nil] at h
  rw [h]
  rfl

section Encoding

variable [Platform] (response : Response) (responseSize : Nat)

/-- A silent response has no text. -/
theorem encodeBody_of_silent (h : response.Silent) : encodeBody response responseSize = .ok [] := by
  obtain ⟨requestId, body⟩ := response
  rcases h with rfl | ⟨rfl, sequence, rfl⟩
  · rfl
  · rfl

/-- Any other response is written as the object of its members. -/
theorem encodeBody_of_not_silent (h : ¬ response.Silent) :
    encodeBody response responseSize = jsonWrite responseSize response.text := by
  obtain ⟨requestId, body⟩ := response
  have htext := fun type members => head_more_tail type requestId members
  cases body with
  | none => exact absurd (Or.inl rfl) h
  | helloOk clientId =>
    have heq := htext "hello_ok" [stringField "client_id" (formatOwnerId clientId)]
    rw [← stringMember_eq, ← List.append_assoc] at heq
    exact congrArg (jsonWrite responseSize) heq
  | acquired ownerClientId =>
    have heq := htext "acquired" [stringField "owner_id" (formatOwnerId ownerClientId)]
    rw [← stringMember_eq, ← List.append_assoc] at heq
    exact congrArg (jsonWrite responseSize) heq
  | released => exact congrArg (jsonWrite responseSize) (htext "released" [])
  | stateAccepted sequence =>
    cases requestId with
    | none => exact absurd (Or.inr ⟨rfl, sequence, rfl⟩) h
    | some id =>
      have heq := htext "state_accepted" [bareField "seq" (printUnsigned sequence.toNat)]
      rw [← seqMember_eq, List.append_assoc, ← List.append_assoc, ← List.append_assoc] at heq
      exact congrArg (jsonWrite responseSize) heq
  | status snapshot =>
    have heq := htext "status" (statusFields snapshot)
    rw [← statusMembers_eq, ← List.append_assoc] at heq
    exact congrArg (jsonWrite responseSize) heq
  | error errorCode errorMessage =>
    have heq := htext "error" ([stringField "code" (bytes (errorCodeText errorCode))] ++
      [stringField "message" errorMessage])
    rw [moreBytes_append, ← stringMember_eq, ← stringMember_eq, List.append_assoc,
      ← List.append_assoc, ← List.append_assoc] at heq
    exact congrArg (jsonWrite responseSize) heq

end Encoding

/-! ## The members are legal -/

theorem plain_of_raw {text : List UInt8} (h : textCanBeWrittenRaw text = true) :
    ∀ b ∈ text, PlainByte b := by
  intro b hb
  have hraw := List.all_eq_true.1 h b hb
  simp only [Bool.not_eq_true', Bool.or_eq_false_iff, beq_eq_false_iff_ne, ne_eq,
    decide_eq_false_iff_not] at hraw
  obtain ⟨⟨hquote, hback⟩, hlow⟩ := hraw
  exact ⟨UInt8.not_lt.1 hlow, hquote, hback⟩

theorem plain_hexDigit_nibble (n : Nat) : PlainByte (hexDigit (n &&& 0x0F)) := by
  have hlt : n &&& 0x0F < 16 := Nat.lt_of_le_of_lt Nat.and_le_right (by decide)
  generalize n &&& 0x0F = d at hlt
  unfold PlainByte
  revert d
  decide

theorem plain_formatOwnerId (clientId : UInt32) : ∀ b ∈ formatOwnerId clientId, PlainByte b := by
  intro b hb
  obtain ⟨index, -, rfl⟩ := List.mem_map.1 hb
  exact plain_hexDigit_nibble _

theorem plain_formatRumbleRaw (raw : Vector UInt8 rumbleDataSize) :
    ∀ b ∈ formatRumbleRaw raw, PlainByte b := by
  intro b hb
  obtain ⟨byte, -, hb⟩ := List.mem_flatMap.1 hb
  simp only [List.mem_cons, List.not_mem_nil, or_false] at hb
  rcases hb with rfl | rfl
  · exact plain_hexDigit_nibble _
  · exact plain_hexDigit_nibble _

section Legal

variable {name : String} {text : List UInt8}

theorem legal_stringField (hname : textCanBeWrittenRaw (bytes name) = true)
    (h : ∀ b ∈ text, PlainByte b) : (stringField name text).Legal :=
  ⟨plain_of_raw hname, h⟩

theorem legal_bareField (hname : textCanBeWrittenRaw (bytes name) = true)
    (h : (Written.Value.bare text).Legal) : (bareField name text).Legal :=
  ⟨plain_of_raw hname, h⟩

theorem legal_objectField (hname : textCanBeWrittenRaw (bytes name) = true) {first : Member}
    {rest : List Member} (hfirst : first.Legal) (h : ∀ m ∈ rest, m.Legal) :
    (objectField name first rest).Legal :=
  ⟨plain_of_raw hname, legal_object hfirst h⟩

theorem legal_boolText (b : Bool) : (Written.Value.bare (boolText b)).Legal := by
  cases b with
  | true => exact ⟨by decide, bare_true⟩
  | false => exact ⟨by decide, bare_false⟩

end Legal

theorem versionField_legal : versionField.Legal := by
  have hdigit : bytes "1" = printUnsigned 1 := by decide
  refine legal_bareField (by decide) ?_
  rw [hdigit]
  exact legal_printUnsigned 1

theorem forall_mem_nil {p : Member → Prop} : ∀ m ∈ ([] : List Member), p m := by simp

theorem daemonField_legal [Platform] (hversion : ∀ b ∈ Platform.versionString, PlainByte b)
    (daemon : DaemonStatus) : (daemonField daemon).Legal := by
  refine legal_objectField (by decide) (legal_bareField (by decide) (legal_printUnsigned _)) ?_
  refine List.forall_mem_cons.2 ⟨legal_stringField (by decide) hversion, ?_⟩
  refine List.forall_mem_cons.2 ⟨legal_stringField (by decide) (plain_of_raw ?_), ?_⟩
  · cases daemon.backend <;> decide
  refine List.forall_mem_cons.2 ⟨legal_stringField (by decide) (plain_of_raw ?_), ?_⟩
  · cases daemon.lifecycleState <;> decide
  refine List.forall_mem_cons.2 ⟨legal_stringField (by decide) (plain_of_raw ?_), forall_mem_nil⟩
  cases daemon.hardwareApproval <;> decide

theorem metricsField_legal (metrics : Metrics.Snapshot) : (metricsField metrics).Legal := by
  refine legal_objectField (by decide) (legal_stringField (by decide) (plain_of_raw ?_)) ?_
  · cases metrics.hardwareStatus <;> decide
  · repeat'
      first
      | exact forall_mem_nil
      | refine List.forall_mem_cons.2 ⟨legal_bareField (by decide) (legal_printUnsigned _), ?_⟩

theorem plain_hardwareChannelText (channel : HardwareChannel) :
    ∀ b ∈ bytes (hardwareChannelText channel), PlainByte b := by
  refine plain_of_raw ?_
  cases channel <;> decide

theorem hardwareField_legal (hardware : HardwareStatus) : (hardwareField hardware).Legal := by
  have hfield : ∀ {name : String} (channel : HardwareChannel),
      textCanBeWrittenRaw (bytes name) = true →
      (stringField name (bytes (hardwareChannelText channel))).Legal :=
    fun channel hname => legal_stringField hname (plain_hardwareChannelText channel)
  refine legal_objectField (by decide) (hfield _ (by decide)) ?_
  refine List.forall_mem_cons.2 ⟨hfield _ (by decide), ?_⟩
  exact List.forall_mem_cons.2 ⟨hfield _ (by decide), forall_mem_nil⟩

theorem ownerField_legal (hasOwner : Bool) (ownerClientId : UInt32) (lastSequence : UInt64) :
    (ownerField hasOwner ownerClientId lastSequence).Legal := by
  refine legal_objectField (by decide) (legal_bareField (by decide) (legal_boolText _)) ?_
  refine List.forall_mem_cons.2 ⟨legal_stringField (by decide) (plain_formatOwnerId _), ?_⟩
  exact List.forall_mem_cons.2
    ⟨legal_bareField (by decide) (legal_printUnsigned _), forall_mem_nil⟩

theorem stateRest_legal (state : State) : ∀ m ∈ stateRest state, m.Legal := by
  repeat'
    first
    | exact forall_mem_nil
    | refine List.forall_mem_cons.2 ⟨legal_bareField (by decide) (legal_printUnsigned _), ?_⟩
    | refine List.forall_mem_cons.2 ⟨legal_bareField (by decide) (legal_printSigned _), ?_⟩

theorem stateField_legal (state : State) : (stateField state).Legal :=
  legal_objectField (by decide) (legal_bareField (by decide) (legal_printUnsigned _))
    (stateRest_legal state)

theorem rumbleField_legal (rumble : RumbleState) : (rumbleField rumble).Legal := by
  refine legal_objectField (by decide) (legal_bareField (by decide) (legal_boolText _)) ?_
  refine List.forall_mem_cons.2 ⟨legal_bareField (by decide) (legal_printUnsigned _), ?_⟩
  exact List.forall_mem_cons.2
    ⟨legal_stringField (by decide) (plain_formatRumbleRaw _), forall_mem_nil⟩

/-- The texts of the response that come from outside can be written as they are. -/
structure Response.Raw (response : Response) : Prop where
  requestId : ∀ id, response.requestId = some id → textCanBeWrittenRaw id = true
  message : ∀ code message, response.body = .error code message →
    textCanBeWrittenRaw message = true

theorem Response.Raw.textsRaw {response : Response} (h : response.Raw) :
    responseTextsRaw response = true := by
  obtain ⟨requestId, body⟩ := response
  unfold responseTextsRaw
  rw [Bool.and_eq_true]
  constructor
  · cases requestId with
    | none => rfl
    | some id => exact h.requestId id rfl
  · cases body with
    | error code message => exact h.message code message rfl
    | _ => rfl

theorem headFields_legal {type : String} (htype : textCanBeWrittenRaw (bytes type) = true)
    {requestId : Option (List UInt8)}
    (h : ∀ id, requestId = some id → textCanBeWrittenRaw id = true) :
    ∀ m ∈ headFields type requestId, m.Legal := by
  refine List.forall_mem_cons.2 ⟨legal_stringField (by decide) (plain_of_raw htype), ?_⟩
  cases requestId with
  | none => exact forall_mem_nil
  | some id =>
    exact List.forall_mem_cons.2
      ⟨legal_stringField (by decide) (plain_of_raw (h id rfl)), forall_mem_nil⟩

theorem fields_legal [Platform] (hversion : ∀ b ∈ Platform.versionString, PlainByte b)
    {response : Response} (h : response.Raw) : ∀ m ∈ response.fields, m.Legal := by
  obtain ⟨requestId, body⟩ := response
  have htype : textCanBeWrittenRaw (bytes body.typeText) = true := by
    cases body <;> simp only [ResponseBody.typeText] <;> decide
  refine List.forall_mem_append.2 ⟨headFields_legal htype h.requestId, ?_⟩
  cases body with
  | none | released => exact forall_mem_nil
  | helloOk clientId | acquired clientId =>
    exact List.forall_mem_cons.2
      ⟨legal_stringField (by decide) (plain_formatOwnerId clientId), forall_mem_nil⟩
  | stateAccepted sequence =>
    exact List.forall_mem_cons.2
      ⟨legal_bareField (by decide) (legal_printUnsigned _), forall_mem_nil⟩
  | status snapshot =>
    refine List.forall_mem_cons.2 ⟨daemonField_legal hversion _, ?_⟩
    refine List.forall_mem_cons.2 ⟨metricsField_legal _, ?_⟩
    refine List.forall_mem_cons.2 ⟨hardwareField_legal _, ?_⟩
    refine List.forall_mem_cons.2 ⟨ownerField_legal _ _ _, ?_⟩
    refine List.forall_mem_cons.2 ⟨stateField_legal _, ?_⟩
    exact List.forall_mem_cons.2 ⟨rumbleField_legal _, forall_mem_nil⟩
  | error code message =>
    have hcode : textCanBeWrittenRaw (bytes (errorCodeText code)) = true := by
      cases code <;> decide
    refine List.forall_mem_cons.2 ⟨legal_stringField (by decide) (plain_of_raw hcode), ?_⟩
    exact List.forall_mem_cons.2
      ⟨legal_stringField (by decide) (plain_of_raw (h.message code message rfl)), forall_mem_nil⟩

/-! ## The length of a response -/

section Length

variable (name : String) (text : List UInt8) (m : Member) (rest : List Member)

theorem stringField_length :
    (stringField name text).bytes.length = (bytes name).length + text.length + 5 := by
  simp only [stringField, Member.bytes, Written.Value.bytes, List.length_cons, List.length_append,
    List.length_nil]
  omega

theorem bareField_length :
    (bareField name text).bytes.length = (bytes name).length + text.length + 3 := by
  simp only [bareField, Member.bytes, Written.Value.bytes, List.length_cons, List.length_append]
  omega

theorem moreBytes_length_cons :
    (moreBytes (m :: rest)).length = m.bytes.length + 1 + (moreBytes rest).length := by
  simp only [moreBytes, List.flatMap_cons, List.length_append, List.length_cons]

theorem moreBytes_length_nil : (moreBytes []).length = 0 := rfl

theorem objectField_length (first : Member) :
    (objectField name first rest).bytes.length =
      (bytes name).length + first.bytes.length + (moreBytes rest).length + 5 := by
  simp only [objectField, Member.bytes, Written.Value.bytes, bodyBytes, List.length_cons,
    List.length_append, List.length_nil]
  omega

end Length

theorem printUnsigned_uint64 (n : UInt64) : (printUnsigned n.toNat).length ≤ 20 :=
  printUnsigned_length_le (by decide) (Nat.lt_trans n.toNat_lt (by decide))

theorem printUnsigned_uint32 (n : UInt32) : (printUnsigned n.toNat).length ≤ 10 :=
  printUnsigned_length_le (by decide) (Nat.lt_trans n.toNat_lt (by decide))

theorem printUnsigned_uint16 (n : UInt16) : (printUnsigned n.toNat).length ≤ 5 :=
  printUnsigned_length_le (by decide) (Nat.lt_trans n.toNat_lt (by decide))

theorem printSigned_int16 (n : Int16) : (printSigned n.toInt).length ≤ 6 := by
  have hlow := n.le_toInt
  have hhigh := n.toInt_lt
  have habs : n.toInt.natAbs < 10 ^ 5 := by omega
  have hdigits := printUnsigned_length_le (k := 5) (by decide) habs
  unfold printSigned
  split
  · rw [List.length_cons]
    omega
  · omega

theorem formatOwnerId_length (clientId : UInt32) : (formatOwnerId clientId).length = 8 := by
  unfold formatOwnerId
  rw [List.length_map, List.length_range]
  rfl

theorem formatRumbleRaw_length (raw : Vector UInt8 rumbleDataSize) :
    (formatRumbleRaw raw).length = 16 := by
  have hraw : raw.toList.length = 8 := raw.length_toList
  have hpairs : ∀ bs : List UInt8, (bs.flatMap fun b =>
      [hexDigit ((b.toNat >>> 4) &&& 0x0F), hexDigit (b.toNat &&& 0x0F)]).length =
        2 * bs.length := by
    intro bs
    induction bs with
    | nil => rfl
    | cons b bs ih =>
      rw [List.flatMap_cons, List.length_append, ih]
      simp only [List.length_cons, List.length_nil]
      omega
  rw [formatRumbleRaw, hpairs, hraw]

theorem boolText_length (b : Bool) : (boolText b).length ≤ 5 := by cases b <;> decide

theorem metricsField_length (metrics : Metrics.Snapshot) :
    (metricsField metrics).bytes.length ≤ 483 := by
  have hstatus : (bytes (hardwareStatusText metrics.hardwareStatus)).length ≤ 11 := by
    cases metrics.hardwareStatus <;> decide
  have h₁ := printUnsigned_uint64 metrics.reportTicks
  have h₂ := printUnsigned_uint64 metrics.reportSendOk
  have h₃ := printUnsigned_uint64 metrics.reportSendFailed
  have h₄ := printUnsigned_uint64 metrics.reportIntervalAverageUs
  have h₅ := printUnsigned_uint64 metrics.reportIntervalMaxUs
  have h₆ := printUnsigned_uint64 metrics.ipcStateAccepted
  have h₇ := printUnsigned_uint64 metrics.ipcStateRejected
  have h₈ := printUnsigned_uint64 metrics.ipcStateCoalesced
  have h₉ := printUnsigned_uint32 metrics.actualReportRateHz
  have h₁₀ := printUnsigned_uint64 metrics.jitterMaxUs
  simp only [metricsField, objectField_length, moreBytes_length_cons, moreBytes_length_nil,
    stringField_length, bareField_length]
  generalize (bytes (hardwareStatusText metrics.hardwareStatus)).length = n at hstatus ⊢
  simp only [bytes, List.length_map, String.reduceToList, List.length_cons, List.length_nil]
  omega

theorem daemonField_length [Platform] (daemon : DaemonStatus) :
    (daemonField daemon).bytes.length ≤ 200 + Platform.versionString.length := by
  have h₁ : (bytes (daemonBackendText daemon.backend)).length ≤ 10 := by
    cases daemon.backend <;> decide
  have h₂ : (bytes (daemonLifecycleText daemon.lifecycleState)).length ≤ 11 := by
    cases daemon.lifecycleState <;> decide
  have h₃ : (bytes (hardwareApprovalText daemon.hardwareApproval)).length ≤ 11 := by
    cases daemon.hardwareApproval <;> decide
  have hversion : (printUnsigned protocolVersion).length = 1 := by decide
  simp only [daemonField, objectField_length, moreBytes_length_cons, moreBytes_length_nil,
    stringField_length, bareField_length, hversion]
  generalize (bytes (daemonBackendText daemon.backend)).length = a at h₁ ⊢
  generalize (bytes (daemonLifecycleText daemon.lifecycleState)).length = b at h₂ ⊢
  generalize (bytes (hardwareApprovalText daemon.hardwareApproval)).length = c at h₃ ⊢
  simp only [bytes, List.length_map, String.reduceToList, List.length_cons, List.length_nil]
  omega

theorem hardwareChannelText_length (channel : HardwareChannel) :
    (bytes (hardwareChannelText channel)).length ≤ 11 := by
  cases channel <;> decide

theorem hardwareField_length (hardware : HardwareStatus) :
    (hardwareField hardware).bytes.length ≤ 200 := by
  have h₁ := hardwareChannelText_length hardware.adapterState
  have h₂ := hardwareChannelText_length hardware.switchConnectionState
  have h₃ := hardwareChannelText_length hardware.hidChannelState
  simp only [hardwareField, objectField_length, moreBytes_length_cons, moreBytes_length_nil,
    stringField_length]
  generalize (bytes (hardwareChannelText hardware.adapterState)).length = a at h₁ ⊢
  generalize (bytes (hardwareChannelText hardware.switchConnectionState)).length = b at h₂ ⊢
  generalize (bytes (hardwareChannelText hardware.hidChannelState)).length = c at h₃ ⊢
  simp only [bytes, List.length_map, String.reduceToList, List.length_cons, List.length_nil]
  omega

theorem ownerField_length (hasOwner : Bool) (ownerClientId : UInt32) (lastSequence : UInt64) :
    (ownerField hasOwner ownerClientId lastSequence).bytes.length ≤ 100 := by
  have h₁ := boolText_length hasOwner
  have h₂ := printUnsigned_uint64 lastSequence
  simp only [ownerField, objectField_length, moreBytes_length_cons, moreBytes_length_nil,
    stringField_length, bareField_length, formatOwnerId_length]
  generalize (boolText hasOwner).length = a at h₁ ⊢
  simp only [bytes, List.length_map, String.reduceToList, List.length_cons, List.length_nil]
  omega

theorem stateField_length (state : State) : (stateField state).bytes.length ≤ 220 := by
  have hbuttons := printUnsigned_uint32 state.buttons
  have hlx := printUnsigned_uint16 state.lx
  have hly := printUnsigned_uint16 state.ly
  have hrx := printUnsigned_uint16 state.rx
  have hry := printUnsigned_uint16 state.ry
  have hax := printSigned_int16 state.accelX
  have hay := printSigned_int16 state.accelY
  have haz := printSigned_int16 state.accelZ
  have hgx := printSigned_int16 state.gyroX
  have hgy := printSigned_int16 state.gyroY
  have hgz := printSigned_int16 state.gyroZ
  simp only [stateField, stateRest, stickField, signedField, objectField_length,
    moreBytes_length_cons, moreBytes_length_nil, bareField_length]
  simp only [bytes, List.length_map, String.reduceToList, List.length_cons, List.length_nil]
  omega

theorem rumbleField_length (rumble : RumbleState) : (rumbleField rumble).bytes.length ≤ 120 := by
  have h₁ := boolText_length rumble.updated
  have h₂ := printUnsigned_uint64 rumble.updatedAtMs
  simp only [rumbleField, objectField_length, moreBytes_length_cons, moreBytes_length_nil,
    stringField_length, bareField_length, formatRumbleRaw_length]
  generalize (boolText rumble.updated).length = a at h₁ ⊢
  simp only [bytes, List.length_map, String.reduceToList, List.length_cons, List.length_nil]
  omega

/-- The texts of the response that come from outside fit in their buffers. -/
structure Response.Short (response : Response) : Prop where
  requestId : ∀ id, response.requestId = some id → id.length < jsonStringMax
  message : ∀ code message, response.body = .error code message → message.length < jsonStringMax

theorem headFields_length {type : String} (htype : (bytes type).length ≤ 14)
    {requestId : Option (List UInt8)} (h : ∀ id, requestId = some id → id.length < jsonStringMax) :
    (moreBytes (headFields type requestId)).length ≤ 136 := by
  have hmax : jsonStringMax = 96 := rfl
  cases requestId with
  | none =>
    simp only [headFields, moreBytes_length_cons, moreBytes_length_nil, stringField_length]
    generalize (bytes type).length = n at htype ⊢
    simp only [bytes, List.length_map, String.reduceToList, List.length_cons, List.length_nil]
    omega
  | some id =>
    have hid := h id rfl
    simp only [headFields, moreBytes_length_cons, moreBytes_length_nil, stringField_length]
    generalize (bytes type).length = n at htype ⊢
    simp only [bytes, List.length_map, String.reduceToList, List.length_cons, List.length_nil]
    omega

theorem bodyFields_length [Platform] (hversion : Platform.versionString.length ≤ 512)
    {response : Response} (h : response.Short) :
    (moreBytes response.body.fields).length ≤ 1841 := by
  obtain ⟨requestId, body⟩ := response
  have hmax : jsonStringMax = 96 := rfl
  cases body with
  | none | released => exact Nat.zero_le _
  | helloOk clientId | acquired clientId =>
    simp only [ResponseBody.fields, moreBytes_length_cons, moreBytes_length_nil,
      stringField_length, formatOwnerId_length]
    simp only [bytes, List.length_map, String.reduceToList, List.length_cons, List.length_nil]
    omega
  | stateAccepted sequence =>
    have hseq := printUnsigned_uint64 sequence
    simp only [ResponseBody.fields, moreBytes_length_cons, moreBytes_length_nil,
      bareField_length]
    simp only [bytes, List.length_map, String.reduceToList, List.length_cons, List.length_nil]
    omega
  | status snapshot =>
    have h₁ := daemonField_length snapshot.daemon
    have h₂ := metricsField_length snapshot.metrics
    have h₃ := hardwareField_length snapshot.hardware
    have h₄ := ownerField_length snapshot.hasOwner snapshot.ownerClientId snapshot.lastSequence
    have h₅ := stateField_length snapshot.state
    have h₆ := rumbleField_length snapshot.rumble
    simp only [ResponseBody.fields, statusFields, moreBytes_length_cons, moreBytes_length_nil]
    omega
  | error code message =>
    have hcode : (bytes (errorCodeText code)).length ≤ 19 := by cases code <;> decide
    have hmessage := h.message code message rfl
    simp only [ResponseBody.fields, moreBytes_length_cons, moreBytes_length_nil,
      stringField_length]
    generalize (bytes (errorCodeText code)).length = n at hcode ⊢
    simp only [bytes, List.length_map, String.reduceToList, List.length_cons, List.length_nil]
    omega

/-- Every response fits in the buffer of `jsonResponseMax` bytes. -/
theorem text_length_lt [Platform] (hversion : Platform.versionString.length ≤ 512)
    {response : Response} (h : response.Short) : response.text.length < jsonResponseMax := by
  have htype : (bytes response.body.typeText).length ≤ 14 := by
    cases response.body <;> simp only [ResponseBody.typeText] <;> decide
  have hhead := headFields_length htype h.requestId
  have hbody := bodyFields_length hversion h
  have hfirst : versionField.bytes.length = 5 := by decide
  have hmax : jsonResponseMax = 2048 := rfl
  simp only [Response.text, Response.fields, bodyBytes, moreBytes_append, List.length_cons,
    List.length_append, List.length_nil]
  omega

end Swbt.Ipc
