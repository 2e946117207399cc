import SwbtDaemon.Ipc.Proofs.AnswerProofs
import SwbtDaemon.Lib.Search

/-!
# Proofs: searching a response

A client that looks for the type of a response by its text alone finds the type that the daemon
wrote, and no other: no text that comes from elsewhere looks like a `type` member.
-/

namespace Swbt.Ipc

open CString Json Written

theorem printed_stringField {avoid : List (List UInt8)} {name : String} {text : List UInt8}
    (hname : textCanBeWrittenRaw (bytes name) = true) (htext : ∀ b ∈ text, PlainByte b)
    (havoid : bytes name ∉ avoid) : Printed avoid (stringField name text) :=
  .string (plain_of_raw hname) htext havoid

theorem printed_bareField {avoid : List (List UInt8)} {name : String} {text : List UInt8}
    (hname : textCanBeWrittenRaw (bytes name) = true) (htext : (Written.Value.bare text).Legal) :
    Printed avoid (bareField name text) :=
  .bare (plain_of_raw hname) htext.2

theorem printed_objectField {avoid : List (List UInt8)} {name : String} {first : Member}
    {rest : List Member} (hname : textCanBeWrittenRaw (bytes name) = true)
    (hfirst : Printed avoid first) (hrest : ∀ m ∈ rest, Printed avoid m) :
    Printed avoid (objectField name first rest) :=
  .object (plain_of_raw hname) hfirst hrest

/-! ## The status -/

theorem daemonField_printed [Platform] (hversion : ∀ b ∈ Platform.versionString, PlainByte b)
    (daemon : DaemonStatus) : Printed [bytes "type"] (daemonField daemon) := by
  refine printed_objectField (by decide)
    (printed_bareField (by decide) (legal_printUnsigned _)) ?_
  refine List.forall_mem_cons.2 ⟨printed_stringField (by decide) hversion (by decide), ?_⟩
  refine List.forall_mem_cons.2
    ⟨printed_stringField (by decide) (plain_of_raw ?_) (by decide), ?_⟩
  · cases daemon.backend <;> decide
  refine List.forall_mem_cons.2
    ⟨printed_stringField (by decide) (plain_of_raw ?_) (by decide), ?_⟩
  · cases daemon.lifecycleState <;> decide
  refine List.forall_mem_cons.2
    ⟨printed_stringField (by decide) (plain_of_raw ?_) (by decide), List.forall_mem_nil _⟩
  cases daemon.hardwareApproval <;> decide

theorem metricsField_printed (metrics : Metrics.Snapshot) :
    Printed [bytes "type"] (metricsField metrics) := by
  refine printed_objectField (by decide)
    (printed_stringField (by decide) (plain_of_raw ?_) (by decide)) ?_
  · cases metrics.hardwareStatus <;> decide
  · repeat'
      first
      | exact List.forall_mem_nil _
      | refine List.forall_mem_cons.2 ⟨printed_bareField (by decide) (legal_printUnsigned _), ?_⟩

theorem hardwareField_printed (hardware : HardwareStatus) :
    Printed [bytes "type"] (hardwareField hardware) := by
  refine printed_objectField (by decide)
    (printed_stringField (by decide) (plain_hardwareChannelText _) (by decide)) ?_
  refine List.forall_mem_cons.2
    ⟨printed_stringField (by decide) (plain_hardwareChannelText _) (by decide), ?_⟩
  exact List.forall_mem_cons.2
    ⟨printed_stringField (by decide) (plain_hardwareChannelText _) (by decide),
      List.forall_mem_nil _⟩

theorem ownerField_printed (hasOwner : Bool) (ownerClientId : UInt32) (lastSequence : UInt64) :
    Printed [bytes "type"] (ownerField hasOwner ownerClientId lastSequence) := by
  refine printed_objectField (by decide) (printed_bareField (by decide) (legal_boolText _)) ?_
  refine List.forall_mem_cons.2
    ⟨printed_stringField (by decide) (plain_formatOwnerId _) (by decide), ?_⟩
  exact List.forall_mem_cons.2
    ⟨printed_bareField (by decide) (legal_printUnsigned _), List.forall_mem_nil _⟩

theorem stateField_printed (state : State) : Printed [bytes "type"] (stateField state) := by
  refine printed_objectField (by decide)
    (printed_bareField (by decide) (legal_printUnsigned _)) ?_
  repeat'
    first
    | exact List.forall_mem_nil _
    | refine List.forall_mem_cons.2 ⟨printed_bareField (by decide) (legal_printUnsigned _), ?_⟩
    | refine List.forall_mem_cons.2 ⟨printed_bareField (by decide) (legal_printSigned _), ?_⟩

theorem rumbleField_printed (rumble : RumbleState) : Printed [bytes "type"] (rumbleField rumble) := by
  refine printed_objectField (by decide) (printed_bareField (by decide) (legal_boolText _)) ?_
  refine List.forall_mem_cons.2 ⟨printed_bareField (by decide) (legal_printUnsigned _), ?_⟩
  exact List.forall_mem_cons.2
    ⟨printed_stringField (by decide) (plain_formatRumbleRaw _) (by decide),
      List.forall_mem_nil _⟩

/-! ## Any response -/

theorem plain_typeText (body : ResponseBody) : ∀ b ∈ bytes body.typeText, PlainByte b := by
  refine plain_of_raw ?_
  cases body <;> simp only [ResponseBody.typeText] <;> decide

theorem searchName_type : SearchName (bytes "type") :=
  ⟨by decide, by decide, by decide, by decide⟩

/-- The members of the head after the type. -/
theorem requestIdFields_printed {response : Response} (hraw : response.Raw) {name : List UInt8}
    (hname : bytes "request_id" ≠ name) :
    ∃ ids, headFields response.body.typeText response.requestId =
        stringField "type" (bytes response.body.typeText) :: ids ∧
      ∀ m ∈ ids, Printed [name] m := by
  refine ⟨_, rfl, ?_⟩
  cases hid : response.requestId with
  | none => exact List.forall_mem_nil _
  | some id =>
    refine List.forall_mem_cons.2 ⟨printed_stringField (by decide)
      (plain_of_raw (hraw.requestId id hid)) ?_, List.forall_mem_nil _⟩
    simpa using hname

section Response

variable [Platform] (hversion : ∀ b ∈ Platform.versionString, PlainByte b) {response : Response}
  (hraw : response.Raw)

include hversion hraw

/-- The members after the head have no string by the name `type`. -/
theorem bodyFields_printed : ∀ m ∈ response.body.fields, Printed [bytes "type"] m := by
  obtain ⟨requestId, body⟩ := response
  cases body with
  | none | released => exact List.forall_mem_nil _
  | helloOk clientId | acquired clientId =>
    exact List.forall_mem_cons.2
      ⟨printed_stringField (by decide) (plain_formatOwnerId clientId) (by decide),
        List.forall_mem_nil _⟩
  | stateAccepted sequence =>
    exact List.forall_mem_cons.2
      ⟨printed_bareField (by decide) (legal_printUnsigned _), List.forall_mem_nil _⟩
  | status snapshot =>
    refine List.forall_mem_cons.2 ⟨daemonField_printed hversion _, ?_⟩
    refine List.forall_mem_cons.2 ⟨metricsField_printed _, ?_⟩
    refine List.forall_mem_cons.2 ⟨hardwareField_printed _, ?_⟩
    refine List.forall_mem_cons.2 ⟨ownerField_printed _ _ _, ?_⟩
    refine List.forall_mem_cons.2 ⟨stateField_printed _, ?_⟩
    exact List.forall_mem_cons.2 ⟨rumbleField_printed _, List.forall_mem_nil _⟩
  | error code message =>
    have hcode : textCanBeWrittenRaw (bytes (errorCodeText code)) = true := by
      cases code <;> decide
    refine List.forall_mem_cons.2
      ⟨printed_stringField (by decide) (plain_of_raw hcode) (by decide), ?_⟩
    exact List.forall_mem_cons.2
      ⟨printed_stringField (by decide) (plain_of_raw (hraw.message code message rfl)) (by decide),
        List.forall_mem_nil _⟩

/-- A response is one string. -/
theorem nul_not_mem_text : 0 ∉ response.text := by
  have hids : bytes "request_id" ≠ bytes "type" := by decide
  obtain ⟨ids, hhead, hprinted⟩ := requestIdFields_printed hraw hids
  have hbody : 0 ∉ bodyBytes versionField response.fields := by
    refine nul_not_mem_body (by decide) ?_
    rw [Response.fields, hhead]
    refine List.forall_mem_append.2 ⟨List.forall_mem_cons.2 ⟨?_, ?_⟩, ?_⟩
    · have htype : Printed [] (stringField "type" (bytes response.body.typeText)) :=
        printed_stringField (by decide) (plain_typeText _) List.not_mem_nil
      exact htype.nul_not_mem
    · exact fun m hm => (hprinted m hm).nul_not_mem
    · exact fun m hm => (bodyFields_printed hversion hraw m hm).nul_not_mem
  simp [Response.text, hbody]

/-- **Searching a response**: the text of a `type` member is found exactly when it is that of the
response. -/
theorem contains_type_iff {type : List UInt8} (htype : 0x22 ∉ type) :
    contains response.text (pattern (bytes "type") (type ++ [0x22])) = true ↔
      bytes response.body.typeText = type := by
  have hids : bytes "request_id" ≠ bytes "type" := by decide
  obtain ⟨ids, hhead, hprinted⟩ := requestIdFields_printed hraw hids
  have htypeText : 0x22 ∉ bytes response.body.typeText :=
    quote_not_mem_plain (plain_typeText _)
  by_cases heq : bytes response.body.typeText = type
  · refine ⟨fun _ => heq, fun _ => contains_iff.2 ?_⟩
    refine (pattern_isPrefixOf (bytes "type") type
      (moreBytes (ids ++ response.body.fields) ++ 0x7D :: [0x0A])).isInfix.trans ?_
    rw [Response.text, Response.fields, hhead, heq]
    exact ⟨0x7B :: (versionField.bytes ++ [0x2C]), [], by
      simp [bodyBytes, moreBytes, stringField]⟩
  · refine ⟨fun hfound => absurd hfound ?_, fun h => absurd h heq⟩
    have hnone : strstr response.text (pattern (bytes "type") (type ++ [0x22])) = none := by
      rw [Response.text, Response.fields, hhead]
      refine strstr_object (hides_bare searchName_type (by decide) (by decide)) ?_
      refine List.forall_mem_append.2 ⟨List.forall_mem_cons.2 ⟨?_, ?_⟩, ?_⟩
      · exact hides_string searchName_type htype (by decide) htypeText heq
      · exact fun m hm => (hprinted m hm).hides searchName_type List.mem_cons_self
      · exact fun m hm =>
          (bodyFields_printed hversion hraw m hm).hides searchName_type List.mem_cons_self
    rw [contains, hnone]
    exact Bool.false_ne_true

end Response

end Swbt.Ipc
