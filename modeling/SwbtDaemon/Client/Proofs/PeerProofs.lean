import SwbtDaemon.Client.Proofs.SessionProofs
import SwbtDaemon.Ipc.Proofs.SearchProofs

/-!
# Proofs: the requests of the client at the daemon

What the daemon decodes each line of a session to, and what the client receives for it.
-/

namespace Swbt.DebugClient

open CString Json Written Ipc

/-! ## Decoding the requests -/

/-- A request with the given members after the version. -/
def written (rest : List Member) : List UInt8 :=
  0x7B :: (bodyBytes versionField rest ++ 0x7D :: [0x0A])

/-- The members of a request with only strings. -/
def requestFields (type id : String) (between : List Member) : List Member :=
  stringField "type" (bytes type) :: (between ++ [stringField "request_id" (bytes id)])

theorem requestFields_legal {type id : String} {between : List Member}
    (htype : textCanBeWrittenRaw (bytes type) = true)
    (hid : textCanBeWrittenRaw (bytes id) = true) (h : ∀ m ∈ between, m.Legal) :
    ∀ m ∈ requestFields type id between, m.Legal := by
  refine List.forall_mem_cons.2 ⟨legal_stringField (by decide) (plain_of_raw htype), ?_⟩
  refine List.forall_mem_append.2 ⟨h, ?_⟩
  exact List.forall_mem_cons.2
    ⟨legal_stringField (by decide) (plain_of_raw hid), List.forall_mem_nil _⟩

theorem helloRequest_eq :
    helloRequest = written (requestFields "hello" "h1"
      [stringField "client_name" (bytes "swbt-debug-client")]) := by decide

theorem acquireRequest_eq :
    acquireRequest = written (requestFields "acquire" "a1"
      [stringField "mode" (bytes "exclusive")]) := by decide

theorem getStatusRequest_eq :
    getStatusRequest = written (requestFields "get_status" "g1" []) := by decide

theorem releaseText_eq (clientId : UInt32) :
    releaseText (formatOwnerId clientId) = written (requestFields "release" "r1"
      [stringField "owner_id" (formatOwnerId clientId)]) := by
  rw [releaseText, written, requestFields, bodyBytes, List.append_assoc, versionField,
    bareField_bytes_append]
  rfl

section Decode

variable [Platform]

/-- A request of this version is decoded by its type. -/
theorem decodeCommand_written {rest : List Member} (hlegal : ∀ m ∈ rest, m.Legal)
    (hlength : (bodyBytes versionField rest).length ≤ 400) {id type : List UInt8}
    (hid : Written.find? (bytes "request_id") (versionField :: rest) = some (.string id))
    (hidPlain : ∀ b ∈ id, PlainByte b) (hidShort : id.length < jsonStringMax)
    (htype : Written.find? (bytes "type") (versionField :: rest) = some (.string type))
    (htypePlain : ∀ b ∈ type, PlainByte b) (htypeShort : type.length < jsonStringMax)
    (hv : Written.find? (bytes "v") (versionField :: rest) = some (.bare (printUnsigned 1))) :
    decodeCommand (written rest) = decodeType (written rest) (some id) type := by
  have hcomplete : isCompleteObject (written rest) = true := by
    refine isCompleteObject_written versionField_legal hlegal [0x0A] ?_ (by simp [isspace])
    simp only [jsonLineMax]
    omega
  have hreadId : parseRequestId (written rest) = some (some id) := by
    have hread : getString (written rest) (bytes "request_id") jsonStringMax = .value id :=
      getString_written versionField_legal hlegal [0x0A] hid hidPlain hidShort
    rw [parseRequestId, hread]
  have hreadVersion : getI64 (written rest) (bytes "v") = .value 1 := by
    have hread : getI64 (written rest) (bytes "v") =
        if 1 ≤ 2 ^ 63 - 1 then .value ((1 : Nat) : Int) else .invalid :=
      getI64_written versionField_legal hlegal [0x0A] hv
    rw [hread, if_pos (by decide)]
    rfl
  have hreadType : getString (written rest) (bytes "type") jsonStringMax = .value type :=
    getString_written versionField_legal hlegal [0x0A] htype htypePlain htypeShort
  unfold decodeCommand
  rw [hcomplete, hreadId]
  dsimp only
  rw [hreadVersion, if_neg (by simp), if_neg (by simp), hreadType]

theorem decodeCommand_hello :
    decodeCommand helloRequest =
      .ok { Command.init with type := .hello, requestId := some (bytes "h1") } := by
  rw [helloRequest_eq, decodeCommand_written (requestFields_legal (by decide) (by decide)
    (List.forall_mem_cons.2 ⟨legal_stringField (by decide) (plain_of_raw (by decide)),
      List.forall_mem_nil _⟩)) (by decide) rfl (plain_of_raw (by decide)) (by decide) rfl
    (plain_of_raw (by decide)) (by decide) rfl]
  rfl

theorem decodeCommand_acquire :
    decodeCommand acquireRequest =
      .ok { Command.init with type := .acquire, requestId := some (bytes "a1") } := by
  rw [acquireRequest_eq, decodeCommand_written (requestFields_legal (by decide) (by decide)
    (List.forall_mem_cons.2 ⟨legal_stringField (by decide) (plain_of_raw (by decide)),
      List.forall_mem_nil _⟩)) (by decide) rfl (plain_of_raw (by decide)) (by decide) rfl
    (plain_of_raw (by decide)) (by decide) rfl]
  rfl

theorem decodeCommand_getStatus :
    decodeCommand getStatusRequest =
      .ok { Command.init with type := .getStatus, requestId := some (bytes "g1") } := by
  rw [getStatusRequest_eq, decodeCommand_written (requestFields_legal (by decide) (by decide)
    (List.forall_mem_nil _)) (by decide) rfl (plain_of_raw (by decide)) (by decide) rfl
    (plain_of_raw (by decide)) (by decide) rfl]
  rfl

theorem decodeCommand_release (clientId : UInt32) :
    decodeCommand (releaseText (formatOwnerId clientId)) =
      .ok { Command.init with
        type := .release
        requestId := some (bytes "r1")
        ownerClientId := some clientId } := by
  have hlegal : ∀ m ∈ requestFields "release" "r1"
      [stringField "owner_id" (formatOwnerId clientId)], m.Legal :=
    requestFields_legal (by decide) (by decide) (List.forall_mem_cons.2
      ⟨legal_stringField (by decide) (plain_formatOwnerId clientId), List.forall_mem_nil _⟩)
  have howner : decodeOwnerId (written (requestFields "release" "r1"
      [stringField "owner_id" (formatOwnerId clientId)])) = some clientId := by
    have hread : getString (written (requestFields "release" "r1"
        [stringField "owner_id" (formatOwnerId clientId)])) (bytes "owner_id") jsonStringMax =
          .value (formatOwnerId clientId) :=
      getString_written versionField_legal hlegal [0x0A] rfl (plain_formatOwnerId clientId)
        (by rw [formatOwnerId_length]; decide)
    rw [decodeOwnerId, hread]
    exact parseOwnerId_formatOwnerId clientId
  rw [releaseText_eq, decodeCommand_written hlegal ?_ rfl (plain_of_raw (by decide)) (by decide)
    rfl (plain_of_raw (by decide)) (by decide) rfl]
  · change Except.ok _ = Except.ok _
    rw [← howner]
    rfl
  · simp only [bodyBytes, requestFields, versionField, List.length_append, List.cons_append,
      List.nil_append, moreBytes_length_cons, moreBytes_length_nil, stringField_length,
      bareField_length, formatOwnerId_length]
    decide

end Decode

/-! ## What the client receives -/

theorem receiveResponse_line {bufferSize : Nat} {body : List UInt8} (h : newline ∉ body)
    (buffer : List UInt8) (hsize : buffer.length + body.length + 1 < bufferSize) :
    Peer.receiveResponse bufferSize buffer (body ++ [newline]) =
      (some (buffer ++ (body ++ [newline])), []) := by
  induction body generalizing buffer with
  | nil =>
    rw [List.nil_append, Peer.receiveResponse, if_neg (by simp only [List.length_nil] at hsize; omega),
      if_pos rfl]
  | cons b body ih =>
    obtain ⟨hb, hbody⟩ := not_or.1 (mt List.mem_cons.2 h)
    rw [List.length_cons] at hsize
    rw [List.cons_append, Peer.receiveResponse, if_neg (by omega), if_neg (Ne.symm hb),
      ih hbody (buffer ++ [b]) (by simp only [List.length_append, List.length_singleton]; omega)]
    simp

/-- One line that fits in the buffer is received whole. -/
theorem receiveResponse_text {bufferSize : Nat} {text : List UInt8}
    (h : ∃ body, text = body ++ [0x0A] ∧ 0x0A ∉ body) (hsize : text.length < bufferSize) :
    Peer.receiveResponse bufferSize [] text = (some text, []) := by
  obtain ⟨body, rfl, hbody⟩ := h
  rw [List.length_append, List.length_singleton] at hsize
  exact receiveResponse_line hbody [] (by rwa [List.length_nil, Nat.zero_add])

theorem ofArray_of_not_mem {text : List UInt8} (h : 0 ∉ text) : ofArray text = text := by
  unfold ofArray
  rw [List.takeWhile_eq_self_iff]
  intro b hb
  simpa using ne_of_mem_of_not_mem hb h

/-- A line without a terminator. -/
def IsRequest (line : List UInt8) : Prop := Lines.IsLine newline line ∧ 0 ∉ line

theorem isRequest_written {rest : List Member} (hlegal : ∀ m ∈ rest, m.Legal)
    (hnul : ∀ m ∈ rest, 0 ∉ m.bytes) : IsRequest (written rest) := by
  have hnewline := newline_not_mem_body versionField_legal hlegal
  have hbody : 0 ∉ bodyBytes versionField rest := nul_not_mem_body (by decide) hnul
  refine ⟨⟨0x7B :: (bodyBytes versionField rest ++ [0x7D]), ?_, ?_⟩, ?_⟩
  · simp [written, newline]
  · simp [newline, hnewline]
  · simp [written, hbody]

theorem isRequest_hello : IsRequest helloRequest :=
  ⟨⟨helloRequest.dropLast, by decide, by decide⟩, by decide⟩

theorem isRequest_acquire : IsRequest acquireRequest :=
  ⟨⟨acquireRequest.dropLast, by decide, by decide⟩, by decide⟩

theorem isRequest_getStatus : IsRequest getStatusRequest :=
  ⟨⟨getStatusRequest.dropLast, by decide, by decide⟩, by decide⟩

theorem isRequest_release (clientId : UInt32) :
    IsRequest (releaseText (formatOwnerId clientId)) := by
  have howner := plain_formatOwnerId clientId
  rw [releaseText_eq]
  refine isRequest_written (requestFields_legal (by decide) (by decide) (List.forall_mem_cons.2
    ⟨legal_stringField (by decide) howner, List.forall_mem_nil _⟩)) ?_
  have hfield : Printed [] (stringField "owner_id" (formatOwnerId clientId)) :=
    printed_stringField (by decide) howner List.not_mem_nil
  refine List.forall_mem_cons.2 ⟨by decide, ?_⟩
  exact List.forall_mem_cons.2 ⟨hfield.nul_not_mem, List.forall_mem_cons.2
    ⟨by decide, List.forall_mem_nil _⟩⟩

theorem isRequest_setState (clientId : UInt32) (state : State) (sequence : UInt64) :
    IsRequest (requestLine clientId state sequence) := by
  have hfield : Printed [] (stringField "owner_id" (formatOwnerId clientId)) :=
    printed_stringField (by decide) (plain_formatOwnerId clientId) List.not_mem_nil
  have hsequence : Printed [] (bareField "seq" (printUnsigned sequence.toNat)) :=
    printed_bareField (by decide) (legal_printUnsigned _)
  refine isRequest_written (requestRest_legal clientId state sequence) ?_
  refine List.forall_mem_cons.2 ⟨by decide, List.forall_mem_cons.2 ⟨hfield.nul_not_mem, ?_⟩⟩
  refine List.forall_mem_cons.2 ⟨hsequence.nul_not_mem, List.forall_mem_cons.2 ⟨by decide, ?_⟩⟩
  exact List.forall_mem_cons.2
    ⟨(stateField_printed state).nul_not_mem, List.forall_mem_nil _⟩

section Receive

variable [Platform] (peer : Peer) {line : List UInt8} (hline : IsRequest line)

include hline

/-- The daemon handles a request, and the client reads what there is. -/
theorem sendReceive_request :
    sendReceive Peer.io peer (some line) =
      (((Peer.receiveResponse jsonResponseMax [] (peer.interleave.handle line).unread).1.map
          ofArray),
        { peer.interleave.handle line with
          unread := (Peer.receiveResponse jsonResponseMax []
            (peer.interleave.handle line).unread).2 }) := by
  have hlines : Lines.completeLines newline line = [line] := by
    have happend := Lines.completeLines_line_append hline.1 []
    rwa [List.append_nil, Lines.completeLines_of_not_mem List.not_mem_nil] at happend
  unfold sendReceive Peer.io
  dsimp only
  rw [hlines]
  rfl

theorem sendReceive_control :
    (sendReceive Peer.io peer (some line)).2.control =
      (handleLine peer.interleave.control peer.clientId line jsonResponseMax).2 := by
  rw [sendReceive_request peer hline, Peer.handle, ofArray_of_not_mem hline.2]
  rfl

theorem sendReceive_clientId :
    (sendReceive Peer.io peer (some line)).2.clientId = peer.clientId := by
  rw [sendReceive_request peer hline]
  rfl

/-- The client receives the text of the response, unless there is none. -/
theorem sendReceive_response (hlen : Platform.versionString.length ≤ 512)
    (hversion : ∀ b ∈ Platform.versionString, PlainByte b) (hunread : peer.unread = [])
    (hsilent : ¬ (typedResponse peer.interleave.control peer.clientId line).Silent) :
    sendReceive Peer.io peer (some line) =
      (some (typedResponse peer.interleave.control peer.clientId line).text,
        { peer.interleave with
          control := (handleLine peer.interleave.control peer.clientId line jsonResponseMax).2
          unread := [] }) := by
  have hraw := typedResponse_raw peer.interleave.control peer.clientId line
  have hshort := typedResponse_short peer.interleave.control peer.clientId line
  have hanswer : (handleLine peer.interleave.control peer.clientId line jsonResponseMax).1 =
      .ok (typedResponse peer.interleave.control peer.clientId line).text := by
    rw [handleLine_eq _ _ _ (by decide)]
    rcases encodeResponse_cases hlen hraw hshort with ⟨h, -⟩ | ⟨-, h⟩
    · exact absurd h hsilent
    · exact h
  have hnul := nul_not_mem_text hversion hraw
  have hread := receiveResponse_text (text_one_line hversion hraw) (text_length_lt hlen hshort)
  have hhandled : (peer.interleave.handle line).unread =
      (typedResponse peer.interleave.control peer.clientId line).text := by
    have hquiet : peer.interleave.unread = [] := hunread
    simp only [Peer.handle, ofArray_of_not_mem hline.2, hquiet, List.nil_append]
    rw [show peer.interleave.clientId = peer.clientId from rfl, hanswer]
  rw [sendReceive_request peer hline, hhandled, hread, Option.map_some, ofArray_of_not_mem hnul,
    Peer.handle, ofArray_of_not_mem hline.2]
  rfl

end Receive

end Swbt.DebugClient
