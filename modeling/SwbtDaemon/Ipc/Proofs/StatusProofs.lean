import SwbtDaemon.Ipc.Proofs.AnswerProofs
import SwbtDaemon.Ipc.Proofs.FidelityProofs
import SwbtDaemon.Ipc.Proofs.FormatProofs
import SwbtDaemon.Ipc.Proofs.ReadBackProofs

/-!
# Reading a status response back

The reader of the daemon finds the snapshot in the response that was written from it.
-/

namespace Swbt.Ipc

open CString Json Written

/-! ## The rumble bytes -/

theorem getElem?_flatMap_pair {α β : Type*} (xs : List α) (f g : α → β) (i : Nat) :
    (xs.flatMap fun x => [f x, g x])[2 * i]? = xs[i]?.map f ∧
      (xs.flatMap fun x => [f x, g x])[2 * i + 1]? = xs[i]?.map g := by
  induction xs generalizing i with
  | nil => simp
  | cons x xs ih =>
    rw [List.flatMap_cons]
    cases i with
    | zero => exact ⟨rfl, rfl⟩
    | succ i =>
      have hindex : 2 * (i + 1) = 2 * i + 2 := by omega
      rw [hindex]
      exact ih i

/-- The text is the hexadecimal of the bytes, two digits for each, the high one first. -/
structure Hexadecimal (text : List UInt8) (raw : Vector UInt8 rumbleDataSize) : Prop where
  length : text.length = 2 * rumbleDataSize
  high : ∀ i : Fin rumbleDataSize,
    text[2 * i.val]?.bind (digitOf 16) = some (raw[i].toNat / 16)
  low : ∀ i : Fin rumbleDataSize,
    text[2 * i.val + 1]?.bind (digitOf 16) = some (raw[i].toNat % 16)

theorem digitOf_hexDigit_of_lt {n : Nat} (h : n < 16) : digitOf 16 (hexDigit n) = some n :=
  digitOf_hexDigit ⟨n, h⟩

theorem hexadecimal_formatRumbleRaw (raw : Vector UInt8 rumbleDataSize) :
    Hexadecimal (formatRumbleRaw raw) raw := by
  have hbyte : ∀ i : Fin rumbleDataSize, raw.toList[i.val]? = some raw[i] := by
    intro i
    simp
  have hhigh : ∀ b : UInt8, (b.toNat >>> 4) &&& 0x0F = b.toNat / 16 := by
    intro b
    have hlt := b.toNat_lt
    rw [Bits.and_0x0F, Nat.shiftRight_eq_div_pow]
    omega
  refine ⟨formatRumbleRaw_length raw, fun i => ?_, fun i => ?_⟩
  · have hlt := raw[i].toNat_lt
    rw [formatRumbleRaw, (getElem?_flatMap_pair _ _ _ _).1, hbyte, Option.map_some,
      Option.bind_some, hhigh, digitOf_hexDigit_of_lt (by omega)]
  · rw [formatRumbleRaw, (getElem?_flatMap_pair _ _ _ _).2, hbyte, Option.map_some,
      Option.bind_some, Bits.and_0x0F, digitOf_hexDigit_of_lt (Nat.mod_lt _ (by decide))]

/-! ## The snapshot in the response -/

/-- What the reader of the daemon finds in a status response. -/
structure ReadsBack [Platform] (text : List UInt8) (snapshot : Domain.StatusSnapshot) : Prop where
  state : parseState text = some (snapshot.state, 0)
  owner : ∃ owner, findKeyValue text (bytes "owner") = some owner ∧
    decodeOwnerId owner = some (if snapshot.hasOwner then snapshot.ownerClientId else 0) ∧
    getI64 owner (bytes "last_seq") = .value snapshot.lastSequence.toNat
  rumble : ∃ rumble raw, findKeyValue text (bytes "rumble") = some rumble ∧
    getString rumble (bytes "raw") jsonStringMax = .value raw ∧
    Hexadecimal raw snapshot.rumble.raw

/-- The members of the owner after the first one. -/
def ownerRest (status : Domain.StatusSnapshot) : List Member :=
  [stringField "owner_id" (formatOwnerId (if status.hasOwner then status.ownerClientId else 0)),
    bareField "last_seq" (printUnsigned status.lastSequence.toNat)]

theorem ownerRest_legal (status : Domain.StatusSnapshot) : ∀ m ∈ ownerRest status, m.Legal := by
  refine List.forall_mem_cons.2 ⟨legal_stringField (by decide) (plain_formatOwnerId _), ?_⟩
  exact List.forall_mem_cons.2
    ⟨legal_bareField (by decide) (legal_printUnsigned _), forall_mem_nil⟩

/-- The members of the rumble state after the first one. -/
def rumbleRest (rumble : RumbleState) : List Member :=
  [bareField "last_update_ms" (printUnsigned rumble.updatedAtMs.toNat),
    stringField "raw" (formatRumbleRaw rumble.raw)]

theorem rumbleRest_legal (rumble : RumbleState) : ∀ m ∈ rumbleRest rumble, m.Legal := by
  refine List.forall_mem_cons.2 ⟨legal_bareField (by decide) (legal_printUnsigned _), ?_⟩
  exact List.forall_mem_cons.2
    ⟨legal_stringField (by decide) (plain_formatRumbleRaw _), forall_mem_nil⟩

section

variable [Platform] (hversion : ∀ b ∈ Platform.versionString, PlainByte b)
  {requestId : Option (List UInt8)} {status : Domain.StatusSnapshot}
  (hraw : (Response.mk requestId (.status status)).Raw)

include hversion hraw

/-- The members of a status are found by their names, whatever the request id. -/
theorem findKeyValue_status (key : List UInt8) (inner : Member) (innerRest : List Member)
    (hfind : ∀ requestId : Option (List UInt8), Written.find? key
      (versionField :: (Response.mk requestId (.status status)).fields) =
        some (.object (bodyBytes inner innerRest))) :
    ∃ after, findKeyValue (Response.mk requestId (.status status)).text key =
      some (0x7B :: (bodyBytes inner innerRest ++ 0x7D :: after)) :=
  findKeyValue_nested versionField_legal (fields_legal hversion hraw) [0x0A] (hfind requestId)

theorem parseState_status (hstate : status.state.Reportable) :
    parseState (Response.mk requestId (.status status)).text = some (status.state, 0) := by
  obtain ⟨after, hfind⟩ := findKeyValue_status hversion hraw (bytes "state")
    (bareField "buttons" (printUnsigned status.state.buttons.toNat)) (stateRest status.state)
    (fun requestId => by cases requestId <;> rfl)
  have hfields := parseStateFields_of_carries (carries_printed status.state after) hstate
  have hseq : findKeyValue (Response.mk requestId (.status status)).text (bytes "seq") = none := by
    have hfound := findKeyValue_written (bytes "seq") versionField_legal
      (fields_legal hversion hraw) [0x0A]
    have hnone : Written.find? (bytes "seq")
        (versionField :: (Response.mk requestId (.status status)).fields) = none := by
      cases requestId <;> rfl
    rw [hnone] at hfound
    exact hfound
  have hsequence : parseSequence (Response.mk requestId (.status status)).text = some 0 := by
    unfold parseSequence getI64
    rw [hseq]
    rfl
  unfold parseState
  rw [hfind]
  change (parseStateFields _ >>= fun state =>
    parseSequence _ >>= fun sequence => some (state, sequence)) = _
  rw [hfields, hsequence]
  rfl

theorem owner_status (hseq : status.lastSequence.toNat ≤ 2 ^ 63 - 1) :
    ∃ owner, findKeyValue (Response.mk requestId (.status status)).text (bytes "owner") =
        some owner ∧
      decodeOwnerId owner = some (if status.hasOwner then status.ownerClientId else 0) ∧
      getI64 owner (bytes "last_seq") = .value status.lastSequence.toNat := by
  have hfirst : (bareField "present" (boolText status.hasOwner)).Legal :=
    legal_bareField (by decide) (legal_boolText _)
  have hrest := ownerRest_legal status
  obtain ⟨after, hfind⟩ := findKeyValue_status hversion hraw (bytes "owner")
    (bareField "present" (boolText status.hasOwner)) (ownerRest status)
    (fun requestId => by cases requestId <;> rfl)
  refine ⟨_, hfind, ?_, ?_⟩
  · have hlength := formatOwnerId_length (if status.hasOwner then status.ownerClientId else 0)
    unfold decodeOwnerId
    rw [getString_written hfirst hrest after rfl (plain_formatOwnerId _)
      (by rw [hlength]; decide)]
    exact parseOwnerId_formatOwnerId _
  · rw [getI64_written hfirst hrest after rfl, if_pos hseq]

theorem rumble_status :
    ∃ rumble raw, findKeyValue (Response.mk requestId (.status status)).text (bytes "rumble") =
        some rumble ∧
      getString rumble (bytes "raw") jsonStringMax = .value raw ∧
      Hexadecimal raw status.rumble.raw := by
  have hfirst : (bareField "updated" (boolText status.rumble.updated)).Legal :=
    legal_bareField (by decide) (legal_boolText _)
  obtain ⟨after, hfind⟩ := findKeyValue_status hversion hraw (bytes "rumble")
    (bareField "updated" (boolText status.rumble.updated)) (rumbleRest status.rumble)
    (fun requestId => by cases requestId <;> rfl)
  refine ⟨_, formatRumbleRaw status.rumble.raw, hfind, ?_, hexadecimal_formatRumbleRaw _⟩
  exact getString_written hfirst (rumbleRest_legal _) after rfl (plain_formatRumbleRaw _)
    (by rw [formatRumbleRaw_length]; decide)

end

theorem not_silent_status [Platform] (requestId : Option (List UInt8))
    (status : Domain.StatusSnapshot) : ¬ (Response.mk requestId (.status status)).Silent := by
  rintro (hnone | ⟨-, sequence, hsequence⟩)
  · cases hnone
  · cases hsequence

theorem jsonWrite_ok {responseSize : Nat} {printed text : List UInt8}
    (h : jsonWrite responseSize printed = .ok text) : printed = text := by
  unfold jsonWrite at h
  split at h
  · cases h
  · exact Except.ok.inj h

/-- A status response that is written is what the formats print, and the text of its members. -/
theorem encodeResponse_status [Platform] {requestId : Option (List UInt8)}
    {status : Domain.StatusSnapshot} {responseSize : Nat} {text : List UInt8}
    (h : encodeResponse ⟨requestId, .status status⟩ responseSize = .ok text) :
    statusText requestId status = some text ∧
      (Response.mk requestId (.status status)).text = text ∧
      (Response.mk requestId (.status status)).Raw := by
  unfold encodeResponse at h
  split at h
  · cases h
  · split at h
    · cases h
    · next hraw =>
      have hbody := encodeBody_of_not_silent _ responseSize (not_silent_status requestId status)
      have hprinted : responseHead "status" requestId ++ statusMembers status ++ responseTail =
          text := jsonWrite_ok h
      refine ⟨?_, jsonWrite_ok (hbody.symm.trans h), fun id hid => ?_,
        fun code message hbody => nomatch hbody⟩
      · rw [statusText_eq, ← List.append_assoc, hprinted]
      · obtain rfl : requestId = some id := hid
        simpa [responseTextsRaw] using hraw

/-- The two status formats differ by the member of the request id only. A response with a request id
that the daemon read fits in its buffer, and the reader of the daemon finds in either response the
state, the owner, the last sequence and the rumble bytes of the snapshot. -/
theorem status_readBack [Platform] (hlen : Platform.versionString.length ≤ 512)
    (hversion : ∀ b ∈ Platform.versionString, PlainByte b)
    (snapshot : Domain.StatusSnapshot) (hstate : snapshot.state.Reportable)
    (hseq : snapshot.lastSequence.toNat ≤ 2 ^ 63 - 1) :
    (∃ body, statusText none (copyStatus (copyAppStatus snapshot)) = some (statusStart ++ body) ∧
      ∀ requestId, statusText (some requestId) (copyStatus (copyAppStatus snapshot)) =
        some (statusStart ++ (stringMember "request_id" requestId ++ body))) ∧
    (∀ requestId : Option (List UInt8), (∀ id, requestId = some id → ShortRaw id) →
      ∃ text, encodeResponse ⟨requestId, .status (copyStatus (copyAppStatus snapshot))⟩
        jsonResponseMax = .ok text) ∧
    ∀ (requestId : Option (List UInt8)) (responseSize : Nat) (text : List UInt8),
      encodeResponse ⟨requestId, .status (copyStatus (copyAppStatus snapshot))⟩ responseSize =
        .ok text →
      statusText requestId (copyStatus (copyAppStatus snapshot)) = some text ∧
        ReadsBack text snapshot := by
  refine ⟨?_, fun requestId hshort => ?_, fun requestId responseSize text h => ?_⟩
  · refine ⟨statusMembers (copyStatus (copyAppStatus snapshot)) ++ responseTail, ?_, fun id => ?_⟩
    · rw [statusText_eq, responseHead_status_none]
    · rw [statusText_eq, responseHead_status_some, List.append_assoc]
  · have hraw : (Response.mk requestId (.status (copyStatus (copyAppStatus snapshot)))).Raw :=
      ⟨fun id hid => (hshort id hid).2, fun code message hbody => nomatch hbody⟩
    have hfits : (Response.mk requestId (.status (copyStatus (copyAppStatus snapshot)))).Short :=
      ⟨fun id hid => (hshort id hid).1, fun code message hbody => nomatch hbody⟩
    rcases encodeResponse_cases hlen hraw hfits with ⟨hsilent, -⟩ | ⟨-, htext⟩
    · exact absurd hsilent (not_silent_status requestId _)
    · exact ⟨_, htext⟩
  · obtain ⟨hprinted, rfl, hraw⟩ := encodeResponse_status h
    exact ⟨hprinted, parseState_status hversion hraw hstate, owner_status hversion hraw hseq,
      rumble_status hversion hraw⟩

/-- A snapshot with an owner, the largest sequence that is read back and stick and motion values at
both ends. -/
def extremeSnapshot : Domain.StatusSnapshot :=
  { (Domain.initWith Spi.init).readStatus with
    hasOwner := true
    ownerClientId := 0xDEADBEEF
    lastSequence := 0x7FFFFFFFFFFFFFFF
    state := extremeState }

theorem status_readBack_extreme :
    let _ : Platform := Platform.lp64
    ∃ text, encodeResponse ⟨some (bytes "s1"), .status extremeSnapshot⟩ jsonResponseMax = .ok text ∧
      ReadsBack text extremeSnapshot := by
  let _ : Platform := Platform.lp64
  have hid : ∀ id, some (bytes "s1") = some id → ShortRaw id :=
    fun id hid => Option.some.inj hid ▸ ⟨by decide, by decide⟩
  obtain ⟨-, hwritten, hread⟩ := status_readBack (by decide) (plain_of_raw (by decide))
    extremeSnapshot ⟨by decide, by decide, by decide, by decide, by decide⟩ (by decide)
  obtain ⟨text, htext⟩ := hwritten (some (bytes "s1")) hid
  exact ⟨text, htext, (hread _ _ _ htext).2⟩

end Swbt.Ipc
