import SwbtDaemon.Ipc.Proofs.ScanProofs
import SwbtDaemon.Ipc.Proofs.CompleteProofs
import SwbtDaemon.Lib.Octets

/-!
# Decoding a JSON object

On the text of any JSON object the decoder computes what the reference decoder computes with the
lookup `seen`, which stops at the first escape. Without escapes that lookup is the first member
with the name, so the decoder agrees with the reference decoder.
-/

namespace Swbt.Ipc

open CString Json Braces Reference

/-! ## The end of a value -/

theorem valueEnds_of_follows {after : List UInt8} (h : Follows after) : valueEnds after = true := by
  obtain ⟨cs, hcs | hcs⟩ := h <;> (unfold valueEnds; rw [hcs]; rfl)

theorem valueEnds_iff (text : List UInt8) : valueEnds text = true ↔ ValueEnds text := by
  constructor
  · intro h
    obtain ⟨ws, hws, htext⟩ := exists_space text
    refine ⟨ws, skipSpace text, hws, htext, fun b hb => ?_⟩
    unfold valueEnds at h
    cases hrest : skipSpace text with
    | nil => simp [hrest] at hb
    | cons c cs =>
      rw [hrest] at h hb
      obtain rfl : c = b := by simpa using hb
      simpa [or_assoc] using h
  · rintro ⟨ws, rest, hws, rfl, hrest⟩
    unfold valueEnds
    rw [skipSpace_append hws]
    cases rest with
    | nil => rfl
    | cons c cs =>
      rcases hrest c rfl with rfl | rfl | rfl <;> rfl

/-- No digit follows a value that has ended. -/
theorem stops_of_ends {text : List UInt8} (h : ValueEnds text) : Stops 10 text := by
  obtain ⟨ws, rest, hws, rfl, hrest⟩ := h
  intro c hc
  cases hdigit : digitOf 10 c with
  | none => rfl
  | some d =>
    have hsome : (digitOf 10 c).isSome = true := by rw [hdigit, Option.isSome_some]
    obtain ⟨hspace, -⟩ := plain_of_digit hsome
    exfalso
    cases ws with
    | nil => rcases hrest c hc with rfl | rfl | rfl <;> exact absurd hsome (by decide)
    | cons b ws =>
      obtain rfl : b = c := by simpa using hc
      rw [hws b List.mem_cons_self] at hspace
      cases hspace

/-! ## Reading a string -/

theorem readStringLoop_plain {bs : List UInt8} (h : ∀ b ∈ bs, PlainByte b) {n k : Nat}
    (hk : k < n) (cs : List UInt8) :
    readStringLoop n k (bs ++ 0x22 :: cs) = if k + bs.length < n then some (bs, cs) else none := by
  induction bs generalizing k with
  | nil =>
    rw [if_pos (by simpa using hk)]
    rfl
  | cons b bs ih =>
    obtain ⟨hlow, hquote, hback⟩ := h b List.mem_cons_self
    have hrest := fun b hb => h b (List.mem_cons_of_mem _ hb)
    rw [List.cons_append, readStringLoop, if_neg hquote,
      if_neg (not_or.2 ⟨hback, UInt8.not_lt.2 hlow⟩), List.length_cons]
    by_cases hroom : k + 1 < n
    · have hlen : k + (bs.length + 1) = k + 1 + bs.length := by omega
      rw [if_neg (Nat.not_le.2 hroom), ih hrest hroom, hlen]
      split <;> rfl
    · rw [if_pos (Nat.le_of_not_lt hroom), if_neg (by omega)]

theorem readStringLoop_escape {bs : List UInt8} (h : ∀ b ∈ bs, PlainByte b) (n k : Nat)
    (cs : List UInt8) : readStringLoop n k (bs ++ 0x5C :: cs) = none := by
  induction bs generalizing k with
  | nil => rfl
  | cons b bs ih =>
    obtain ⟨hlow, hquote, hback⟩ := h b List.mem_cons_self
    have hrest := fun b hb => h b (List.mem_cons_of_mem _ hb)
    rw [List.cons_append, readStringLoop, if_neg hquote,
      if_neg (not_or.2 ⟨hback, UInt8.not_lt.2 hlow⟩), ih hrest]
    split <;> rfl

theorem readString_value (v : Value) {after : List UInt8} (h : Follows after) {n : Nat}
    (hn : 0 < n) : readString (some (v.bytes ++ after)) n = stringOf (some (legible v)) n := by
  cases v with
  | null => rfl
  | true => rfl
  | false => rfl
  | number m =>
    obtain ⟨b, bs, hbytes, hbare⟩ := number_head m
    have hquote : b ≠ 0x22 := (neutral_bare hbare).2.2
    rw [Value.bytes, hbytes, List.cons_append, readString]
    · rfl
    · intro cs hcs
      exact hquote (List.cons.inj hcs).1
  | string items =>
    have htext : (Value.string items).bytes ++ after =
        0x22 :: (contentBytes items ++ 0x22 :: after) := by
      simp [Value.bytes, stringBytes]
    rw [htext, readString, legible]
    cases hplain : Json.isPlain items with
    | true =>
      rw [readStringLoop_plain (plain_contentBytes hplain) hn, Nat.zero_add, if_pos rfl,
        stringOf, decoded_of_plain hplain]
      by_cases hlen : (contentBytes items).length < n
      · rw [if_pos hlen, if_pos hlen]
        change (if valueEnds after = true then _ else _) = _
        rw [if_pos (valueEnds_of_follows h)]
      · rw [if_neg hlen, if_neg hlen]
    | false =>
      obtain ⟨before, rest, hcontent, hbefore⟩ := exists_backslash hplain
      rw [hcontent, List.append_assoc, List.cons_append, readStringLoop_escape hbefore]
      rfl
  | array ws elems =>
    rw [Value.bytes]
    rfl
  | object ws members =>
    rw [Value.bytes]
    rfl

/-! ## Reading an integer -/

theorem strtoll_digits (negative : Bool) (d : Fin 10) (ds : List (Fin 10)) {rest : List UInt8}
    (h : Stops 10 rest) :
    strtoll ((if negative then [0x2D] else []) ++ ((d :: ds).map digitByte ++ rest)) =
      some (convert (if negative then -(decimal (d :: ds) : Int) else decimal (d :: ds)) rest) := by
  have hnumber : number 10 ((d :: ds).map digitByte) = decimal (d :: ds) :=
    numberOnto_digitBytes 0 (d :: ds)
  have hread (sign : Sign) := @strtoll_numeral [] _ _ (by simp) sign
    (digits_digitBytes (d :: ds)) (by simp) h
  rw [hnumber] at hread
  cases negative with
  | true => exact hread .minus
  | false => exact hread .none

theorem stops_of_follows {after : List UInt8} (h : Follows after) : Stops 10 after :=
  stops_of_ends ((valueEnds_iff after).1 (valueEnds_of_follows h))

/-- The fraction and the exponent of a number start with a byte that is no digit and ends no
value. -/
theorem tail_head {n : Number} (h : n.tail ≠ []) :
    ∃ b bs, n.tail = b :: bs ∧ (b = 0x2E ∨ b = 0x45 ∨ b = 0x65) := by
  unfold Number.tail at h ⊢
  split at h
  · exact absurd rfl h
  · next e _ _ =>
    refine ⟨_, _, rfl, ?_⟩
    cases e.upper
    · exact Or.inr (Or.inr rfl)
    · exact Or.inr (Or.inl rfl)
  · exact ⟨_, _, rfl, Or.inl rfl⟩
  · exact ⟨_, _, rfl, Or.inl rfl⟩

theorem readI64_convert (value : Int) (rest s : List UInt8)
    (h : strtoll s = some (convert value rest)) :
    readI64 (some s) =
      if valueEnds rest ∧ -2 ^ 63 ≤ value ∧ value ≤ 2 ^ 63 - 1 then .value value else .invalid := by
  unfold convert at h
  by_cases hhigh : value > 2 ^ 63 - 1
  · have hrange : ¬(valueEnds rest = true ∧ -2 ^ 63 ≤ value ∧ value ≤ 2 ^ 63 - 1) := by omega
    rw [if_pos hhigh] at h
    rw [readI64, h, if_neg hrange]
    rfl
  by_cases hlow : value < -2 ^ 63
  · have hrange : ¬(valueEnds rest = true ∧ -2 ^ 63 ≤ value ∧ value ≤ 2 ^ 63 - 1) := by omega
    rw [if_neg hhigh, if_pos hlow] at h
    rw [readI64, h, if_neg hrange]
    rfl
  · have hrange : -2 ^ 63 ≤ value ∧ value ≤ 2 ^ 63 - 1 := by omega
    rw [if_neg hhigh, if_neg hlow] at h
    rw [readI64, h]
    simp only [hrange, and_self, and_true]
    rfl

theorem readI64_number (n : Number) {after : List UInt8} (h : Follows after) :
    readI64 (some (n.bytes ++ after)) = integerOf (some (.number n)) := by
  obtain ⟨d, ds, hdigits⟩ : ∃ d ds, n.int.digits = d :: ds := by
    cases n.int with
    | zero => exact ⟨_, _, rfl⟩
    | positive first rest => exact ⟨_, _, rfl⟩
  have htext : n.bytes ++ after = (if n.negative then [0x2D] else []) ++
      ((d :: ds).map digitByte ++ (n.tail ++ after)) := by
    simp [Number.bytes, hdigits]
  by_cases htail : n.tail = []
  · have hfraction : n.fraction = none ∧ n.exponent = none := by
      unfold Number.tail at htail
      split at htail
      · next hf he => exact ⟨hf, he⟩
      · exact absurd htail (by simp [Exponent.bytes])
      · exact absurd htail (by simp)
      · exact absurd htail (by simp)
    have hnumber := strtoll_digits n.negative d ds (stops_of_follows h)
    rw [htail, List.nil_append] at htext
    rw [htext, readI64_convert _ _ _ hnumber, valueEnds_of_follows h, integerOf, Number.toInt?,
      hfraction.1, hfraction.2, hdigits]
    simp
  · obtain ⟨b, bs, hbytes, hb⟩ := tail_head htail
    have hstops : Stops 10 (n.tail ++ after) := by
      rw [hbytes]
      intro c hc
      obtain rfl : b = c := by simpa using hc
      rcases hb with rfl | rfl | rfl <;> decide
    have hends : valueEnds (n.tail ++ after) = false := by
      rw [hbytes]
      rcases hb with rfl | rfl | rfl <;> rfl
    have hnumber := strtoll_digits n.negative d ds hstops
    have htoInt : n.toInt? = none := by
      unfold Number.toInt?
      split
      · next hf he => exact absurd (by rw [Number.tail, hf, he]) htail
      · rfl
    rw [htext, readI64_convert _ _ _ hnumber, hends, integerOf, htoInt]
    simp

theorem readI64_value (v : Value) {after : List UInt8} (h : Follows after) :
    readI64 (some (v.bytes ++ after)) = integerOf (some (legible v)) := by
  cases v with
  | null => rfl
  | true => rfl
  | false => rfl
  | number n => exact readI64_number n h
  | string items =>
    rw [legible]
    cases Json.isPlain items <;> rfl
  | array ws elems =>
    rw [Value.bytes]
    rfl
  | object ws members =>
    rw [Value.bytes]
    rfl

/-! ## The fields of an object -/

/-- A reader of texts that agrees with a reader of values on every value agrees with it on the
result of a lookup. -/
theorem read_found {α : Type} (read : Option (List UInt8) → ReadResult α)
    (readValue : Option Value → ReadResult α) {found : Option (List UInt8)}
    {scanned : Option Value} (h : FindsValue found scanned) (hnone : read none = readValue none)
    (hsome : ∀ v after, Follows after →
      read (some (v.bytes ++ after)) = readValue (some (legible v))) :
    read found = readValue (scanned.map legible) := by
  cases scanned with
  | none =>
    obtain rfl : found = none := h
    exact hnone
  | some v =>
    obtain ⟨after, rfl, hfollows⟩ := h
    exact hsome v after hfollows

section Fields

variable (leading ws : List Space) (members : Members) (cs : List UInt8)

theorem getString_object (key : List UInt8) {n : Nat} (hn : 0 < n) :
    getString (wsBytes leading ++ ((Value.object ws members).bytes ++ cs)) key n =
      stringOf (seen members key) n :=
  read_found (fun value => readString value n) (fun value => stringOf value n)
    (findKeyValue_object key leading ws members cs) rfl fun v _ hfollows =>
      readString_value v hfollows hn

theorem getI64_object (key : List UInt8) :
    getI64 (wsBytes leading ++ ((Value.object ws members).bytes ++ cs)) key =
      integerOf (seen members key) :=
  read_found readI64 integerOf (findKeyValue_object key leading ws members cs) rfl
    fun v _ hfollows => readI64_value v hfollows

theorem map_range {α : Type} (f : Int → α) (low high i : Int) :
    (if i < low ∨ i > high then none else some (f i)) =
      (if low ≤ i ∧ i ≤ high then some i else none).map f := by
  by_cases hrange : low ≤ i ∧ i ≤ high
  · rw [if_neg (by omega), if_pos hrange]
    rfl
  · rw [if_pos (by omega), if_neg hrange]
    rfl

theorem parseI16Field_object (key : String) :
    parseI16Field (wsBytes leading ++ ((Value.object ws members).bytes ++ cs)) (bytes key) =
      i16Field seen members key := by
  unfold parseI16Field parseRequiredI64 i16Field integerField
  rw [getI64_object]
  cases integerOf (seen members (bytes key)) with
  | absent => rfl
  | invalid => rfl
  | value i => exact map_range Int16.ofInt (-32768) 32767 i

theorem parseStickField_object (key : String) :
    parseStickField (wsBytes leading ++ ((Value.object ws members).bytes ++ cs)) (bytes key) =
      stickField seen members key := by
  unfold parseStickField parseRequiredI64 stickField integerField
  rw [getI64_object]
  cases integerOf (seen members (bytes key)) with
  | absent => rfl
  | invalid => rfl
  | value i => exact map_range (fun i => i.toNat.toUInt16) 0 stickMax i

theorem parseButtons_object :
    parseButtons (wsBytes leading ++ ((Value.object ws members).bytes ++ cs)) =
      buttonsField seen members := by
  unfold parseButtons parseRequiredI64 buttonsField integerField
  rw [getI64_object]
  cases integerOf (seen members (bytes "buttons")) with
  | absent => rfl
  | invalid => rfl
  | value i =>
    by_cases hrange : 0 ≤ i ∧ i ≤ 0xFFFFFFFF
    · have hin : ¬i < 0 ∧ ¬i > 0xFFFFFFFF := by omega
      by_cases hmask : i.toNat.toUInt32 &&& ~~~definedButtonMask = 0
      · simp [hrange, hin, hmask]
      · simp [hrange, hmask]
    · have hout : i < 0 ∨ i > 0xFFFFFFFF := by omega
      rcases hout with hlow | hhigh
      · simp [hrange, hlow]
      · simp [hrange, hhigh]

theorem parseStateFields_object :
    parseStateFields (wsBytes leading ++ ((Value.object ws members).bytes ++ cs)) =
      stateOf seen members := by
  unfold parseStateFields stateOf
  simp only [parseButtons_object, parseStickField_object, parseI16Field_object]

theorem parseSequence_object :
    parseSequence (wsBytes leading ++ ((Value.object ws members).bytes ++ cs)) =
      sequenceOf seen members := by
  unfold parseSequence sequenceOf
  cases hread : integerOf (seen members (bytes "seq")) <;> simp only [getI64_object, hread]

theorem decodeOwnerId_object [Platform] :
    decodeOwnerId (wsBytes leading ++ ((Value.object ws members).bytes ++ cs)) =
      ownerOf seen members := by
  have hget := getString_object leading ws members cs (bytes "owner_id")
    (show 0 < jsonStringMax by decide)
  unfold decodeOwnerId ownerOf
  cases hread : stringOf (seen members (bytes "owner_id")) jsonStringMax <;>
    simp only [hget, hread]

theorem parseRequestId_object :
    parseRequestId (wsBytes leading ++ ((Value.object ws members).bytes ++ cs)) =
      requestIdOf seen members := by
  have hget := getString_object leading ws members cs (bytes "request_id")
    (show 0 < jsonStringMax by decide)
  unfold parseRequestId requestIdOf
  cases hread : stringOf (seen members (bytes "request_id")) jsonStringMax <;>
    simp only [hget, hread]

theorem parseState_object :
    parseState (wsBytes leading ++ ((Value.object ws members).bytes ++ cs)) =
      (do
        let state ← stateIn seen members
        let sequence ← sequenceOf seen members
        some (state, sequence)) := by
  have hfind := findKeyValue_object (bytes "state") leading ws members cs
  unfold parseState stateIn
  rw [parseSequence_object]
  unfold seen
  cases hscan : scanMembers (bytes "state") members with
  | none =>
    rw [hscan] at hfind
    rw [hfind]
    rfl
  | some v =>
    rw [hscan] at hfind
    obtain ⟨after, hfound, -⟩ := hfind
    rw [hfound]
    cases v with
    | null => rfl
    | true => rfl
    | false => rfl
    | number n =>
      obtain ⟨b, bs, hbytes, hbare⟩ := number_head n
      have hopen : b ≠ 0x7B := (neutral_bare hbare).1
      rw [Value.bytes, hbytes]
      split
      · next heq => exact absurd (List.cons.inj (Option.some.inj heq)).1 hopen
      · rfl
    | string items =>
      rw [Option.map_some, legible]
      cases Json.isPlain items <;> rfl
    | array ws' elems =>
      rw [Value.bytes]
      rfl
    | object ws' fields =>
      have hstate : parseStateFields ((Value.object ws' fields).bytes ++ after) =
          stateOf seen fields := parseStateFields_object [] ws' fields after
      rw [Value.bytes] at hstate ⊢
      exact congrArg (fun state => state >>= fun state =>
        sequenceOf seen members >>= fun sequence => some (state, sequence)) hstate

theorem copyText_of_lt {text : List UInt8} (h : text.length < jsonStringMax) :
    copyText jsonStringMax text = text := by
  unfold copyText
  exact List.take_of_length_le (by omega)

/-- A request identifier that is taken fits into its buffer. -/
theorem requestIdOf_length {look : Members → List UInt8 → Option Value} {request : Members}
    {requestId : Option (List UInt8)} (h : requestIdOf look request = some requestId) :
    requestId.map (copyText jsonStringMax) = requestId := by
  unfold requestIdOf at h
  split at h
  · exact absurd h (by simp)
  · obtain rfl := Option.some.inj h
    rfl
  · next text hstring =>
    obtain rfl := Option.some.inj h
    unfold stringOf at hstring
    split at hstring
    · exact absurd hstring (by simp)
    · split at hstring
      · next hlen =>
        obtain rfl := ReadResult.value.inj hstring
        rw [Option.map_some, copyText_of_lt hlen]
      · exact absurd hstring (by simp)
    · exact absurd hstring (by simp)

theorem decodeType_object [Platform] {requestId : Option (List UInt8)}
    (h : requestId.map (copyText jsonStringMax) = requestId) (type : List UInt8) :
    decodeType (wsBytes leading ++ ((Value.object ws members).bytes ++ cs)) requestId type =
      (fieldsOf seen members).command requestId type := by
  unfold decodeType Fields.command fieldsOf
  rw [h, decodeOwnerId_object, parseState_object]
  cases stateIn seen members with
  | none => rfl
  | some state => cases sequenceOf seen members <;> rfl

end Fields

/-- On the text of a JSON object the decoder decodes the fields that its lookup finds. -/
theorem decodeCommand_object [Platform] (leading ws : List Space) (members : Members)
    (trailing : List Space) (hlen : (Value.object ws members).bytes.length ≤ jsonLineMax) :
    decodeCommand (objectText leading ws members trailing) = (fieldsOf seen members).decode := by
  have hcomplete : isCompleteObject (objectText leading ws members trailing) = true :=
    isCompleteObject_of_braced ⟨_, _, _, rfl, braced_object ws members, hlen,
      isspace_ws leading, isspace_ws trailing⟩
  have hcommand : ∀ requestId : Option (List UInt8),
      requestId.map (copyText jsonStringMax) = requestId → ∀ type,
      decodeType (wsBytes leading ++ ((Value.object ws members).bytes ++ wsBytes trailing))
        requestId type = (fieldsOf seen members).command requestId type :=
    fun requestId hid type => decodeType_object leading ws members (wsBytes trailing) hid type
  unfold objectText at hcomplete ⊢
  unfold decodeCommand
  rw [hcomplete, parseRequestId_object]
  have hsame : (fieldsOf seen members).requestId = requestIdOf seen members := rfl
  unfold Fields.decode Fields.typed
  rw [hsame]
  cases hid : requestIdOf seen members with
  | none => rfl
  | some requestId =>
    simp only [getI64_object, getString_object leading ws members _ _
      (show 0 < jsonStringMax by decide), hcommand requestId (requestIdOf_length hid)]
    rfl

/-! ## Agreement with the reference decoder -/

theorem stateOf_congr {look look' : Members → List UInt8 → Option Value} {fields : Members}
    (h : ∀ key, look fields key = look' fields key) :
    stateOf look fields = stateOf look' fields := by
  unfold stateOf buttonsField stickField i16Field integerField
  simp only [h]

/-- The fields depend on the members that are found in the request and in the state object. -/
theorem fieldsOf_congr [Platform] {look look' : Members → List UInt8 → Option Value}
    {request : Members} (h : ∀ key, look request key = look' request key)
    (hstate : ∀ ws fields, look' request (bytes "state") = some (.object ws fields) →
      ∀ key, look fields key = look' fields key) :
    fieldsOf look request = fieldsOf look' request := by
  have hobject : stateIn look request = stateIn look' request := by
    unfold stateIn
    rw [h]
    cases hlook : look' request (bytes "state") with
    | none => rfl
    | some v =>
      cases v with
      | object ws fields => exact stateOf_congr (hstate ws fields hlook)
      | _ => rfl
  unfold fieldsOf requestIdOf ownerOf sequenceOf
  simp only [h, hobject]

theorem legible_of_plain {v : Value} (h : v.isPlain = true) : legible v = v := by
  cases v with
  | string items =>
    rw [Value.isPlain] at h
    rw [legible, if_pos h]
  | _ => rfl

theorem seen_of_plain {members : Members} (h : members.isPlain = true) (key : List UInt8) :
    seen members key = first members key := by
  unfold seen first
  rw [scanMembers_of_plain h]
  cases hfind : members.find? key with
  | none => rfl
  | some v => rw [Option.map_some, legible_of_plain (find_isPlain h hfind)]

/-- No escape is written in the strings of the request or of its state object, outside of the
objects that are nested in them. -/
structure NoEscapes (members : Members) : Prop where
  request : members.isPlain = true
  state : ∀ ws fields, members.find? (bytes "state") = some (.object ws fields) →
    fields.isPlain = true

/-- On a JSON object without escapes the decoder agrees with the reference decoder. -/
theorem decodeCommand_agrees [Platform] (ws : List Space) (request : Members)
    (trailing : List Space)
    (hlen : ((Value.object ws request).bytes ++ wsBytes trailing).length ≤ jsonLineMax)
    (hplain : NoEscapes request) :
    decodeCommand ((Value.object ws request).bytes ++ wsBytes trailing) =
      Reference.decode request := by
  rw [List.length_append] at hlen
  refine (decodeCommand_object [] ws request trailing (by omega)).trans ?_
  have hfields : fieldsOf seen request = fieldsOf first request := by
    refine fieldsOf_congr (seen_of_plain hplain.request) ?_
    intro ws' fields hstate key
    exact seen_of_plain (hplain.state ws' fields hstate) key
  rw [hfields]
  rfl

/-- The number 1. -/
def numberOne : Value := .number ⟨false, .positive 0 [], none, none⟩

/-- A request in which the name of a field stands in an array. -/
def nestedName : Members :=
  .member "x" (.array [] (.cons [] (.string (literal "type")) [] .nil))
    (.member "v" numberOne
      (.member "type" (.string (literal "hello")) .nil))

theorem decodeCommand_agrees_nestedName :
    let _ : Platform := Platform.lp64
    decodeCommand ((Value.object [] nestedName).bytes ++ wsBytes [.space]) =
      Reference.decode nestedName := by
  let _ : Platform := Platform.lp64
  have hstate : nestedName.find? (bytes "state") = none := by decide
  refine decodeCommand_agrees [] nestedName [.space] (by decide) ⟨by decide, ?_⟩
  intro ws fields hfields
  rw [hstate] at hfields
  exact absurd hfields (by simp)

end Swbt.Ipc
