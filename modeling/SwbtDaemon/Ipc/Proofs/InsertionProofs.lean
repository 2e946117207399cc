import SwbtDaemon.Ipc.Insertion
import SwbtDaemon.Ipc.Proofs.DecodeProofs

/-!
# Unknown members

An inserted member is stepped over by every lookup unless it has an escape at depth one; then the
members behind it are not found any more. The decoder is unchanged by an insertion exactly when
none of the members hidden in this way bears on the request.
-/

namespace Swbt.Ipc

open CString Json Reference

/-! ## The lookups after an insertion -/

theorem isSome_of_hides {key : List UInt8} {p : Insertion} (h : p.hides key = true) :
    (scanMembers key p.base).isSome = true := by
  induction p with
  | nil => exact absurd h (by simp [Insertion.hides])
  | keep before name afterName beforeValue value after rest ih =>
    simp only [Insertion.hides, Bool.and_eq_true, bne_iff_ne, ne_eq] at h
    obtain ⟨⟨⟨hname, hkey⟩, hvalue⟩, hrest⟩ := h
    rw [Insertion.base, scanMembers, if_pos hname, if_neg hkey, if_pos hvalue]
    exact ih hrest
  | extra before name afterName beforeValue value after unknown rest ih =>
    rw [Insertion.hides] at h
    rw [Insertion.base]
    split at h
    · exact ih h
    · exact h

/-- After an insertion a lookup finds what it found before, or nothing. -/
theorem scanMembers_extended {key : List UInt8} (hkey : key ∈ requestKeys) (p : Insertion) :
    scanMembers key p.extended = if p.hides key then none else scanMembers key p.base := by
  induction p with
  | nil => rfl
  | keep before name afterName beforeValue value after rest ih =>
    rw [Insertion.extended, Insertion.base, Insertion.hides, scanMembers, scanMembers]
    cases hname : Json.isPlain name with
    | false => simp
    | true =>
      by_cases hfound : decoded name = key
      · simp [hfound]
      · cases hvalue : value.isPlain with
        | false => simp [hfound]
        | true => simpa [hfound] using ih
  | extra before name afterName beforeValue value after unknown rest ih =>
    have hother : decoded name ≠ key := by
      rintro rfl
      exact unknown hkey
    rw [Insertion.extended, Insertion.base, Insertion.hides, scanMembers]
    cases hname : Json.isPlain name with
    | false => cases scanMembers key rest.base <;> simp
    | true =>
      cases hvalue : value.isPlain with
      | false => cases scanMembers key rest.base <;> simp [hother]
      | true => simpa [hother] using ih

theorem seen_extended {key : List UInt8} (hkey : key ∈ requestKeys) (p : Insertion) :
    seen p.extended key = if p.hides key then none else seen p.base key := by
  unfold seen
  rw [scanMembers_extended hkey]
  cases p.hides key <;> rfl

theorem seen_of_hides {key : List UInt8} {p : Insertion} (h : p.hides key = true) :
    seen p.base key ≠ none := by
  obtain ⟨v, hv⟩ := Option.isSome_iff_exists.1 (isSome_of_hides h)
  unfold seen
  rw [hv]
  simp

/-- The fields without the hidden ones. -/
def Reference.Fields.hide (f : Fields) (h : Hidden) : Fields where
  requestId := if h.requestId then some none else f.requestId
  version := if h.version then .absent else f.version
  type := if h.type then .absent else f.type
  owner := if h.owner then none else f.owner
  state := if h.state then none else f.state
  sequence := if h.sequence then some 0 else f.sequence

theorem fieldsOf_extended [Platform] (p : Insertion) :
    fieldsOf seen p.extended = (fieldsOf seen p.base).hide p.hidden := by
  unfold fieldsOf requestIdOf ownerOf stateIn sequenceOf Fields.hide Insertion.hidden
  rw [seen_extended (by decide), seen_extended (by decide), seen_extended (by decide),
    seen_extended (by decide), seen_extended (by decide), seen_extended (by decide)]
  congr 1
  · cases p.hides (bytes "request_id") <;> rfl
  · cases p.hides (bytes "v") <;> rfl
  · cases p.hides (bytes "type") <;> rfl
  · cases p.hides (bytes "owner_id") <;> rfl
  · cases p.hides (bytes "state") <;> rfl
  · cases p.hides (bytes "seq") <;> rfl

/-! ## What a result shows of its fields -/

/-- The request identifier of a result. -/
def resultId : Except ErrorResponse Command → Option (List UInt8)
  | .error e => e.requestId
  | .ok command => command.requestId

section Results

variable {f : Fields} {id : Option (List UInt8)}

theorem resultId_command (type : List UInt8) :
    (resultId (f.command id type)).isSome = id.isSome := by
  unfold Fields.command
  dsimp only
  split_ifs
  · rfl
  · rfl
  · rfl
  · unfold Fields.update
    split
    · rfl
    · simp [resultId, setError]
  · rfl
  · simp [resultId, setError]

theorem resultId_decode (hid : f.requestId = some id) :
    (resultId f.decode).isSome = id.isSome := by
  unfold Fields.decode Fields.typed
  rw [hid]
  dsimp only
  split_ifs
  · simp [resultId, setError]
  · split
    · simp [resultId, setError]
    · simp [resultId, setError]
    · exact resultId_command _

/-- The message of a result that is an error. -/
def resultMessage : Except ErrorResponse Command → Option (List UInt8)
  | .error e => some e.errorMessage
  | .ok _ => none

/-- The message of an error, as it is stored. -/
def stored (message : String) : Option (List UInt8) := some (copyText jsonStringMax (bytes message))

theorem resultMessage_command (type : List UInt8) :
    resultMessage (f.command id type) ∈
      [none, stored "state field is invalid", stored "unsupported command type"] := by
  unfold Fields.command
  dsimp only
  split_ifs
  · exact List.mem_cons_self
  · exact List.mem_cons_self
  · exact List.mem_cons_self
  · unfold Fields.update
    split
    · exact List.mem_cons_self
    · exact List.mem_cons_of_mem _ List.mem_cons_self
  · exact List.mem_cons_self
  · exact List.mem_cons_of_mem _ (List.mem_cons_of_mem _ List.mem_cons_self)

/-- The messages of a request with a valid identifier and version; only an absent type is reported
as missing. -/
theorem resultMessage_typed (f : Fields) (id : Option (List UInt8)) :
    resultMessage (f.typed id) ∈
        [stored "type is invalid", none, stored "state field is invalid",
          stored "unsupported command type"] ∨
      f.type = .absent ∧ resultMessage (f.typed id) = stored "missing command type" := by
  unfold Fields.typed
  split
  · exact Or.inl List.mem_cons_self
  · next habsent => exact Or.inr ⟨habsent, rfl⟩
  · next type _ => exact Or.inl (List.mem_cons_of_mem _ (resultMessage_command type))

theorem resultMessage_typed_ne_missing (htype : f.type ≠ .absent) :
    resultMessage (f.typed id) ≠ stored "missing command type" := by
  intro heq
  rcases resultMessage_typed f id with hmem | ⟨habsent, -⟩
  · rw [heq] at hmem
    exact absurd hmem (by decide)
  · exact htype habsent

theorem resultMessage_typed_ne {message : String}
    (hmissing : stored message ≠ stored "missing command type")
    (hother : stored message ∉ [stored "type is invalid", none, stored "state field is invalid",
      stored "unsupported command type"]) : resultMessage (f.typed id) ≠ stored message := by
  intro heq
  rcases resultMessage_typed f id with hmem | ⟨-, hmessage⟩
  · rw [heq] at hmem
    exact hother hmem
  · rw [heq] at hmessage
    exact hmissing hmessage

theorem resultMessage_decode_ne_id (hid : f.requestId = some id) :
    resultMessage f.decode ≠ stored "request_id is invalid" := by
  unfold Fields.decode
  rw [hid]
  dsimp only
  split_ifs
  · change stored "unsupported protocol version" ≠ _
    decide
  · exact resultMessage_typed_ne (by decide) (by decide)

end Results

/-! ## When the hidden fields do not matter -/

section Hiding

variable {f : Fields} {h : Hidden}

/-- A hidden request identifier shows in every result. -/
theorem decode_hide_requestId (hhide : h.requestId = true) (hid : f.requestId ≠ some none) :
    (f.hide h).decode ≠ f.decode := by
  have hnone : (f.hide h).requestId = some none := by simp [Fields.hide, hhide]
  intro heq
  cases hf : f.requestId with
  | none =>
    have hmessage : resultMessage f.decode = stored "request_id is invalid" := by
      unfold Fields.decode
      rw [hf]
      rfl
    exact resultMessage_decode_ne_id hnone (heq ▸ hmessage)
  | some id =>
    have hsome := resultId_decode hf
    rw [← heq, resultId_decode hnone] at hsome
    cases id with
    | none => exact hid hf
    | some text => exact absurd hsome (by simp)

theorem decode_versioned {id : Option (List UInt8)} (hid : f.requestId = some id)
    (hversion : f.version = .value 1) : f.decode = f.typed id := by
  unfold Fields.decode
  rw [hid]
  exact if_neg (not_not.2 hversion)

theorem decode_not_versioned {id : Option (List UInt8)} (hid : f.requestId = some id)
    (hversion : f.version ≠ .value 1) :
    f.decode = .error (setError id .invalidVersion "unsupported protocol version") := by
  unfold Fields.decode
  rw [hid]
  exact if_pos hversion

theorem ite_none_eq_iff {α : Type} (b : Bool) (x : Option α) :
    (if b then none else x) = x ↔ (x ≠ none → b = false) := by
  cases b <;> cases x <;> simp

theorem command_set_state {id : Option (List UInt8)} {state : State} {sequence : UInt64}
    (hstate : f.state = some state) (hsequence : f.sequence = some sequence) :
    f.command id (bytes "set_state") = .ok ⟨.setState, id, f.owner, sequence, state⟩ := by
  have hcommand : f.command id (bytes "set_state") = f.update id := rfl
  rw [hcommand, Fields.update, hstate, hsequence]

theorem command_set_state_error {id : Option (List UInt8)}
    (hnone : f.state = none ∨ f.sequence = none) :
    f.command id (bytes "set_state") =
      .error (setError id .invalidState "state field is invalid") := by
  have hcommand : f.command id (bytes "set_state") = f.update id := rfl
  rw [hcommand, Fields.update]
  rcases hnone with hnone | hnone
  · rw [hnone]
  · rw [hnone]
    cases f.state <;> rfl

/-- Hidden fields of a command of a known type. -/
theorem command_hide_iff (id : Option (List UInt8)) (type : List UInt8) :
    (f.hide h).command id type = f.command id type ↔
      (type = bytes "release" → f.owner ≠ none → h.owner = false) ∧
      (type = bytes "set_state" → f.state ≠ none →
        (f.sequence ≠ none → h.state = false ∧ (f.owner ≠ none → h.owner = false)) ∧
        (h.state = false → h.sequence = true → f.sequence = some 0)) := by
  by_cases hrelease : type = bytes "release"
  · subst hrelease
    have hne : bytes "release" ≠ bytes "set_state" := by decide
    have hcommand : ∀ f : Fields, f.command id (bytes "release") =
        .ok { Command.init with requestId := id, type := .release, ownerClientId := f.owner } :=
      fun f => rfl
    rw [hcommand, hcommand]
    simp only [hne, false_implies, and_true, true_implies, Except.ok.injEq, Command.mk.injEq,
      true_and]
    exact ite_none_eq_iff h.owner f.owner
  by_cases hset : type = bytes "set_state"
  · subst hset
    have howner := ite_none_eq_iff h.owner f.owner
    cases hstate : f.state with
    | none =>
      have hhidden : (f.hide h).state = none := by
        cases h.state <;> simp [Fields.hide, hstate]
      rw [command_set_state_error (Or.inl hhidden), command_set_state_error (Or.inl hstate)]
      simp [hrelease]
    | some state =>
      cases hhideState : h.state with
      | true =>
        have hhidden : (f.hide h).state = none := by simp [Fields.hide, hhideState]
        rw [command_set_state_error (Or.inl hhidden)]
        cases hsequence : f.sequence with
        | none =>
          rw [command_set_state_error (Or.inr hsequence)]
          simp [hrelease]
        | some sequence =>
          rw [command_set_state hstate hsequence]
          simp [hrelease]
      | false =>
        have hkept : (f.hide h).state = some state := by simp [Fields.hide, hhideState, hstate]
        cases hhideSequence : h.sequence with
        | true =>
          have hzero : (f.hide h).sequence = some 0 := by simp [Fields.hide, hhideSequence]
          rw [command_set_state hkept hzero]
          cases hsequence : f.sequence with
          | none =>
            rw [command_set_state_error (Or.inr hsequence)]
            simp
          | some sequence =>
            rw [command_set_state hstate hsequence]
            simp only [hrelease, false_implies, true_and, true_implies, ne_eq, reduceCtorEq,
              not_false_eq_true, Option.some.injEq, Except.ok.injEq, Command.mk.injEq, and_true,
              Fields.hide, howner]
            exact and_congr_right fun _ => eq_comm
        | false =>
          have hsame : (f.hide h).sequence = f.sequence := by simp [Fields.hide, hhideSequence]
          cases hsequence : f.sequence with
          | none =>
            rw [command_set_state_error (Or.inr (hsame.trans hsequence)),
              command_set_state_error (Or.inr hsequence)]
            simp [hrelease]
          | some sequence =>
            rw [command_set_state hkept (hsame.trans hsequence),
              command_set_state hstate hsequence]
            simpa [hrelease, Fields.hide] using howner
  · have hcommand : (f.hide h).command id type = f.command id type := by
      unfold Fields.command
      simp only [hrelease, hset, if_false]
    exact ⟨fun _ => ⟨fun hc => absurd hc hrelease, fun hc => absurd hc hset⟩, fun _ => hcommand⟩

theorem harmless_of_not_versioned (hid : h.requestId = false) (hnot : ¬f.Versioned) :
    h.Harmless f where
  requestId := hid
  version := fun hv => absurd hv hnot
  type := fun hv => absurd hv hnot
  releaseOwner := fun hv => absurd hv hnot
  updateOwner := fun hv => absurd hv hnot
  state := fun hv => absurd hv hnot
  sequence := fun hv => absurd hv hnot

theorem harmless_of_no_type (hid : h.requestId = false) (hversion : h.version = false)
    (htype : h.type = false) (hno : ∀ type, f.type ≠ .value type) : h.Harmless f where
  requestId := hid
  version := fun _ => hversion
  type := fun _ => htype
  releaseOwner := fun _ heq => absurd heq (hno _)
  updateOwner := fun _ heq => absurd heq (hno _)
  state := fun _ heq => absurd heq (hno _)
  sequence := fun _ heq => absurd heq (hno _)

/-- Hidden fields of a request with a valid identifier and version. -/
theorem typed_hide_iff (hid : h.requestId = false) (hv : f.Versioned) (hversion : h.version = false)
    (htype : h.type = true → f.type ≠ .absent) (id : Option (List UInt8)) :
    (f.hide h).typed id = f.typed id ↔ h.Harmless f := by
  cases hhide : h.type with
  | true =>
    constructor
    · intro heq
      have hmissing : resultMessage ((f.hide h).typed id) = stored "missing command type" := by
        simp only [Fields.typed, Fields.hide, hhide, if_true]
        rfl
      rw [heq] at hmissing
      exact absurd hmissing (resultMessage_typed_ne_missing (htype hhide))
    · intro hharmless
      exact absurd (hhide.symm.trans (hharmless.type hv)) (by simp)
  | false =>
    have hsame : (f.hide h).type = f.type := by simp [Fields.hide, hhide]
    unfold Fields.typed
    rw [hsame]
    cases hf : f.type with
    | absent =>
      have hno : ∀ type, f.type ≠ .value type := fun type => by simp [hf]
      exact ⟨fun _ => harmless_of_no_type hid hversion hhide hno, fun _ => rfl⟩
    | invalid =>
      have hno : ∀ type, f.type ≠ .value type := fun type => by simp [hf]
      exact ⟨fun _ => harmless_of_no_type hid hversion hhide hno, fun _ => rfl⟩
    | value type =>
      refine (command_hide_iff id type).trans ⟨?_, ?_⟩
      · rintro ⟨hrelease, hset⟩
        refine ⟨hid, fun _ => hversion, fun _ => hhide, ?_, ?_, ?_, ?_⟩
        · intro _ heq
          exact hrelease (ReadResult.value.inj (hf.symm.trans heq))
        · intro _ heq hstate hsequence
          exact ((hset (ReadResult.value.inj (hf.symm.trans heq)) hstate).1 hsequence).2
        · intro _ heq hstate hsequence
          exact ((hset (ReadResult.value.inj (hf.symm.trans heq)) hstate).1 hsequence).1
        · intro _ heq hstate
          exact (hset (ReadResult.value.inj (hf.symm.trans heq)) hstate).2
      · intro hharmless
        refine ⟨?_, ?_⟩
        · rintro rfl
          exact hharmless.releaseOwner hv hf
        · rintro rfl hstate
          exact ⟨fun hsequence => ⟨hharmless.state hv hf hstate hsequence,
            hharmless.updateOwner hv hf hstate hsequence⟩, hharmless.sequence hv hf hstate⟩

/-- The result is the same without the hidden fields exactly when they do not matter. -/
theorem decode_hide_iff (hid : h.requestId = true → f.requestId ≠ some none)
    (htype : h.type = true → f.type ≠ .absent) :
    (f.hide h).decode = f.decode ↔ h.Harmless f := by
  cases hhideId : h.requestId with
  | true =>
    constructor
    · intro heq
      exact absurd heq (decode_hide_requestId hhideId (hid hhideId))
    · intro hharmless
      exact absurd (hhideId.symm.trans hharmless.requestId) (by simp)
  | false =>
    have hsameId : (f.hide h).requestId = f.requestId := by simp [Fields.hide, hhideId]
    cases hf : f.requestId with
    | none =>
      -- an invalid identifier is the only thing that is reported
      have hnot : ¬f.Versioned := fun hv => hv.requestId hf
      have hsame : (f.hide h).decode = f.decode := by
        unfold Fields.decode
        rw [hsameId, hf]
      exact ⟨fun _ => harmless_of_not_versioned hhideId hnot, fun _ => hsame⟩
    | some id =>
      rw [hf] at hsameId
      by_cases hversion : f.version = .value 1
      · have hv : f.Versioned := ⟨by simp [hf], hversion⟩
        rw [decode_versioned hf hversion]
        cases hhideVersion : h.version with
        | true =>
          have hbad : (f.hide h).version ≠ .value 1 := by simp [Fields.hide, hhideVersion]
          rw [decode_not_versioned hsameId hbad]
          constructor
          · intro heq
            have hmessage : stored "unsupported protocol version" = resultMessage (f.typed id) :=
              congrArg resultMessage heq
            exact absurd hmessage.symm (resultMessage_typed_ne (by decide) (by decide))
          · intro hharmless
            exact absurd (hhideVersion.symm.trans (hharmless.version hv)) (by simp)
        | false =>
          have hsameVersion : (f.hide h).version = .value 1 := by
            simp [Fields.hide, hhideVersion, hversion]
          rw [decode_versioned hsameId hsameVersion]
          exact typed_hide_iff hhideId hv hhideVersion htype id
      · -- the version is reported, hidden or not
        have hnot : ¬f.Versioned := fun hv => hversion hv.version
        have hbad : (f.hide h).version ≠ .value 1 := by
          unfold Fields.hide
          dsimp only
          split_ifs
          · simp
          · exact hversion
        have hsame : (f.hide h).decode = f.decode := by
          rw [decode_not_versioned hsameId hbad, decode_not_versioned hf hversion]
        exact ⟨fun _ => harmless_of_not_versioned hhideId hnot, fun _ => hsame⟩

end Hiding

/-! ## Insertions -/

theorem cons_comma (before : List Space) (name : List StringItem)
    (afterName beforeValue : List Space) (value : Value) (after : List Space) (rest : Members) :
    (Members.cons before name afterName beforeValue value after rest).comma = [0x2C] := rfl

theorem base_length_le (p : Insertion) :
    p.base.bytes.length ≤ p.extended.bytes.length ∧
      p.base.comma.length + p.base.bytes.length ≤
        p.extended.comma.length + p.extended.bytes.length := by
  induction p with
  | nil => exact ⟨Nat.le_refl _, Nat.le_refl _⟩
  | keep before name afterName beforeValue value after rest ih =>
    obtain ⟨-, hrest⟩ := ih
    simp only [Insertion.base, Insertion.extended, Members.bytes, cons_comma, List.length_append]
    omega
  | extra before name afterName beforeValue value after unknown rest ih =>
    obtain ⟨hbytes, hrest⟩ := ih
    simp only [Insertion.base, Insertion.extended, Members.bytes, cons_comma, List.length_append]
    omega

/-- A string that is hidden is there without the insertion. -/
theorem stringOf_of_hides {p : Insertion} {name : List UInt8} (h : p.hides name = true)
    (outSize : Nat) : stringOf (seen p.base name) outSize ≠ .absent := by
  obtain ⟨v, hv⟩ := Option.ne_none_iff_exists'.1 (seen_of_hides h)
  unfold stringOf
  rw [hv]
  cases v with
  | string items =>
    dsimp only
    split_ifs <;> simp
  | _ => simp

theorem requestIdOf_of_hides {p : Insertion} (h : p.hides (bytes "request_id") = true) :
    requestIdOf seen p.base ≠ some none := by
  have hread := stringOf_of_hides h jsonStringMax
  unfold requestIdOf
  split
  · simp
  · next habsent => exact absurd habsent hread
  · simp

/-- Inserted members leave the result unchanged exactly when no field that bears on the request is
hidden behind an escape of theirs. -/
theorem decodeCommand_insertion_iff [Platform] (leading ws trailing : List Space) (p : Insertion)
    (hlen : (objectText leading ws p.extended trailing).length ≤ jsonLineMax) :
    decodeCommand (objectText leading ws p.extended trailing) =
        decodeCommand (objectText leading ws p.base trailing) ↔
      p.hidden.Harmless (fieldsOf seen p.base) := by
  have hextended : (Value.object ws p.extended).bytes.length ≤ jsonLineMax := by
    simp only [objectText, List.length_append] at hlen
    omega
  have hbase : (Value.object ws p.base).bytes.length ≤ jsonLineMax := by
    have hle := (base_length_le p).1
    simp only [Value.bytes, List.length_append] at hextended ⊢
    omega
  rw [decodeCommand_object leading ws p.extended trailing hextended,
    decodeCommand_object leading ws p.base trailing hbase, fieldsOf_extended]
  exact decode_hide_iff requestIdOf_of_hides fun h => stringOf_of_hides h jsonStringMax

/-- The members of `{"v":1,"type":"hello"}`. -/
def helloRequest (rest : Insertion) : Insertion :=
  .keep [] (literal "v") [] [] numberOne []
    (.keep [] (literal "type") [] [] (.string (literal "hello")) [] rest)

/-- A member with a line break in its value. -/
def escapedExtra (rest : Insertion) : Insertion :=
  .extra [] (literal "x") [] [] (.string (literal "a" ++ [.escape .newline] ++ literal "b")) []
    (by decide) rest

/-- Behind the fields an escape does no harm. -/
theorem decodeCommand_insertion_last :
    let _ : Platform := Platform.lp64
    decodeCommand (objectText [] [] (helloRequest (escapedExtra .nil)).extended []) =
      decodeCommand (objectText [] [] (helloRequest (escapedExtra .nil)).base []) := by
  let _ : Platform := Platform.lp64
  have hnone : (helloRequest (escapedExtra .nil)).hidden =
      ⟨false, false, false, false, false, false⟩ := by decide +kernel
  refine (decodeCommand_insertion_iff [] [] [] (helloRequest (escapedExtra .nil))
    (by decide +kernel)).2 ?_
  rw [hnone]
  exact ⟨rfl, fun _ => rfl, fun _ => rfl, fun _ _ _ => rfl, fun _ _ _ _ _ => rfl,
    fun _ _ _ _ => rfl, fun _ _ _ _ h => absurd h (by decide)⟩

/-- Before the fields it hides the version. -/
theorem decodeCommand_insertion_first :
    let _ : Platform := Platform.lp64
    ¬∀ (leading ws trailing : List Space) (p : Insertion),
      (objectText leading ws p.extended trailing).length ≤ jsonLineMax →
      decodeCommand (objectText leading ws p.extended trailing) =
        decodeCommand (objectText leading ws p.base trailing) := by
  intro platform hunchanged
  have hresult := hunchanged [] [] [] (escapedExtra (helloRequest .nil)) (by decide +kernel)
  have hbase : decodeCommand (objectText [] [] (escapedExtra (helloRequest .nil)).base []) =
      .ok { Command.init with type := .hello } := by decide +kernel
  have hextended : decodeCommand (objectText [] [] (escapedExtra (helloRequest .nil)).extended []) =
      .error (setError none .invalidVersion "unsupported protocol version") := by decide +kernel
  rw [hbase, hextended] at hresult
  exact absurd hresult (by simp)

end Swbt.Ipc
