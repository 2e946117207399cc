import SwbtDaemon.Ipc.Adapter
import SwbtDaemon.Ipc.Proofs.RawTextProofs

/-!
# Malformed lines

A line is rejected unless its braces, quotes and commas are in order and a request is spelled in its
text. Nothing else of the JSON grammar is checked.
-/

namespace Swbt.Ipc

open CString Json Braces

/-- The fields that the decoder reads from a line make a request. -/
structure ReadsAsRequest (line : List UInt8) : Prop where
  requestId : getString line (bytes "request_id") jsonStringMax ≠ .invalid
  version : getI64 line (bytes "v") = .value 1
  type : ∃ type, getString line (bytes "type") jsonStringMax = .value type ∧
    (type ∈ [bytes "hello", bytes "acquire", bytes "release", bytes "get_status"] ∨
      type = bytes "set_state" ∧ parseState line ≠ none)

/-- The line is answered with an error, and the control stays as it is. -/
structure Rejected [Platform] (line : List UInt8) : Prop where
  decode : ∃ e, decodeCommand line = .error e
  handle : ∀ control clientId responseSize,
    (handleLine control clientId line responseSize).2 = control

section Accepted

variable {line : List UInt8}

theorem parseRequestId_eq_none_iff :
    parseRequestId line = none ↔ getString line (bytes "request_id") jsonStringMax = .invalid := by
  unfold parseRequestId
  cases getString line (bytes "request_id") jsonStringMax <;> simp

theorem opens_of_braced (h : BracedLine line) : Opens line := by
  obtain ⟨before, text, after, rfl, ⟨content, last, rfl, -⟩, -, hbefore, -⟩ := h
  exact ⟨before, content ++ [0x7D] ++ after, hbefore, by simp⟩

/-- The decoder reads the fields that the text spells. -/
theorem readsAsRequest_iff (hopens : Opens line) : ReadsAsRequest line ↔ SpellsRequest line := by
  have hid : getString line (bytes "request_id") jsonStringMax ≠ .invalid ↔ _ :=
    getString_ne_invalid_iff hopens (unescaped_of_all (by decide))
  have hversion : getI64 line (bytes "v") = .value 1 ↔ _ :=
    getI64_iff hopens (unescaped_of_all (by decide)) 1
  have htype (type : List UInt8) :
      getString line (bytes "type") jsonStringMax = .value type ↔ _ :=
    getString_iff hopens (unescaped_of_all (by decide)) type
  have hstate := parseState_ne_none_iff hopens
  constructor
  · rintro ⟨hrequest, hone, type, hvalue, hmem | ⟨rfl, hupdate⟩⟩
    · exact ⟨hid.1 hrequest, hversion.1 hone, Or.inl ⟨type, hmem, (htype type).1 hvalue⟩⟩
    · exact ⟨hid.1 hrequest, hversion.1 hone,
        Or.inr ⟨(htype _).1 hvalue, hstate.1 hupdate⟩⟩
  · rintro ⟨hrequest, hone, ⟨type, hmem, hspelled⟩ | ⟨hspelled, hupdate⟩⟩
    · exact ⟨hid.2 hrequest, hversion.2 hone, type, (htype type).2 hspelled, Or.inl hmem⟩
    · exact ⟨hid.2 hrequest, hversion.2 hone, _, (htype _).2 hspelled,
        Or.inr ⟨rfl, hstate.2 hupdate⟩⟩

variable [Platform]

theorem decodeType_ok_iff (requestId : Option (List UInt8)) (type : List UInt8) :
    (∃ command, decodeType line requestId type = .ok command) ↔
      type ∈ [bytes "hello", bytes "acquire", bytes "release", bytes "get_status"] ∨
        type = bytes "set_state" ∧ parseState line ≠ none := by
  unfold decodeType
  dsimp only
  by_cases hset : type = bytes "set_state"
  · subst hset
    have hother : bytes "set_state" ∉
        [bytes "hello", bytes "acquire", bytes "release", bytes "get_status"] := by decide
    rw [if_neg (by decide), if_neg (by decide), if_neg (by decide), if_pos rfl]
    cases hstate : parseState line with
    | none => simp [hother]
    | some update => simp
  · simp only [List.mem_cons, List.not_mem_nil, or_false, hset, false_and, if_false]
    split_ifs with hhello hacquire hrelease hstatus
    · simp [hhello]
    · simp [hacquire]
    · simp [hrelease]
    · simp [hstatus]
    · simp [hhello, hacquire, hrelease, hstatus]

theorem readsAsRequest_of_ok {command : Command} (h : decodeCommand line = .ok command) :
    isCompleteObject line = true ∧ ReadsAsRequest line := by
  unfold decodeCommand at h
  split at h
  · exact absurd h (by simp)
  · next hcomplete =>
    split at h
    · exact absurd h (by simp)
    · next requestId hid =>
      have hvalid : getString line (bytes "request_id") jsonStringMax ≠ .invalid := by
        rw [ne_eq, ← parseRequestId_eq_none_iff, hid]
        simp
      split at h
      · exact absurd h (by simp)
      · next hversion =>
        split at h
        · exact absurd h (by simp)
        · exact absurd h (by simp)
        · next type htype =>
          exact ⟨by simpa using hcomplete, hvalid, not_not.1 hversion, type, htype,
            (decodeType_ok_iff requestId type).1 ⟨command, h⟩⟩

theorem ok_of_readsAsRequest (hcomplete : isCompleteObject line = true)
    (h : ReadsAsRequest line) : ∃ command, decodeCommand line = .ok command := by
  obtain ⟨hid, hversion, type, htype, hok⟩ := h
  obtain ⟨requestId, hrequest⟩ := Option.ne_none_iff_exists'.1
    (mt parseRequestId_eq_none_iff.1 hid)
  unfold decodeCommand
  rw [hcomplete, hrequest, hversion, htype]
  exact (decodeType_ok_iff requestId type).2 hok

/-- The lines that the decoder takes for a command. -/
theorem decodeCommand_ok_iff :
    (∃ command, decodeCommand line = .ok command) ↔ BracedLine line ∧ SpellsRequest line := by
  constructor
  · rintro ⟨command, h⟩
    obtain ⟨hcomplete, hreads⟩ := readsAsRequest_of_ok h
    have hbraced := (isCompleteObject_iff line).1 hcomplete
    exact ⟨hbraced, (readsAsRequest_iff (opens_of_braced hbraced)).1 hreads⟩
  · rintro ⟨hbraced, hspelled⟩
    exact ok_of_readsAsRequest ((isCompleteObject_iff line).2 hbraced)
      ((readsAsRequest_iff (opens_of_braced hbraced)).2 hspelled)

theorem handleLine_of_error {e : ErrorResponse} (h : decodeCommand line = .error e)
    (control : Control) (clientId : UInt32) (responseSize : Nat) :
    (handleLine control clientId line responseSize).2 = control := by
  unfold handleLine
  rw [h]
  split <;> rfl

end Accepted

/-- **Which lines are rejected.** A line, malformed or not, is answered with an error and changes
nothing exactly when its braces, quotes and commas are out of order or no request is spelled in its
text. -/
theorem malformed_rejected_iff [Platform] (line : List UInt8) :
    Rejected line ↔ ¬(BracedLine line ∧ SpellsRequest line) := by
  rw [← decodeCommand_ok_iff]
  constructor
  · rintro ⟨⟨e, he⟩, -⟩ ⟨command, hcommand⟩
    rw [he] at hcommand
    exact absurd hcommand (by simp)
  · intro hno
    cases hdecode : decodeCommand line with
    | ok command => exact absurd ⟨command, hdecode⟩ hno
    | error e => exact ⟨⟨e, hdecode⟩, handleLine_of_error hdecode⟩

/-- A request with a letter before its first name and `tail` after its last value. -/
def strayLetter (tail : String) : List UInt8 :=
  bytes "\x7bx\"v\":1,\"type\":\"acquire\"" ++ bytes tail

theorem strayLetter_malformed (tail : String) : ¬IsObject (strayLetter tail) := by
  intro h
  have hsecond : (0x78 : UInt8) ∈ [0x20, 0x09, 0x0A, 0x0D, 0x22, 0x7D] := second_byte_of_isObject h
  exact absurd hsecond (by decide)

/-- With a trailing comma the line is rejected. -/
theorem strayLetter_comma_rejected :
    let _ : Platform := Platform.lp64
    Rejected (strayLetter ",\x7d") := by
  let _ : Platform := Platform.lp64
  refine (malformed_rejected_iff _).2 ?_
  rintro ⟨hbraced, -⟩
  have hcomplete := (isCompleteObject_iff _).2 hbraced
  exact absurd hcomplete (by decide)

/-- Without it the line is taken for a command, and the client becomes the owner. -/
theorem strayLetter_acquires :
    let _ : Platform := Platform.lp64
    0 ∉ strayLetter "\x7d" ∧ ¬IsObject (strayLetter "\x7d") ∧ ¬Rejected (strayLetter "\x7d") ∧
      ∀ control clientId, control.app.lease.hasOwner = false →
        (handleLine control clientId (strayLetter "\x7d") 1024).2.app.lease.hasOwner = true := by
  intro platform
  have hdecode : decodeCommand (strayLetter "\x7d") =
      .ok { Command.init with type := .acquire } := by decide
  refine ⟨by decide, strayLetter_malformed _, ?_, ?_⟩
  · rintro ⟨⟨e, he⟩, -⟩
    rw [hdecode] at he
    exact absurd he (by simp)
  · intro control clientId hfree
    have hacquire : (control.acquireClient clientId).2.app.lease.hasOwner = true := by
      unfold Control.acquireClient Control.onApp Domain.acquire Lease.acquire
      simp [hfree]
    unfold handleLine
    rw [hdecode, if_neg (by decide)]
    unfold executeCommand
    dsimp only
    split <;> exact hacquire

end Swbt.Ipc
