import SwbtDaemon.Ipc.Json
import SwbtDaemon.Lib.Json

/-!
# The reference decoder

What `swbt_ipc_json_decode_command` is meant to compute: the line is a JSON object, each field is
the value of the first top-level member with its exact name, and the fields of the state come from
the members of the state object. This is not a translation of the source. The decoder is stated
over the lookup of a member, so that it also says what the source computes with its own lookup.
-/

namespace Swbt.Ipc.Reference

open CString Json

/-- A string of fewer than `outSize` bytes. -/
def stringOf (value : Option Value) (outSize : Nat) : ReadResult (List UInt8) :=
  match value with
  | none => .absent
  | some (.string items) =>
    if (decoded items).length < outSize then .value (decoded items) else .invalid
  | some _ => .invalid

/-- A number written as an integer, in the range of 64 bits. -/
def integerOf (value : Option Value) : ReadResult Int :=
  match value with
  | none => .absent
  | some (.number n) =>
    match n.toInt? with
    | some i => if -2 ^ 63 ≤ i ∧ i ≤ 2 ^ 63 - 1 then .value i else .invalid
    | none => .invalid
  | some _ => .invalid

section Decoder

variable (look : Members → List UInt8 → Option Value)

/-- A field that has to be there and to be an integer between `low` and `high`. -/
def integerField (fields : Members) (key : String) (low high : Int) : Option Int :=
  match integerOf (look fields (bytes key)) with
  | .value i => if low ≤ i ∧ i ≤ high then some i else none
  | _ => none

def stickField (fields : Members) (key : String) : Option UInt16 :=
  (integerField look fields key 0 stickMax).map fun i => i.toNat.toUInt16

def i16Field (fields : Members) (key : String) : Option Int16 :=
  (integerField look fields key (-32768) 32767).map Int16.ofInt

/-- The buttons: only bits of defined buttons may be set. -/
def buttonsField (fields : Members) : Option UInt32 :=
  match integerField look fields "buttons" 0 0xFFFFFFFF with
  | some i => if i.toNat.toUInt32 &&& ~~~definedButtonMask = 0 then some i.toNat.toUInt32 else none
  | none => none

/-- The controller state of a state object. -/
def stateOf (fields : Members) : Option State := do
  let buttons ← buttonsField look fields
  let lx ← stickField look fields "lx"
  let ly ← stickField look fields "ly"
  let rx ← stickField look fields "rx"
  let ry ← stickField look fields "ry"
  let accelX ← i16Field look fields "accel_x"
  let accelY ← i16Field look fields "accel_y"
  let accelZ ← i16Field look fields "accel_z"
  let gyroX ← i16Field look fields "gyro_x"
  let gyroY ← i16Field look fields "gyro_y"
  let gyroZ ← i16Field look fields "gyro_z"
  some ⟨buttons, lx, ly, rx, ry, accelX, accelY, accelZ, gyroX, gyroY, gyroZ⟩

/-- The controller state of a request, when its member `state` is an object. -/
def stateIn (request : Members) : Option State :=
  match look request (bytes "state") with
  | some (.object _ fields) => stateOf look fields
  | _ => none

/-- The sequence: zero when it is absent. -/
def sequenceOf (request : Members) : Option UInt64 :=
  match integerOf (look request (bytes "seq")) with
  | .invalid => none
  | .absent => some 0
  | .value seq => if seq < 0 then none else some seq.toNat.toUInt64

/-- The owner: its eight hexadecimal digits, read as the source reads them. -/
def ownerOf [Platform] (request : Members) : Option UInt32 :=
  match stringOf (look request (bytes "owner_id")) jsonStringMax with
  | .value ownerId => parseOwnerId ownerId
  | _ => none

/-- The request identifier: `none` when the member is invalid. -/
def requestIdOf (request : Members) : Option (Option (List UInt8)) :=
  match stringOf (look request (bytes "request_id")) jsonStringMax with
  | .invalid => none
  | .absent => some none
  | .value text => some (some text)

end Decoder

/-- The fields of a request. -/
structure Fields where
  requestId : Option (Option (List UInt8))
  version : ReadResult Int
  type : ReadResult (List UInt8)
  owner : Option UInt32
  state : Option State
  sequence : Option UInt64

/-- The fields of the members that `look` finds. -/
def fieldsOf [Platform] (look : Members → List UInt8 → Option Value) (request : Members) :
    Fields where
  requestId := requestIdOf look request
  version := integerOf (look request (bytes "v"))
  type := stringOf (look request (bytes "type")) jsonStringMax
  owner := ownerOf look request
  state := stateIn look request
  sequence := sequenceOf look request

/-- A state update. -/
def Fields.update (f : Fields) (requestId : Option (List UInt8)) : Except ErrorResponse Command :=
  match f.state, f.sequence with
  | some state, some sequence =>
    .ok { Command.init with
      type := .setState
      requestId := requestId
      ownerClientId := f.owner
      sequence := sequence
      state := state }
  | _, _ => .error (setError requestId .invalidState "state field is invalid")

/-- A command of a known type. -/
def Fields.command (f : Fields) (requestId : Option (List UInt8)) (type : List UInt8) :
    Except ErrorResponse Command :=
  let command := { Command.init with requestId := requestId }
  if type = bytes "hello" then .ok { command with type := .hello }
  else if type = bytes "acquire" then .ok { command with type := .acquire }
  else if type = bytes "release" then
    .ok { command with type := .release, ownerClientId := f.owner }
  else if type = bytes "set_state" then f.update requestId
  else if type = bytes "get_status" then .ok { command with type := .getStatus }
  else .error (setError requestId .unsupportedCommand "unsupported command type")

/-- The command of a request with a valid identifier and version. -/
def Fields.typed (f : Fields) (requestId : Option (List UInt8)) : Except ErrorResponse Command :=
  match f.type with
  | .invalid => .error (setError requestId .invalidJson "type is invalid")
  | .absent => .error (setError requestId .unsupportedCommand "missing command type")
  | .value type => f.command requestId type

/-- The command of a request, or its error. -/
def Fields.decode (f : Fields) : Except ErrorResponse Command :=
  match f.requestId with
  | none => .error (setError none .invalidJson "request_id is invalid")
  | some requestId =>
    if f.version ≠ .value 1 then
      .error (setError requestId .invalidVersion "unsupported protocol version")
    else f.typed requestId

/-- The value of the first member with a name. -/
def first (members : Members) (key : List UInt8) : Option Value := members.find? key

/-- The reference decoder. -/
def decode [Platform] (request : Members) : Except ErrorResponse Command :=
  (fieldsOf first request).decode

/-! ## The lookup of the source -/

/-- The value that `findKeyValue` stops at: a member whose name has an escape ends the scan, and so
does one whose value has an escape outside of its objects, unless it is the one that is looked
for. -/
def scanMembers (key : List UInt8) : Members → Option Value
  | .nil => none
  | .cons _ name _ _ value _ rest =>
    if Json.isPlain name then
      if decoded name = key then some value
      else if value.isPlain then scanMembers key rest
      else none
    else none

/-- What the readers make of a value: a string with an escape is as invalid as any value that is
neither a string nor a number. -/
def legible : Value → Value
  | .string items => if Json.isPlain items then .string items else .null
  | v => v

/-- The value that the source reads for a name. -/
def seen (members : Members) (key : List UInt8) : Option Value :=
  (scanMembers key members).map legible

end Swbt.Ipc.Reference
