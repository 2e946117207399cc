import SwbtDaemon.Lib.CString
import SwbtDaemon.Support.Platform
import SwbtDaemon.Switch.ControllerState

/-!
# Decoding a request line

The reader half of `ipc/ipc_json.c`. A line is never parsed into a tree: `isCompleteObject` checks
braces, quotes and commas, and each field is then looked up by `findKeyValue`, which scans the raw
text again. Scanners return the rest of the text where the source returns a pointer into it.
-/

namespace Swbt.Ipc

open CString

/-- `SWBT_IPC_JSON_LINE_MAX`. -/
def jsonLineMax : Nat := 8192

/-- `SWBT_IPC_JSON_STRING_MAX`. -/
def jsonStringMax : Nat := 96

/-- `SWBT_IPC_OWNER_ID_HEX_SIZE`. -/
def ownerIdHexSize : Nat := 8

/-- `SWBT_IPC_STICK_MAX`. -/
def stickMax : Int := 4095

/-! ## The completeness check -/

/-- The local variables of the loop of `swbt_json_is_complete_object`. -/
structure CompleteScan where
  length : Nat
  depth : Int
  inString : Bool
  escaped : Bool
  lastSignificant : UInt8
deriving DecidableEq, Repr

/-- The loop of `swbt_json_is_complete_object`: the text after the object end it breaks at, or
`none` where the source returns false in or right after the loop. -/
def completeLoop (s : CompleteScan) : List UInt8 → Option (List UInt8)
  | [] => none
  | c :: cs =>
    if s.length ≥ jsonLineMax then none
    else
      let s := { s with length := s.length + 1 }
      if s.inString then
        if s.escaped then completeLoop { s with escaped := false } cs
        else if c = 0x5C then completeLoop { s with escaped := true } cs
        else if c = 0x22 then completeLoop { s with inString := false } cs
        else completeLoop s cs
      else if c = 0x22 then completeLoop { s with inString := true, lastSignificant := 0x22 } cs
      else if c = 0x7B then
        completeLoop { s with depth := s.depth + 1, lastSignificant := 0x7B } cs
      else if c = 0x7D then
        if s.lastSignificant = 0x2C then none
        else if s.depth - 1 < 0 then none
        else if s.depth - 1 = 0 then some cs
        else completeLoop { s with depth := s.depth - 1, lastSignificant := 0x7D } cs
      else if c = 0x2C then
        if s.lastSignificant = 0x2C ∨ s.lastSignificant = 0x7B then none
        else completeLoop { s with lastSignificant := 0x2C } cs
      else if !isspace c then completeLoop { s with lastSignificant := c } cs
      else completeLoop s cs

/-- `swbt_json_is_complete_object`. -/
def isCompleteObject (line : List UInt8) : Bool :=
  match skipSpace line with
  | 0x7B :: cs =>
    match completeLoop ⟨0, 0, false, false, 0⟩ (0x7B :: cs) with
    | none => false
    | some rest => skipSpace rest == []
  | _ => false

/-! ## Looking up a key -/

/-- The local variables of the loop of `swbt_json_find_key_value`. `skip` counts the bytes up to
and including `key_end`, which the loop jumps over after a probed key. -/
structure FindScan where
  inString : Bool
  escaped : Bool
  sawRootObject : Bool
  depth : Nat
  skip : Nat
deriving DecidableEq, Repr

/-- The bytes of a probed key: up to the first quote or backslash. -/
def keyText (s : List UInt8) : List UInt8 := s.takeWhile fun c => c != 0x22 && c != 0x5C

/-- The loop of `swbt_json_find_key_value`. -/
def findLoop (key : List UInt8) (s : FindScan) : List UInt8 → Option (List UInt8)
  | [] => none
  | c :: cs =>
    if s.skip > 0 then findLoop key { s with skip := s.skip - 1 } cs
    else if s.inString then
      if s.escaped then findLoop key { s with escaped := false } cs
      else if c = 0x5C then findLoop key { s with escaped := true } cs
      else if c = 0x22 then findLoop key { s with inString := false } cs
      else findLoop key s cs
    else if c = 0x7B then
      findLoop key { s with sawRootObject := true, depth := s.depth + 1 } cs
    else if c = 0x7D then
      let depth := if s.depth > 0 then s.depth - 1 else s.depth
      if s.sawRootObject ∧ depth = 0 then none else findLoop key { s with depth := depth } cs
    else if c ≠ 0x22 then findLoop key s cs
    else if s.depth ≠ 1 then findLoop key { s with inString := true } cs
    else
      -- a string at depth one is probed as a key
      let name := keyText cs
      match cs.drop name.length with
      | 0x22 :: afterQuote =>
        match skipSpace afterQuote with
        | 0x3A :: afterColon =>
          if name = key then some (skipSpace afterColon)
          else findLoop key { s with skip := name.length + 1 } cs
        | _ => findLoop key { s with skip := name.length + 1 } cs
      | _ => none

/-- `swbt_json_find_key_value`. -/
def findKeyValue (json key : List UInt8) : Option (List UInt8) :=
  findLoop key ⟨false, false, false, 0, 0⟩ json

/-! ## Reading a value -/

/-- The result of a read: `0` for an absent value, `-1` for an invalid one, `1` for a value. -/
inductive ReadResult (α : Type) where
  | absent
  | invalid
  | value (a : α)
deriving DecidableEq, Repr

/-- The check on the text after a value: one of `,`, `}`, `]` or the terminator. -/
def valueEnds (s : List UInt8) : Bool :=
  match skipSpace s with
  | [] => true
  | c :: _ => c == 0x2C || c == 0x7D || c == 0x5D

/-- The loop of `swbt_json_read_string`: the bytes up to the closing quote and the text after it.
`length` bytes are already stored in the buffer of `outSize` bytes. -/
def readStringLoop (outSize : Nat) (length : Nat) : List UInt8 → Option (List UInt8 × List UInt8)
  | [] => none
  | c :: cs =>
    if c = 0x22 then some ([], cs)
    else if c = 0x5C ∨ c < 0x20 then none
    else if length + 1 ≥ outSize then none
    else (readStringLoop outSize (length + 1) cs).map fun r => (c :: r.1, r.2)

/-- `swbt_json_read_string`. -/
def readString (value : Option (List UInt8)) (outSize : Nat) : ReadResult (List UInt8) :=
  match value with
  | none => .absent
  | some (0x22 :: cs) =>
    match readStringLoop outSize 0 cs with
    | none => .invalid
    | some (text, rest) => if valueEnds rest then .value text else .invalid
  | some _ => .invalid

/-- `swbt_json_read_i64`. -/
def readI64 (value : Option (List UInt8)) : ReadResult Int :=
  match value with
  | none => .absent
  | some s =>
    match strtoll s with
    | none => .invalid
    | some r =>
      if r.outOfRange then .invalid else if valueEnds r.rest then .value r.value else .invalid

/-- `swbt_json_get_string`. -/
def getString (json key : List UInt8) (outSize : Nat) : ReadResult (List UInt8) :=
  readString (findKeyValue json key) outSize

/-- `swbt_json_get_i64`. -/
def getI64 (json key : List UInt8) : ReadResult Int := readI64 (findKeyValue json key)

/-- `swbt_ipc_parse_owner_id`. -/
def parseOwnerId [Platform] (ownerId : List UInt8) : Option UInt32 :=
  if ownerId.length ≠ ownerIdHexSize then none
  else
    match strtoul16 Platform.ulong.bits ownerId with
    | none => none
    | some r =>
      if r.outOfRange ∨ r.rest ≠ [] ∨ r.value > 0xFFFFFFFF then none
      else some r.value.toUInt32

/-- `swbt_ipc_parse_request_id`: `none` when the field is invalid. -/
def parseRequestId (line : List UInt8) : Option (Option (List UInt8)) :=
  match getString line (bytes "request_id") jsonStringMax with
  | .invalid => none
  | .absent => some none
  | .value text => some (some text)

/-- `swbt_ipc_parse_required_i64`. -/
def parseRequiredI64 (line key : List UInt8) : Option Int :=
  match getI64 line key with
  | .value n => some n
  | _ => none

/-- `swbt_ipc_parse_i16_field`. -/
def parseI16Field (line key : List UInt8) : Option Int16 := do
  let value ← parseRequiredI64 line key
  if value < -32768 ∨ value > 32767 then none else some (Int16.ofInt value)

/-- `swbt_ipc_parse_stick_field`. -/
def parseStickField (line key : List UInt8) : Option UInt16 := do
  let value ← parseRequiredI64 line key
  if value < 0 ∨ value > stickMax then none else some value.toNat.toUInt16

/-- The `buttons` part of `swbt_ipc_parse_state`. -/
def parseButtons (stateJson : List UInt8) : Option UInt32 := do
  let buttons ← parseRequiredI64 stateJson (bytes "buttons")
  if buttons < 0 ∨ buttons > 0xFFFFFFFF ∨ buttons.toNat.toUInt32 &&& ~~~definedButtonMask ≠ 0 then
    none
  else some buttons.toNat.toUInt32

/-- The fields that `swbt_ipc_parse_state` reads from the text of the state object. -/
def parseStateFields (stateJson : List UInt8) : Option State := do
  let buttons ← parseButtons stateJson
  let lx ← parseStickField stateJson (bytes "lx")
  let ly ← parseStickField stateJson (bytes "ly")
  let rx ← parseStickField stateJson (bytes "rx")
  let ry ← parseStickField stateJson (bytes "ry")
  let accelX ← parseI16Field stateJson (bytes "accel_x")
  let accelY ← parseI16Field stateJson (bytes "accel_y")
  let accelZ ← parseI16Field stateJson (bytes "accel_z")
  let gyroX ← parseI16Field stateJson (bytes "gyro_x")
  let gyroY ← parseI16Field stateJson (bytes "gyro_y")
  let gyroZ ← parseI16Field stateJson (bytes "gyro_z")
  some ⟨buttons, lx, ly, rx, ry, accelX, accelY, accelZ, gyroX, gyroY, gyroZ⟩

/-- The sequence that `swbt_ipc_parse_state` reads from the line: zero when it is absent. -/
def parseSequence (line : List UInt8) : Option UInt64 :=
  match getI64 line (bytes "seq") with
  | .invalid => none
  | .absent => some 0
  | .value seq => if seq < 0 then none else some seq.toNat.toUInt64

/-- `swbt_ipc_parse_state`. -/
def parseState (line : List UInt8) : Option (State × UInt64) :=
  match findKeyValue line (bytes "state") with
  | some (0x7B :: cs) => do
    let state ← parseStateFields (0x7B :: cs)
    let sequence ← parseSequence line
    some (state, sequence)
  | _ => none

/-! ## Commands -/

/-- `swbt_ipc_command_type_t`. -/
inductive CommandType where
  | none
  | hello
  | acquire
  | release
  | setState
  | getStatus
deriving DecidableEq, Repr

/-- `swbt_ipc_error_code_t`. -/
inductive ErrorCode where
  | invalidJson
  | invalidVersion
  | unsupportedCommand
  | ownerBusy
  | notOwner
  | invalidState
  | internalError
deriving DecidableEq, Repr

/-- `swbt_ipc_command_t`. -/
structure Command where
  type : CommandType
  requestId : Option (List UInt8)
  ownerClientId : Option UInt32
  sequence : UInt64
  state : State
deriving DecidableEq, Repr

/-- `swbt_ipc_json_init_command`. -/
def Command.init : Command := ⟨.none, none, none, 0, State.neutral⟩

/-- The fields of `swbt_ipc_response_t` that `set_error` writes. -/
structure ErrorResponse where
  requestId : Option (List UInt8)
  errorCode : ErrorCode
  errorMessage : List UInt8
deriving DecidableEq, Repr

/-- `swbt_ipc_json_copy_text` and `swbt_ipc_adapter_copy_text` into a buffer of `outSize` bytes. -/
def copyText (outSize : Nat) (text : List UInt8) : List UInt8 := text.take (outSize - 1)

/-- `swbt_ipc_json_set_error` and `swbt_ipc_adapter_set_error`. -/
def setError (requestId : Option (List UInt8)) (errorCode : ErrorCode) (message : String) :
    ErrorResponse :=
  ⟨requestId.map (copyText jsonStringMax), errorCode, copyText jsonStringMax (bytes message)⟩

/-- The `owner_id` part of the `release` and `set_state` branches. -/
def decodeOwnerId [Platform] (line : List UInt8) : Option UInt32 :=
  match getString line (bytes "owner_id") jsonStringMax with
  | .value ownerId => parseOwnerId ownerId
  | _ => none

/-- The part of `swbt_ipc_json_decode_command` after the type is known. -/
def decodeType [Platform] (line : List UInt8) (requestId : Option (List UInt8))
    (type : List UInt8) : Except ErrorResponse Command :=
  let command := { Command.init with requestId := requestId.map (copyText jsonStringMax) }
  if type = bytes "hello" then .ok { command with type := .hello }
  else if type = bytes "acquire" then .ok { command with type := .acquire }
  else if type = bytes "release" then
    .ok { command with type := .release, ownerClientId := decodeOwnerId line }
  else if type = bytes "set_state" then
    match parseState line with
    | none => .error (setError requestId .invalidState "state field is invalid")
    | some (state, sequence) =>
      .ok { command with
        type := .setState
        ownerClientId := decodeOwnerId line
        sequence := sequence
        state := state }
  else if type = bytes "get_status" then .ok { command with type := .getStatus }
  else .error (setError requestId .unsupportedCommand "unsupported command type")

/-- `swbt_ipc_json_decode_command` on a C string: the command, or the error response. -/
def decodeCommand [Platform] (line : List UInt8) : Except ErrorResponse Command :=
  if !isCompleteObject line then
    .error (setError none .invalidJson "message is not a complete JSON object")
  else
    match parseRequestId line with
    | none => .error (setError none .invalidJson "request_id is invalid")
    | some requestId =>
      if getI64 line (bytes "v") ≠ .value 1 then
        .error (setError requestId .invalidVersion "unsupported protocol version")
      else
        match getString line (bytes "type") jsonStringMax with
        | .invalid => .error (setError requestId .invalidJson "type is invalid")
        | .absent => .error (setError requestId .unsupportedCommand "missing command type")
        | .value type => decodeType line requestId type

end Swbt.Ipc
