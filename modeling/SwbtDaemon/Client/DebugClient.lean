import SwbtDaemon.Ipc.Encode
import SwbtDaemon.Lib.CString

/-!
# The debug client

The command line and the `set_state` request of `debug_client.c`. An argument is the list of its
bytes; what the source writes to its error stream is the error of the parser.
-/

namespace Swbt.DebugClient

open CString

/-- `swbt_debug_client_config_t`. -/
structure Config where
  port : UInt16
  state : State
  sequence : UInt64
  holdMs : UInt32
  skipRelease : Bool
deriving DecidableEq, Repr

/-- The local `config` at the start of `swbt_debug_client_parse_args`. -/
def Config.init : Config := ⟨0, State.neutral, 0, 0, false⟩

/-- `SWBT_DEBUG_CLIENT_DEFINED_BUTTON_MASK`. -/
def definedButtonMask : UInt32 :=
  [Button.y, .x, .b, .a, .srR, .slR, .r, .zr, .minus, .plus, .rStick, .lStick, .home, .capture,
    .down, .up, .right, .left, .srL, .slL, .l, .zl].foldl
      (fun mask button => mask ||| button.mask) 0

/-- `SWBT_DEBUG_CLIENT_BUTTONS`. -/
def buttons : List (String × UInt32) :=
  [("y", Button.y.mask), ("x", Button.x.mask), ("b", Button.b.mask), ("a", Button.a.mask),
    ("sr-r", Button.srR.mask), ("sl-r", Button.slR.mask), ("r", Button.r.mask),
    ("zr", Button.zr.mask), ("minus", Button.minus.mask), ("plus", Button.plus.mask),
    ("r-stick", Button.rStick.mask), ("l-stick", Button.lStick.mask), ("home", Button.home.mask),
    ("capture", Button.capture.mask), ("down", Button.down.mask), ("up", Button.up.mask),
    ("right", Button.right.mask), ("left", Button.left.mask), ("sr-l", Button.srL.mask),
    ("sl-l", Button.slL.mask), ("l", Button.l.mask), ("zl", Button.zl.mask)]

/-! ## Numbers and names -/

/-- `swbt_debug_client_parse_u64`. -/
def parseU64 (text : List UInt8) (maxValue : Nat) : Option Nat :=
  match text with
  | [] => none
  | 0x2D :: _ => none
  | _ =>
    match strtoull0 text with
    | none => none
    | some r => if r.outOfRange ∨ r.rest ≠ [] ∨ r.value > maxValue then none else some r.value

/-- `swbt_debug_client_parse_i64`. -/
def parseI64 (text : List UInt8) (minValue maxValue : Int) : Option Int :=
  match text with
  | [] => none
  | _ =>
    match strtoll0 text with
    | none => none
    | some r =>
      if r.outOfRange ∨ r.rest ≠ [] ∨ r.value < minValue ∨ r.value > maxValue then none
      else some r.value

/-- `swbt_debug_client_parse_stick`. -/
def parseStick (option text : List UInt8) : Except (List UInt8) UInt16 :=
  match parseU64 text 4095 with
  | none => .error (option ++ bytes " must be in range 0..4095\n")
  | some parsed => .ok parsed.toUInt16

/-- `swbt_debug_client_parse_i16_option`. -/
def parseI16Option (option text : List UInt8) : Except (List UInt8) Int16 :=
  match parseI64 text (-32768) 32767 with
  | none => .error (option ++ bytes " must be in range -32768..32767\n")
  | some parsed => .ok (Int16.ofInt parsed)

/-- `swbt_debug_client_parse_button_name`. -/
def parseButtonName (text : List UInt8) : Option UInt32 :=
  (buttons.find? fun button => bytes button.1 == text).map Prod.snd

/-! ## Options -/

/-- The options that take a value. -/
inductive ValueOption where
  | port | buttons | button
  | lx | ly | rx | ry
  | accelX | accelY | accelZ | gyroX | gyroY | gyroZ
  | seq | holdMs
deriving DecidableEq, Repr

/-- The options that take a value, in the order in which an argument is compared with them. -/
def ValueOption.all : List ValueOption :=
  [.port, .buttons, .button, .lx, .ly, .rx, .ry, .accelX, .accelY, .accelZ, .gyroX, .gyroY, .gyroZ,
    .seq, .holdMs]

def ValueOption.name : ValueOption → String
  | .port => "--port"
  | .buttons => "--buttons"
  | .button => "--button"
  | .lx => "--lx"
  | .ly => "--ly"
  | .rx => "--rx"
  | .ry => "--ry"
  | .accelX => "--accel-x"
  | .accelY => "--accel-y"
  | .accelZ => "--accel-z"
  | .gyroX => "--gyro-x"
  | .gyroY => "--gyro-y"
  | .gyroZ => "--gyro-z"
  | .seq => "--seq"
  | .holdMs => "--hold-ms"

/-- The option that an argument names. -/
def ValueOption.ofArg (arg : List UInt8) : Option ValueOption :=
  all.find? fun option => bytes option.name == arg

/-- The message of an option that does not name its argument: also written after a missing value. -/
def ValueOption.message : ValueOption → List UInt8
  | .port => bytes "--port must be in range 1..65535\n"
  | .buttons => bytes "--buttons contains an undefined button bit\n"
  | .button => bytes "--button must be a daemon-ipc-v1 button name\n"
  | .seq => bytes "--seq must be a non-negative integer\n"
  | .holdMs => bytes "--hold-ms must be a non-negative integer\n"
  | _ => []

/-- The branch of an option in `swbt_debug_client_parse_args`, on its argument and its value. -/
def ValueOption.apply (config : Config) (arg value : List UInt8) :
    ValueOption → Except (List UInt8) Config
  | .port =>
    match parseU64 value 0xFFFF with
    | none => .error (message .port)
    | some parsed =>
      if parsed = 0 then .error (message .port)
      else .ok { config with port := parsed.toUInt16 }
  | .buttons =>
    match parseU64 value 0xFFFFFFFF with
    | none => .error (message .buttons)
    | some parsed =>
      if parsed.toUInt32 &&& ~~~definedButtonMask ≠ 0 then .error (message .buttons)
      else .ok { config with state := { config.state with buttons := parsed.toUInt32 } }
  | .button =>
    match parseButtonName value with
    | none => .error (message .button)
    | some mask =>
      .ok { config with
        state := { config.state with buttons := config.state.buttons ||| mask } }
  | .lx => do
    let lx ← parseStick arg value
    .ok { config with state := { config.state with lx := lx } }
  | .ly => do
    let ly ← parseStick arg value
    .ok { config with state := { config.state with ly := ly } }
  | .rx => do
    let rx ← parseStick arg value
    .ok { config with state := { config.state with rx := rx } }
  | .ry => do
    let ry ← parseStick arg value
    .ok { config with state := { config.state with ry := ry } }
  | .accelX => do
    let accelX ← parseI16Option arg value
    .ok { config with state := { config.state with accelX := accelX } }
  | .accelY => do
    let accelY ← parseI16Option arg value
    .ok { config with state := { config.state with accelY := accelY } }
  | .accelZ => do
    let accelZ ← parseI16Option arg value
    .ok { config with state := { config.state with accelZ := accelZ } }
  | .gyroX => do
    let gyroX ← parseI16Option arg value
    .ok { config with state := { config.state with gyroX := gyroX } }
  | .gyroY => do
    let gyroY ← parseI16Option arg value
    .ok { config with state := { config.state with gyroY := gyroY } }
  | .gyroZ => do
    let gyroZ ← parseI16Option arg value
    .ok { config with state := { config.state with gyroZ := gyroZ } }
  | .seq =>
    match parseU64 value 0xFFFFFFFFFFFFFFFF with
    | none => .error (message .seq)
    | some parsed => .ok { config with sequence := parsed.toUInt64 }
  | .holdMs =>
    match parseU64 value 0xFFFFFFFF with
    | none => .error (message .holdMs)
    | some parsed => .ok { config with holdMs := parsed.toUInt32 }

/-- `swbt_debug_client_is_unsupported_macro_arg`. -/
def isUnsupportedMacroArg (arg : List UInt8) : Bool :=
  arg == bytes "--tap" || arg == bytes "--duration-ms" || arg == bytes "--sequence" ||
    arg == bytes "--at-ms"

/-! ## The command line -/

/-- The loop of `swbt_debug_client_parse_args` over the arguments that are left. -/
def parseLoop (config : Config) : List (List UInt8) → Except (List UInt8) Config
  | [] => .ok config
  | arg :: rest =>
    if isUnsupportedMacroArg arg then
      .error (arg ++ bytes " is not supported by the daemon IPC debug client\n")
    else
      match ValueOption.ofArg arg with
      | some option =>
        match rest with
        | [] => .error (arg ++ bytes " requires a value\n" ++ option.message)
        | value :: rest' =>
          match option.apply config arg value with
          | .error text => .error text
          | .ok config' => parseLoop config' rest'
      | none =>
        if arg = bytes "--skip-release" then parseLoop { config with skipRelease := true } rest
        else if arg = bytes "--neutral" then parseLoop { config with state := State.neutral } rest
        else .error (bytes "unknown option: " ++ arg ++ bytes "\n")

/-- `swbt_debug_client_parse_args` on the whole of `argv`. -/
def parseArgs (argv : List (List UInt8)) : Except (List UInt8) Config :=
  match argv with
  | _ :: arg :: rest =>
    match parseLoop Config.init (arg :: rest) with
    | .error text => .error text
    | .ok config => if config.port = 0 then .error (bytes "--port is required\n") else .ok config
  | _ =>
    .error (bytes "usage: swbt-debug-client --port <port> [state options] [--hold-ms <ms>] " ++
      bytes "[--skip-release]\n")

/-! ## The request -/

/-- `swbt_debug_client_io_send_format` after the formatting: the text goes out whole when it is
shorter than the buffer. -/
def ioSendFormat (text : List UInt8) : Option (List UInt8) :=
  if text.length ≥ Ipc.jsonLineMax then none else some text

/-- `swbt_debug_client_io_send_set_state`: the line that is sent. -/
def ioSendSetState (ownerId : List UInt8) (state : State) (sequence : UInt64) :
    Option (List UInt8) :=
  ioSendFormat (
    bytes "\x7b\"v\":1,\"type\":\"set_state\",\"owner_id\":\"" ++ ownerId ++
    bytes "\",\"seq\":" ++ printUnsigned sequence.toNat ++
    bytes ",\"request_id\":\"s1\",\"state\":\x7b\"buttons\":" ++
      printUnsigned state.buttons.toNat ++
    bytes ",\"lx\":" ++ printUnsigned state.lx.toNat ++
    bytes ",\"ly\":" ++ printUnsigned state.ly.toNat ++
    bytes ",\"rx\":" ++ printUnsigned state.rx.toNat ++
    bytes ",\"ry\":" ++ printUnsigned state.ry.toNat ++
    bytes ",\"accel_x\":" ++ printSigned state.accelX.toInt ++
    bytes ",\"accel_y\":" ++ printSigned state.accelY.toInt ++
    bytes ",\"accel_z\":" ++ printSigned state.accelZ.toInt ++
    bytes ",\"gyro_x\":" ++ printSigned state.gyroX.toInt ++
    bytes ",\"gyro_y\":" ++ printSigned state.gyroY.toInt ++
    bytes ",\"gyro_z\":" ++ printSigned state.gyroZ.toInt ++
    bytes "\x7d\x7d\n")

end Swbt.DebugClient
