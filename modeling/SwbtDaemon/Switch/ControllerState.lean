import Mathlib.Data.List.Basic

/-!
# The controller state

`swbt_state_t`: the buttons, sticks and motion values that one input report carries.
-/

namespace Swbt

/-- The controller state of `switch_controller_state.h`. -/
structure State where
  /-- One bit for each button. -/
  buttons : UInt32
  lx : UInt16
  ly : UInt16
  rx : UInt16
  ry : UInt16
  accelX : Int16
  accelY : Int16
  accelZ : Int16
  gyroX : Int16
  gyroY : Int16
  gyroZ : Int16
deriving DecidableEq, Repr

/-- `swbt_state_neutral`: no button pressed, both sticks centred, no motion. -/
def State.neutral : State where
  buttons := 0
  lx := 2048
  ly := 2048
  rx := 2048
  ry := 2048
  accelX := 0
  accelY := 0
  accelZ := 0
  gyroX := 0
  gyroY := 0
  gyroZ := 0

/-- The buttons of the controller, in the order of their bits. -/
inductive Button where
  | y | x | b | a | srR | slR | r | zr
  | minus | plus | rStick | lStick | home | capture
  | down | up | right | left | srL | slL | l | zl
deriving DecidableEq, Repr

/-- The position of a button's bit (the shifts of `SWBT_BUTTON_Y` .. `SWBT_BUTTON_ZL`). -/
def Button.bit : Button → UInt32
  | .y => 0
  | .x => 1
  | .b => 2
  | .a => 3
  | .srR => 4
  | .slR => 5
  | .r => 6
  | .zr => 7
  | .minus => 8
  | .plus => 9
  | .rStick => 10
  | .lStick => 11
  | .home => 12
  | .capture => 13
  | .down => 16
  | .up => 17
  | .right => 18
  | .left => 19
  | .srL => 20
  | .slL => 21
  | .l => 22
  | .zl => 23

/-- The bit of a button in `buttons`. -/
def Button.mask (button : Button) : UInt32 := 1 <<< button.bit

/-- All buttons, in the order `SWBT_DEFINED_BUTTON_MASK` joins them. -/
def Button.all : List Button :=
  [.y, .x, .b, .a, .srR, .slR, .r, .zr, .minus, .plus, .rStick, .lStick, .home, .capture,
    .down, .up, .right, .left, .srL, .slL, .l, .zl]

/-- `SWBT_DEFINED_BUTTON_MASK`: the union of the bits of all buttons. -/
def definedButtonMask : UInt32 :=
  Button.all.foldl (fun mask button => mask ||| button.mask) 0

end Swbt
