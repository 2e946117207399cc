import SwbtDaemon.Switch.Report

/-!
# Reading an input report

What the host reads from an input report: the buttons from bytes 3 to 5, the sticks as pairs of
12-bit values from bytes 6 and 9, and the motion values from the frames of twelve bytes at 13, 25
and 37. The source has no such reader; it is stated here as the meaning of the report.
-/

namespace Swbt.Unpack

/-- The byte of a report at an offset. -/
def byteAt (report : List UInt8) (offset : Nat) : UInt8 := report.getD offset 0

/-- The buttons in bytes 3 to 5. -/
def buttons (report : List UInt8) : UInt32 :=
  (byteAt report 3).toUInt32 ||| ((byteAt report 4).toUInt32 <<< 8) |||
    ((byteAt report 5).toUInt32 <<< 16)

/-- The first value of the stick at an offset. -/
def stickX (report : List UInt8) (offset : Nat) : UInt16 :=
  (byteAt report offset).toUInt16 ||| (((byteAt report (offset + 1)).toUInt16 &&& 0x0F) <<< 8)

/-- The second value of the stick at an offset. -/
def stickY (report : List UInt8) (offset : Nat) : UInt16 :=
  ((byteAt report (offset + 1)).toUInt16 >>> 4) ||| ((byteAt report (offset + 2)).toUInt16 <<< 4)

/-- The signed 16-bit value at an offset, low byte first. -/
def i16Le (report : List UInt8) (offset : Nat) : Int16 :=
  ((byteAt report offset).toUInt16 ||| ((byteAt report (offset + 1)).toUInt16 <<< 8)).toInt16

/-- The offset of a motion frame. -/
def frameOffset (frame : Fin 3) : Nat := 13 + frame.val * 12

/-- The state in a `0x30` report, with the motion values of one of its frames. -/
def state (report : List UInt8) (frame : Fin 3) : State where
  buttons := buttons report
  lx := stickX report 6
  ly := stickY report 6
  rx := stickX report 9
  ry := stickY report 9
  accelX := i16Le report (frameOffset frame)
  accelY := i16Le report (frameOffset frame + 2)
  accelZ := i16Le report (frameOffset frame + 4)
  gyroX := i16Le report (frameOffset frame + 6)
  gyroY := i16Le report (frameOffset frame + 8)
  gyroZ := i16Le report (frameOffset frame + 10)

end Swbt.Unpack

namespace Swbt

/-- A state that a report carries without loss: only defined buttons, all sticks in range. -/
structure State.Reportable (state : State) : Prop where
  buttons : state.buttons &&& ~~~definedButtonMask = 0
  lx : state.lx ≤ 4095
  ly : state.ly ≤ 4095
  rx : state.rx ≤ 4095
  ry : state.ry ≤ 4095

end Swbt
