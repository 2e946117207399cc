import SwbtDaemon.Lib.Bits
import SwbtDaemon.Switch.Unpack

/-!
# Packing and unpacking of input reports

Every report that is built from a reportable state reads back as this state, and the two copies of
the packing write the same bytes.
-/

namespace Swbt

open Bits

/-! ## Sticks -/

theorem clampStick12bit_of_le {value : UInt16} (h : value ≤ 4095) :
    clampStick12bit value = value := by
  have hle : ¬ value > 0x0FFF := UInt16.not_lt.mpr h
  rw [clampStick12bit, if_neg hle]

theorem lower12_packed {x : UInt16} (hx : x ≤ 4095) (y : UInt16) :
    (x &&& 0xFF).toUInt8.toUInt16 |||
      (((((x >>> 8) &&& (0x0F : UInt16)) ||| ((y &&& (0x0F : UInt16)) <<< 4)).toUInt8.toUInt16 &&&
        0x0F) <<< 8) = x := by
  have hx : x.toNat ≤ 4095 := hx
  apply UInt16.toNat_inj.mp
  rw [toNat_lower12, toNat_low16, toNat_nibbles16]
  omega

theorem upper12_packed (x : UInt16) {y : UInt16} (hy : y ≤ 4095) :
    ((((x >>> 8) &&& (0x0F : UInt16)) |||
        ((y &&& (0x0F : UInt16)) <<< 4)).toUInt8.toUInt16 >>> 4) |||
      (((y >>> 4) &&& (0xFF : UInt16)).toUInt8.toUInt16 <<< 4) = y := by
  have hy : y.toNat ≤ 4095 := hy
  have hshift : (4 : UInt16).toNat = 4 := rfl
  apply UInt16.toNat_inj.mp
  rw [toNat_upper12, toNat_nibbles16, toNat_byte16 y (by decide), hshift]
  omega

namespace Unpack

/-- A byte in terms of the part of the report that stands at an offset. -/
theorem byteAt_of_drop {report part : List UInt8} {offset : Nat}
    (h : report.drop offset = part) (k : Nat) : byteAt report (offset + k) = part.getD k 0 := by
  rw [byteAt, List.getD_eq_getElem?_getD, ← List.getElem?_drop, h, List.getD_eq_getElem?_getD]

theorem stickX_of_drop {report rest : List UInt8} {offset : Nat} {x y : UInt16}
    (h : report.drop offset = writeStick x y ++ rest) (hx : x ≤ 4095) :
    stickX report offset = x := by
  rw [writeStick, clampStick12bit_of_le hx] at h
  have hlow := byteAt_of_drop h 0
  have hmiddle := byteAt_of_drop h 1
  rw [Nat.add_zero] at hlow
  rw [stickX, hlow, hmiddle]
  exact lower12_packed hx _

theorem stickY_of_drop {report rest : List UInt8} {offset : Nat} {x y : UInt16}
    (h : report.drop offset = writeStick x y ++ rest) (hy : y ≤ 4095) :
    stickY report offset = y := by
  rw [writeStick, clampStick12bit_of_le hy] at h
  have hmiddle := byteAt_of_drop h 1
  have hhigh := byteAt_of_drop h 2
  rw [stickY, hmiddle, hhigh]
  exact upper12_packed _ hy

/-! ## Motion values -/

theorem i16Le_of_drop {report rest : List UInt8} {offset : Nat} {value : Int16}
    (h : report.drop offset = writeI16Le value ++ rest) : i16Le report offset = value := by
  have hlow : byteAt report offset = (value.toUInt16 &&& 0xFF).toUInt8 := byteAt_of_drop h 0
  have hhigh : byteAt report (offset + 1) = ((value.toUInt16 >>> 8) &&& (0xFF : UInt16)).toUInt8 :=
    byteAt_of_drop h 1
  have hraw : (byteAt report offset).toUInt16 ||| ((byteAt report (offset + 1)).toUInt16 <<< 8) =
      value.toUInt16 := by
    have hvalue := value.toUInt16.toNat_lt
    have hshift : (8 : UInt16).toNat = 8 := rfl
    apply UInt16.toNat_inj.mp
    rw [toNat_join16, hlow, hhigh, toNat_low16, toNat_byte16 _ (by decide), hshift]
    omega
  rw [i16Le, hraw]
  rfl

/-- Every field of a motion frame. -/
theorem frame_of_drop {report rest : List UInt8} {offset : Nat} {state : State}
    (h : report.drop offset = writeImuFrame state ++ rest) :
    i16Le report offset = state.accelX ∧ i16Le report (offset + 2) = state.accelY ∧
      i16Le report (offset + 4) = state.accelZ ∧ i16Le report (offset + 6) = state.gyroX ∧
      i16Le report (offset + 8) = state.gyroY ∧ i16Le report (offset + 10) = state.gyroZ := by
  have hfield (k : Nat) : report.drop (offset + k) = (writeImuFrame state ++ rest).drop k := by
    rw [← List.drop_drop, h]
  exact ⟨i16Le_of_drop h, i16Le_of_drop (hfield 2), i16Le_of_drop (hfield 4),
    i16Le_of_drop (hfield 6), i16Le_of_drop (hfield 8), i16Le_of_drop (hfield 10)⟩

end Unpack

/-! ## Buttons -/

theorem definedButtonMask_eq : definedButtonMask = 0x00FF3FFF := by decide

/-- Defined buttons fit in the three bytes of the report. -/
theorem toNat_lt_of_defined {buttons : UInt32} (h : buttons &&& ~~~definedButtonMask = 0) :
    buttons.toNat < 2 ^ 24 := by
  rw [definedButtonMask_eq] at h
  have hand : buttons.toNat &&& (2 ^ 32 - 1 - 0x00FF3FFF) = 0 := congrArg UInt32.toNat h
  have hhigh : ∀ i, 24 ≤ i → buttons.toNat.testBit i = false := by
    intro i hi
    by_cases hi32 : i < 32
    · have hbit : (buttons.toNat &&& (2 ^ 32 - 1 - 0x00FF3FFF)).testBit i = false := by
        rw [hand, Nat.zero_testBit]
      have hmask : ∀ i < 32, 24 ≤ i → (2 ^ 32 - 1 - 0x00FF3FFF).testBit i = true := by decide
      rw [Nat.testBit_and, hmask i hi32 hi, Bool.and_true] at hbit
      exact hbit
    · apply Nat.testBit_eq_false_of_lt
      exact lt_of_lt_of_le buttons.toNat_lt (Nat.pow_le_pow_right (by decide) (by omega))
  exact Nat.lt_pow_two_of_testBit _ hhigh

namespace Unpack

theorem buttons_of_drop {report rest : List UInt8} {value : UInt32}
    (h : report.drop 3 = (value &&& 0xFF).toUInt8 :: ((value >>> 8) &&& (0xFF : UInt32)).toUInt8 ::
      ((value >>> 16) &&& (0xFF : UInt32)).toUInt8 :: rest)
    (hvalue : value.toNat < 2 ^ 24) : buttons report = value := by
  have hlow := byteAt_of_drop h 0
  have hmiddle := byteAt_of_drop h 1
  have hhigh := byteAt_of_drop h 2
  have hshift8 : (8 : UInt32).toNat = 8 := rfl
  have hshift16 : (16 : UInt32).toNat = 16 := rfl
  apply UInt32.toNat_inj.mp
  rw [buttons, hlow, hmiddle, hhigh, toNat_join32]
  simp only [List.getD_cons_zero, List.getD_cons_succ]
  rw [toNat_low32, toNat_byte32 _ (by decide), toNat_byte32 _ (by decide), hshift8, hshift16]
  omega

end Unpack

/-! ## Whole reports -/

/-- The `0x30` report in a buffer that is large enough. -/
theorem buildStandardFullReport_eq (state : State) (options : ReportOptions) {size : Nat}
    (hsize : standardFullReportSize ≤ size) :
    buildStandardFullReport state options size =
      .ok (writeStandardPrefix inputReportStandardFull state options ++
        writeImuFrame state ++ writeImuFrame state ++ writeImuFrame state) := by
  rw [buildStandardFullReport, if_neg (Nat.not_lt.mpr hsize)]

/-- Every frame of a `0x30` report reads back as the state it was built from. -/
theorem unpack_standardFull {state : State} (hstate : state.Reportable) {options : ReportOptions}
    {report : List UInt8}
    (hreport : report = writeStandardPrefix inputReportStandardFull state options ++
      writeImuFrame state ++ writeImuFrame state ++ writeImuFrame state) (frame : Fin 3) :
    Unpack.state report frame = state := by
  obtain ⟨rest, hframe⟩ : ∃ rest,
      report.drop (Unpack.frameOffset frame) = writeImuFrame state ++ rest := by
    subst hreport
    match frame with
    | 0 => exact ⟨writeImuFrame state ++ writeImuFrame state, rfl⟩
    | 1 => exact ⟨writeImuFrame state, rfl⟩
    | 2 => exact ⟨[], rfl⟩
  obtain ⟨haccelX, haccelY, haccelZ, hgyroX, hgyroY, hgyroZ⟩ := Unpack.frame_of_drop hframe
  have hbuttons : Unpack.buttons report = state.buttons :=
    Unpack.buttons_of_drop (congrArg (List.drop 3) hreport) (toNat_lt_of_defined hstate.buttons)
  have hleft : report.drop 6 = writeStick state.lx state.ly ++ _ :=
    congrArg (List.drop 6) hreport
  have hright : report.drop 9 = writeStick state.rx state.ry ++ _ :=
    congrArg (List.drop 9) hreport
  simp only [Unpack.state, hbuttons, haccelX, haccelY, haccelZ, hgyroX, hgyroY, hgyroZ,
    Unpack.stickX_of_drop hleft hstate.lx, Unpack.stickY_of_drop hleft hstate.ly,
    Unpack.stickX_of_drop hright hstate.rx, Unpack.stickY_of_drop hright hstate.ry]

/-- The bytes of a built reply: the two copies of the packing write the same prefix. -/
theorem buildSubcommandReply_some {state : State} {options : ReportOptions}
    {reply : SubcommandReply} {size : Nat} {report : List UInt8}
    (h : buildSubcommandReply state options reply size = .ok report) :
    report.length = subcommandReplyReportSize ∧
      ∃ rest, report = inputReportSubcommandReply ::
        ((writeStandardPrefix inputReportStandardFull state options).drop 1 ++ rest) := by
  unfold buildSubcommandReply at h
  split_ifs at h with hdata hsize
  obtain rfl := Except.ok.inj h
  constructor
  · simp only [subcommandReplyMaxDataSize] at hdata
    simp only [SubcommandReply.writeStandardPrefix, SubcommandReply.writeStick, List.length_append,
      List.length_cons, List.length_nil, List.length_replicate, subcommandReplyMaxDataSize,
      subcommandReplyReportSize]
    omega
  · exact ⟨[reply.ack, reply.subcommandId] ++ reply.data ++
      List.replicate (subcommandReplyMaxDataSize - reply.data.length) 0, rfl⟩

/-- Bytes 1 to 12 of two reports with the same prefix after the report id. -/
theorem getElem?_of_standardPrefix {state : State} {options : ReportOptions} (id : UInt8)
    (rest : List UInt8) {i : Nat} (hlow : 1 ≤ i) (hhigh : i ≤ 12) :
    (id :: ((writeStandardPrefix inputReportStandardFull state options).drop 1 ++ rest))[i]? =
      (writeStandardPrefix inputReportStandardFull state options)[i]? := by
  obtain ⟨j, rfl⟩ : ∃ j, i = j + 1 := ⟨i - 1, by omega⟩
  have hlength : j < ((writeStandardPrefix inputReportStandardFull state options).drop 1).length :=
    Nat.lt_of_lt_of_eq (Nat.lt_of_succ_le hhigh) rfl
  rw [List.getElem?_cons_succ, List.getElem?_append_left hlength, List.getElem?_drop,
    Nat.add_comm]

end Swbt
