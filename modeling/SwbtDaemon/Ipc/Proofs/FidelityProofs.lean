import SwbtDaemon.Ipc.Json
import SwbtDaemon.Switch.Proofs.ReportProofs

/-!
# From a request line to the reports

A decoded `set_state` has the numbers of the line and is reportable, so the reports built from it
carry exactly these numbers.
-/

namespace Swbt.Ipc

open CString

/-- The numbers that a state object gives for the fields of a state. -/
structure Carries (stateJson : List UInt8) (state : State) : Prop where
  buttons : getI64 stateJson (bytes "buttons") = .value state.buttons.toNat
  lx : getI64 stateJson (bytes "lx") = .value state.lx.toNat
  ly : getI64 stateJson (bytes "ly") = .value state.ly.toNat
  rx : getI64 stateJson (bytes "rx") = .value state.rx.toNat
  ry : getI64 stateJson (bytes "ry") = .value state.ry.toNat
  accelX : getI64 stateJson (bytes "accel_x") = .value state.accelX.toInt
  accelY : getI64 stateJson (bytes "accel_y") = .value state.accelY.toInt
  accelZ : getI64 stateJson (bytes "accel_z") = .value state.accelZ.toInt
  gyroX : getI64 stateJson (bytes "gyro_x") = .value state.gyroX.toInt
  gyroY : getI64 stateJson (bytes "gyro_y") = .value state.gyroY.toInt
  gyroZ : getI64 stateJson (bytes "gyro_z") = .value state.gyroZ.toInt

/-! ## The fields -/

theorem getI64_of_required {line key : List UInt8} {i : Int}
    (h : parseRequiredI64 line key = some i) : getI64 line key = .value i := by
  unfold parseRequiredI64 at h
  split at h
  · next n hn =>
    rw [hn, Option.some.inj h]
  · exact absurd h (by simp)

theorem parseI16Field_some {line key : List UInt8} {value : Int16}
    (h : parseI16Field line key = some value) : getI64 line key = .value value.toInt := by
  obtain ⟨i, hi, hsome⟩ := Option.bind_eq_some_iff.mp h
  by_cases hrange : i < -32768 ∨ i > 32767
  · rw [if_pos hrange] at hsome
    exact absurd hsome (by simp)
  · rw [if_neg hrange] at hsome
    obtain rfl := Option.some.inj hsome
    rw [getI64_of_required hi, Int16.toInt_ofInt_of_le (by omega) (by omega)]

theorem parseStickField_some {line key : List UInt8} {value : UInt16}
    (h : parseStickField line key = some value) :
    getI64 line key = .value value.toNat ∧ value ≤ 4095 := by
  obtain ⟨i, hi, hsome⟩ := Option.bind_eq_some_iff.mp h
  by_cases hrange : i < 0 ∨ i > stickMax
  · rw [if_pos hrange] at hsome
    exact absurd hsome (by simp)
  · rw [if_neg hrange] at hsome
    obtain rfl := Option.some.inj hsome
    have hle : i.toNat ≤ 4095 := by
      simp only [stickMax] at hrange
      omega
    have hvalue : i.toNat.toUInt16.toNat = i.toNat := by
      rw [UInt16.toNat_ofNat', Nat.mod_eq_of_lt (by omega)]
    constructor
    · rw [getI64_of_required hi, hvalue, Int.toNat_of_nonneg (by omega)]
    · rw [UInt16.le_iff_toNat_le, hvalue]
      exact hle

theorem parseButtons_some {line : List UInt8} {buttons : UInt32}
    (h : parseButtons line = some buttons) :
    getI64 line (bytes "buttons") = .value buttons.toNat ∧
      buttons &&& ~~~definedButtonMask = 0 := by
  obtain ⟨i, hi, hsome⟩ := Option.bind_eq_some_iff.mp h
  by_cases hrange : i < 0 ∨ i > 0xFFFFFFFF ∨ i.toNat.toUInt32 &&& ~~~definedButtonMask ≠ 0
  · rw [if_pos hrange] at hsome
    exact absurd hsome (by simp)
  · rw [if_neg hrange] at hsome
    obtain rfl := Option.some.inj hsome
    obtain ⟨hnonneg, hmax, hmask⟩ : 0 ≤ i ∧ i ≤ 0xFFFFFFFF ∧
        i.toNat.toUInt32 &&& ~~~definedButtonMask = 0 := by
      simpa only [not_or, Int.not_lt, gt_iff_lt, ne_eq, not_not] using hrange
    have hvalue : i.toNat.toUInt32.toNat = i.toNat := by
      rw [UInt32.toNat_ofNat', Nat.mod_eq_of_lt (by omega)]
    refine ⟨?_, hmask⟩
    rw [getI64_of_required hi, hvalue, Int.toNat_of_nonneg hnonneg]

theorem parseStateFields_some {line : List UInt8} {state : State}
    (h : parseStateFields line = some state) : Carries line state ∧ state.Reportable := by
  simp only [parseStateFields, Option.bind_eq_bind, Option.bind_eq_some_iff] at h
  obtain ⟨buttons, hbuttons, lx, hlx, ly, hly, rx, hrx, ry, hry, accelX, haccelX, accelY, haccelY,
    accelZ, haccelZ, gyroX, hgyroX, gyroY, hgyroY, gyroZ, hgyroZ, hstate⟩ := h
  obtain rfl := Option.some.inj hstate
  obtain ⟨hbuttons, hmask⟩ := parseButtons_some hbuttons
  obtain ⟨hlx, hlxMax⟩ := parseStickField_some hlx
  obtain ⟨hly, hlyMax⟩ := parseStickField_some hly
  obtain ⟨hrx, hrxMax⟩ := parseStickField_some hrx
  obtain ⟨hry, hryMax⟩ := parseStickField_some hry
  exact ⟨⟨hbuttons, hlx, hly, hrx, hry, parseI16Field_some haccelX, parseI16Field_some haccelY,
    parseI16Field_some haccelZ, parseI16Field_some hgyroX, parseI16Field_some hgyroY,
    parseI16Field_some hgyroZ⟩, ⟨hmask, hlxMax, hlyMax, hrxMax, hryMax⟩⟩

/-! ## The converse: numbers in range are accepted -/

theorem required_of_getI64 {line key : List UInt8} {i : Int} (h : getI64 line key = .value i) :
    parseRequiredI64 line key = some i := by
  rw [parseRequiredI64, h]

theorem parseI16Field_of_getI64 {line key : List UInt8} {value : Int16}
    (h : getI64 line key = .value value.toInt) : parseI16Field line key = some value := by
  have hlow := value.le_toInt
  have hhigh := value.toInt_lt
  rw [parseI16Field, required_of_getI64 h]
  change (if _ then none else some (Int16.ofInt value.toInt)) = _
  rw [if_neg (by omega), Int16.ofInt_toInt]

theorem parseStickField_of_getI64 {line key : List UInt8} {value : UInt16}
    (h : getI64 line key = .value value.toNat) (hle : value ≤ 4095) :
    parseStickField line key = some value := by
  have hle : value.toNat ≤ 4095 := hle
  rw [parseStickField, required_of_getI64 h]
  change (if (value.toNat : Int) < 0 ∨ (value.toNat : Int) > 4095 then none
    else some (value.toNat : Int).toNat.toUInt16) = _
  rw [if_neg (by omega), Int.toNat_natCast, Nat.toUInt16, UInt16.ofNat_toNat]

theorem parseButtons_of_getI64 {line : List UInt8} {buttons : UInt32}
    (h : getI64 line (bytes "buttons") = .value buttons.toNat)
    (hmask : buttons &&& ~~~definedButtonMask = 0) : parseButtons line = some buttons := by
  have hlt := buttons.toNat_lt
  have hvalue : (buttons.toNat : Int).toNat.toUInt32 = buttons := by
    rw [Int.toNat_natCast, Nat.toUInt32, UInt32.ofNat_toNat]
  rw [parseButtons, required_of_getI64 h]
  change (if (buttons.toNat : Int) < 0 ∨ (buttons.toNat : Int) > 0xFFFFFFFF ∨
    (buttons.toNat : Int).toNat.toUInt32 &&& ~~~definedButtonMask ≠ 0 then none
    else some (buttons.toNat : Int).toNat.toUInt32) = _
  rw [hvalue, if_neg]
  rintro (hneg | hlarge | hundefined)
  · omega
  · omega
  · exact hundefined hmask

theorem parseStateFields_of_carries {line : List UInt8} {state : State} (h : Carries line state)
    (hstate : state.Reportable) : parseStateFields line = some state := by
  rw [parseStateFields, parseButtons_of_getI64 h.buttons hstate.buttons,
    parseStickField_of_getI64 h.lx hstate.lx, parseStickField_of_getI64 h.ly hstate.ly,
    parseStickField_of_getI64 h.rx hstate.rx, parseStickField_of_getI64 h.ry hstate.ry,
    parseI16Field_of_getI64 h.accelX, parseI16Field_of_getI64 h.accelY,
    parseI16Field_of_getI64 h.accelZ, parseI16Field_of_getI64 h.gyroX,
    parseI16Field_of_getI64 h.gyroY, parseI16Field_of_getI64 h.gyroZ]
  rfl

/-! ## The command -/

/-- A line with the state object of a reportable state. -/
def Reports (line : List UInt8) (state : State) : Prop :=
  ∃ stateJson, findKeyValue line (bytes "state") = some stateJson ∧ Carries stateJson state ∧
    state.Reportable

theorem parseState_some {line : List UInt8} {state : State} {sequence : UInt64}
    (h : parseState line = some (state, sequence)) : Reports line state := by
  unfold parseState at h
  split at h
  · next cs hfind =>
    obtain ⟨state', hstate, hrest⟩ := Option.bind_eq_some_iff.mp h
    obtain ⟨sequence', -, hpair⟩ := Option.bind_eq_some_iff.mp hrest
    obtain ⟨rfl, -⟩ := Prod.mk.inj (Option.some.inj hpair)
    exact ⟨_, hfind, parseStateFields_some hstate⟩
  · exact absurd h (by simp)

section

variable [Platform]

theorem decodeType_reports {line type : List UInt8} {requestId : Option (List UInt8)}
    {command : Command} (h : decodeType line requestId type = .ok command)
    (htype : command.type = .setState) : Reports line command.state := by
  unfold decodeType at h
  split_ifs at h
  -- only the branch of `set_state` sets this type
  · obtain rfl := Except.ok.inj h
    exact absurd htype (by simp)
  · obtain rfl := Except.ok.inj h
    exact absurd htype (by simp)
  · obtain rfl := Except.ok.inj h
    exact absurd htype (by simp)
  · dsimp only at h
    split at h
    · exact absurd h (by simp)
    · next state sequence hstate =>
      obtain rfl := Except.ok.inj h
      exact parseState_some hstate
  · obtain rfl := Except.ok.inj h
    exact absurd htype (by simp)

theorem decodeCommand_reports {line : List UInt8} {command : Command}
    (h : decodeCommand line = .ok command) (htype : command.type = .setState) :
    Reports line command.state := by
  unfold decodeCommand at h
  split at h
  · exact absurd h (by simp)
  · split at h
    · exact absurd h (by simp)
    · split at h
      · exact absurd h (by simp)
      · split at h
        · exact absurd h (by simp)
        · exact absurd h (by simp)
        · exact decodeType_reports h htype

/-- The state of a decoded `set_state` goes unchanged from the line into every report that is built
from it: the `0x30` report reads back as this state, and a `0x21` reply has the same bytes 1 to
12. -/
theorem setState_reported (line : List UInt8) (command : Command)
    (hdecode : decodeCommand line = .ok command) (htype : command.type = .setState) :
    (∃ stateJson, findKeyValue line (bytes "state") = some stateJson ∧
      Carries stateJson command.state) ∧
    command.state.Reportable ∧
    ∀ (options : ReportOptions) (size : Nat), standardFullReportSize ≤ size →
      ∃ report, buildStandardFullReport command.state options size = .ok report ∧
        report.length = standardFullReportSize ∧
        (∀ frame, Unpack.state report frame = command.state) ∧
        ∀ (reply : SubcommandReply) (replySize : Nat) (replyReport : List UInt8),
          buildSubcommandReply command.state options reply replySize = .ok replyReport →
          replyReport.length = subcommandReplyReportSize ∧
          ∀ i, 1 ≤ i → i ≤ 12 → replyReport[i]? = report[i]? := by
  obtain ⟨stateJson, hfind, hcarries, hstate⟩ := decodeCommand_reports hdecode htype
  refine ⟨⟨stateJson, hfind, hcarries⟩, hstate, ?_⟩
  intro options size hsize
  refine ⟨_, buildStandardFullReport_eq command.state options hsize, rfl,
    unpack_standardFull hstate rfl, ?_⟩
  intro reply replySize replyReport hreply
  obtain ⟨hlength, rest, rfl⟩ := buildSubcommandReply_some hreply
  refine ⟨hlength, ?_⟩
  intro i hlow hhigh
  rw [getElem?_of_standardPrefix _ _ hlow hhigh]
  exact (getElem?_of_standardPrefix inputReportStandardFull (writeImuFrame command.state ++
    (writeImuFrame command.state ++ writeImuFrame command.state)) hlow hhigh).symm

end

/-- A request with every stick at its end and motion values at both ends. -/
def extremeLine : List UInt8 :=
  bytes ("\x7b\"v\":1,\"type\":\"set_state\",\"owner_id\":\"00000001\",\"state\":\x7b" ++
    "\"buttons\":16728063,\"lx\":4095,\"ly\":0,\"rx\":0,\"ry\":4095,\"accel_x\":-32768," ++
    "\"accel_y\":32767,\"accel_z\":-1,\"gyro_x\":1,\"gyro_y\":256,\"gyro_z\":-256\x7d\x7d")

/-- The state of that request. -/
def extremeState : State where
  buttons := 0x00FF3FFF
  lx := 4095
  ly := 0
  rx := 0
  ry := 4095
  accelX := -32768
  accelY := 32767
  accelZ := -1
  gyroX := 1
  gyroY := 256
  gyroZ := -256

theorem setState_reported_extreme :
    let _ : Platform := Platform.lp64
    ∃ command, decodeCommand extremeLine = .ok command ∧ command.type = .setState ∧
      command.state = extremeState ∧ command.state.Reportable := by
  let _ : Platform := Platform.lp64
  have hdecode : decodeCommand extremeLine =
      .ok ⟨.setState, none, some 1, 0, extremeState⟩ := by decide +kernel
  exact ⟨_, hdecode, rfl, rfl, (setState_reported extremeLine _ hdecode rfl).2.1⟩

end Swbt.Ipc
