import SwbtDaemon.Bridge.OutputReportHandler

/-!
# The two deliveries of an output report

A report that arrives without its id is handled as the one with the id in front, and the callback
sees exactly the reports that are long enough for their id, read at fixed offsets.
-/

namespace Swbt

/-! ## The parser -/

/-- A report that `swbt_switch_parse_output_report` accepts. -/
def OutputReport.Accepts (data : List UInt8) : Prop :=
  data[0]? = some 0x01 ∧ 11 ≤ data.length ∨ data[0]? = some 0x10 ∧ 10 ≤ data.length

/-- The fields of a report at their offsets in its bytes. -/
structure OutputReport.ReadFrom (data : List UInt8) (report : OutputReport) : Prop where
  id : data[0]? = some report.outputReportId
  counter : data[1]? = some report.packetCounter
  rumble : ∀ (i : Nat) (h : i < rumbleDataSize), data[2 + i]? = some report.rumble[i]
  subcommand : report.outputReportId = 0x01 →
    ∃ subcommandId, data[10]? = some subcommandId ∧
      report.subcommand = some (subcommandId, data.drop 11)
  rumbleOnly : report.outputReportId = 0x10 → report.subcommand = none

theorem getElem?_eq_some_getD {data : List UInt8} {i : Nat} (h : i < data.length) :
    data[i]? = some (data.getD i 0) := by
  rw [List.getElem?_eq_getElem h, List.getD_eq_getElem?_getD, List.getElem?_eq_getElem h,
    Option.getD_some]

theorem copyRumble_getElem? {data : List UInt8} (h : 10 ≤ data.length) (i : Nat)
    (hi : i < rumbleDataSize) : data[2 + i]? = some (copyRumble data)[i] := by
  have hi8 : i < 8 := hi
  rw [getElem?_eq_some_getD (by omega), copyRumble, Vector.getElem_ofFn]

theorem parseOutputReport_of_accepts {data : List UInt8} (h : OutputReport.Accepts data) :
    ∃ report, parseOutputReport data = .ok report ∧ OutputReport.ReadFrom data report := by
  rcases h with ⟨hid, hlength⟩ | ⟨hid, hlength⟩
  · obtain ⟨rest, rfl⟩ : ∃ rest, data = 0x01 :: rest := by
      cases data with
      | nil => exact absurd hid (nomatch ·)
      | cons id rest => exact ⟨rest, by rw [Option.some.inj hid]⟩
    refine ⟨_, by rw [parseOutputReport, if_pos rfl, if_neg (by omega)], ?_⟩
    exact ⟨rfl, getElem?_eq_some_getD (by omega), copyRumble_getElem? (by omega),
      fun _ => ⟨_, getElem?_eq_some_getD (by omega), rfl⟩,
      fun h => absurd h (show (0x01 : UInt8) ≠ 0x10 by decide)⟩
  · obtain ⟨rest, rfl⟩ : ∃ rest, data = 0x10 :: rest := by
      cases data with
      | nil => exact absurd hid (nomatch ·)
      | cons id rest => exact ⟨rest, by rw [Option.some.inj hid]⟩
    refine ⟨_, by rw [parseOutputReport, if_neg (by decide), if_pos rfl, if_neg (by omega)], ?_⟩
    exact ⟨rfl, getElem?_eq_some_getD (by omega), copyRumble_getElem? hlength,
      fun h => absurd h (show (0x10 : UInt8) ≠ 0x01 by decide), fun _ => rfl⟩

theorem accepts_of_parseOutputReport {data : List UInt8} {report : OutputReport}
    (h : parseOutputReport data = .ok report) : OutputReport.Accepts data := by
  unfold parseOutputReport at h
  split at h
  · exact absurd h (nomatch ·)
  · rename_i id rest
    split_ifs at h with hid hlength hid hlength
    · exact .inl ⟨congrArg some hid, Nat.le_of_not_lt hlength⟩
    · exact .inr ⟨congrArg some hid, Nat.le_of_not_lt hlength⟩

namespace OutputReportHandler

variable {κ : Type}

/-! ## The joined report -/

/-- A payload of fewer than 64 bytes is joined with its id. -/
theorem rejoinId_eq (handler : OutputReportHandler κ) (id : UInt8) {payload : List UInt8}
    (h : payload.length < outputReportMaxSize) :
    ∃ handler', rejoinId handler id.toUInt16 payload = .ok (handler', payload.length + 1) ∧
      handler'.scratch.toList.take (payload.length + 1) = id :: payload := by
  have hid : ¬ id.toUInt16 > 0xFF := by
    have := id.toNat_lt
    rw [gt_iff_lt, UInt16.lt_iff_toNat_lt, UInt8.toNat_toUInt16]
    have hmax : (0xFF : UInt16).toNat = 255 := rfl
    omega
  refine ⟨_, by rw [rejoinId, if_neg hid, if_neg (Nat.not_le.2 h)], ?_⟩
  have hbyte : id.toUInt16.toUInt8 = id := by simp
  dsimp only
  rw [hbyte]
  apply List.ext_getElem
  · simp only [List.length_take, Vector.length_toList, List.length_cons]
    omega
  · intro i hi hi'
    rw [List.getElem_take, Vector.getElem_toList, Vector.getElem_ofFn, List.getD_eq_getElem?_getD,
      List.getElem?_eq_getElem hi', Option.getD_some]

theorem deliver_result (handler handler' : OutputReportHandler κ) (callback : κ) (hidCid : UInt16)
    (parserReport : List UInt8) :
    (deliver handler callback hidCid parserReport).result =
        (deliver handler' callback hidCid parserReport).result ∧
      (deliver handler callback hidCid parserReport).calls =
        (deliver handler' callback hidCid parserReport).calls := by
  unfold deliver
  cases parseOutputReport parserReport with
  | error error => exact ⟨rfl, rfl⟩
  | ok parsed => exact ⟨rfl, rfl⟩

/-! ## The two deliveries -/

/-- Handling a payload with its id on its own, in terms of the joined report. -/
theorem handle_separate (handler : OutputReportHandler κ) (hidCid : UInt16) (reportType id : UInt8)
    {payload : List UInt8} (hid : id ≠ 0) (h : payload.length < outputReportMaxSize) :
    (handle handler ⟨hidCid, reportType, id.toUInt16, some payload⟩).result =
        (handle handler ⟨hidCid, reportType, 0, some (id :: payload)⟩).result ∧
      (handle handler ⟨hidCid, reportType, id.toUInt16, some payload⟩).calls =
        (handle handler ⟨hidCid, reportType, 0, some (id :: payload)⟩).calls := by
  have hid16 : id.toUInt16 ≠ 0 := by
    intro hzero
    apply hid
    apply UInt8.toNat_inj.mp
    rw [← UInt8.toNat_toUInt16, hzero]
    rfl
  obtain ⟨handler', hrejoin, hjoined⟩ := rejoinId_eq handler id h
  unfold handle
  cases handler.callback with
  | none => exact ⟨rfl, rfl⟩
  | some callback =>
    dsimp only
    by_cases htype : reportType ≠ hidReportTypeOutput
    · rw [if_pos htype, if_pos htype]
      exact ⟨rfl, rfl⟩
    · rw [if_neg htype, if_neg htype, if_pos hid16, if_neg (not_not.2 rfl), hrejoin]
      dsimp only
      rw [hjoined]
      exact deliver_result handler' handler callback hidCid (id :: payload)

/-- Handling a whole report. -/
theorem handle_whole (handler : OutputReportHandler κ) (hidCid : UInt16) (reportType : UInt8)
    (data : List UInt8) :
    (∀ callback, handler.callback = some callback → reportType = hidReportTypeOutput →
      OutputReport.Accepts data →
        ∃ report, OutputReport.ReadFrom data report ∧
          (handle handler ⟨hidCid, reportType, 0, some data⟩).calls =
            [(callback, hidCid, report)]) ∧
    ((handle handler ⟨hidCid, reportType, 0, some data⟩).calls ≠ [] →
      handler.callback ≠ none ∧ reportType = hidReportTypeOutput ∧ OutputReport.Accepts data) := by
  unfold handle
  cases handler.callback with
  | none => exact ⟨fun _ hcallback => (nomatch hcallback), fun h => absurd rfl h⟩
  | some callback =>
    dsimp only
    by_cases htype : reportType ≠ hidReportTypeOutput
    · rw [if_pos htype]
      exact ⟨fun _ _ houtput => absurd houtput htype, fun h => absurd rfl h⟩
    · rw [if_neg htype, if_neg (not_not.2 rfl)]
      unfold deliver
      constructor
      · intro callback' hcallback _ haccepts
        obtain ⟨report, hparse, hfields⟩ := parseOutputReport_of_accepts haccepts
        rw [hparse, Option.some.inj hcallback]
        exact ⟨report, hfields, rfl⟩
      · intro hcalls
        cases hparse : parseOutputReport data with
        | error error =>
          rw [hparse] at hcalls
          exact absurd rfl hcalls
        | ok report =>
          exact ⟨Option.some_ne_none _, not_not.1 htype, accepts_of_parseOutputReport hparse⟩

/-- **Delivery**: a payload with its id on its own gives the result and the calls of the report with
the id in front of it, and a report reaches the callback exactly when it is long enough for its id,
with its fields read at their offsets. -/
theorem handle_delivers (handler : OutputReportHandler κ) (hidCid : UInt16) (reportType : UInt8) :
    (∀ (id : UInt8) (payload : List UInt8), id ≠ 0 → payload.length < outputReportMaxSize →
      (handle handler ⟨hidCid, reportType, id.toUInt16, some payload⟩).result =
          (handle handler ⟨hidCid, reportType, 0, some (id :: payload)⟩).result ∧
        (handle handler ⟨hidCid, reportType, id.toUInt16, some payload⟩).calls =
          (handle handler ⟨hidCid, reportType, 0, some (id :: payload)⟩).calls) ∧
    ∀ data : List UInt8,
      (∀ callback, handler.callback = some callback → reportType = hidReportTypeOutput →
        (data[0]? = some 0x01 ∧ 11 ≤ data.length ∨ data[0]? = some 0x10 ∧ 10 ≤ data.length) →
          ∃ report, OutputReport.ReadFrom data report ∧
            (handle handler ⟨hidCid, reportType, 0, some data⟩).calls =
              [(callback, hidCid, report)]) ∧
      ((handle handler ⟨hidCid, reportType, 0, some data⟩).calls ≠ [] →
        handler.callback ≠ none ∧ reportType = hidReportTypeOutput ∧
          (data[0]? = some 0x01 ∧ 11 ≤ data.length ∨
            data[0]? = some 0x10 ∧ 10 ≤ data.length)) :=
  ⟨fun id _ hid h => handle_separate handler hidCid reportType id hid h,
    fun data => handle_whole handler hidCid reportType data⟩

end OutputReportHandler

end Swbt
