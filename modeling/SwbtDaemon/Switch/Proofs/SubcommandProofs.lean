import SwbtDaemon.Domain.Domain
import SwbtDaemon.Switch.Proofs.ReportProofs
import SwbtDaemon.Switch.Proofs.SpiProofs

/-!
# What the dispatcher answers

A dispatch either fills the response with a reply to its subcommand or leaves it as the reset one,
and the player lights change only with a reply. The read of the flash is the one subcommand whose
reply carries more than constants.
-/

namespace Swbt

/-! ## Replies -/

/-- The reply that is built from data that fits. -/
theorem buildSubcommandReply_eq (state : State) (options : ReportOptions) {reply : SubcommandReply}
    (h : reply.data.length ≤ subcommandReplyMaxDataSize) :
    buildSubcommandReply state options reply subcommandReplyReportSize =
      .ok (SubcommandReply.writeStandardPrefix state options ++
        [reply.ack, reply.subcommandId] ++ reply.data ++
        List.replicate (subcommandReplyMaxDataSize - reply.data.length) 0) := by
  rw [buildSubcommandReply, if_neg (Nat.not_lt.2 h), if_neg (Nat.lt_irrefl _)]

/-- The results of a dispatch of the subcommand `id`: a reply to it, or nothing. -/
inductive Answered (id : UInt8) : DispatchResult → DispatchResponse → Prop
  /-- A `0x21` report of full size that names the subcommand. -/
  | reply (report : List UInt8) (hsize : report.length = subcommandReplyReportSize)
      (hfirst : report[0]? = some inputReportSubcommandReply) (hid : report[14]? = some id) :
      Answered id .ok ⟨.reply, report, subcommandReplyReportSize⟩
  /-- No reply, for one of the reasons that a dispatch really has. -/
  | reset (result : DispatchResult) (hok : result ≠ .ok) (hbuild : result ≠ .replyBuildFailed)
      (hlights : result ≠ .playerLightsFailed) : Answered id result DispatchResponse.reset

/-- A dispatch whose reply data fits builds its reply. -/
theorem dispatchBuildReply_eq (config : DispatchConfig) (ack id : UInt8) (data : List UInt8)
    (h : data.length ≤ subcommandReplyMaxDataSize) :
    ∃ report, report.length = subcommandReplyReportSize ∧
      report = SubcommandReply.writeStandardPrefix config.state config.reportOptions ++
        [ack, id] ++ data ++ List.replicate (subcommandReplyMaxDataSize - data.length) 0 ∧
      dispatchBuildReply config ack id data =
        (.ok, ⟨.reply, report, subcommandReplyReportSize⟩) := by
  have hreply := buildSubcommandReply_eq config.state config.reportOptions
    (show (SubcommandReply.mk ack id data).data.length ≤ _ from h)
  have hsize := (buildSubcommandReply_some hreply).1
  refine ⟨_, hsize, rfl, ?_⟩
  rw [dispatchBuildReply, hreply]
  dsimp only
  rw [hsize]

theorem dispatchBuildReply_answered (config : DispatchConfig) (ack id : UInt8) {data : List UInt8}
    (h : data.length ≤ subcommandReplyMaxDataSize) :
    Answered id (dispatchBuildReply config ack id data).1
      (dispatchBuildReply config ack id data).2 := by
  obtain ⟨report, hsize, hreport, hbuild⟩ := dispatchBuildReply_eq config ack id data h
  rw [hbuild]
  subst hreport
  exact .reply _ hsize rfl rfl

theorem dispatchSpiRead_answered (config : DispatchConfig) (id : UInt8) (data : List UInt8) :
    Answered id (dispatchSpiRead config id data).1 (dispatchSpiRead config id data).2 := by
  unfold dispatchSpiRead
  split
  · rename_i d0 d1 d2 d3 size _
    have hread := Spi.read_eq config.spi (readU32Le d0 d1 d2 d3) size
    by_cases hbounds : size ≤ Spi.maxReadSize ∧
        (readU32Le d0 d1 d2 d3).toNat + size.toNat ≤ Spi.addressLimit.toNat
    · have hmax : size.toNat ≤ 29 := UInt8.le_iff_toNat_le.1 hbounds.1
      rw [hread.1 hbounds]
      apply dispatchBuildReply_answered
      simp only [List.length_append, List.length_cons, List.length_nil, Spi.Flash.length_bytesAt,
        subcommandReplyMaxDataSize]
      omega
    · obtain ⟨error, herror⟩ := hread.2 hbounds
      rw [herror]
      dsimp only
      exact .reset _ (by decide) (by decide) (by decide)
  · exact .reset _ (by decide) (by decide) (by decide)

theorem length_writeReplyData (info : DeviceInfo) : info.writeReplyData.length = 12 := by
  simp only [DeviceInfo.writeReplyData, List.length_append, List.length_cons, List.length_nil,
    Vector.length_toList]

/-! ## Dispatches -/

variable {config : DispatchConfig} {lights : PlayerLights} {report : OutputReport}

theorem dispatch_answered {id : UInt8} {data : List UInt8}
    (h : report.subcommand = some (id, data)) :
    Answered id (dispatch config lights report).1 (dispatch config lights report).2.1 := by
  unfold dispatch
  rw [h]
  dsimp only
  split
  case h_1 =>
    apply dispatchBuildReply_answered
    rw [length_writeReplyData]
    decide
  case h_8 => exact dispatchSpiRead_answered _ _ _
  case h_9 =>
    split
    · exact .reset _ (nomatch ·) (nomatch ·) (nomatch ·)
    · apply dispatchBuildReply_answered
      decide
  case h_10 =>
    rw [PlayerLights.getReplyData, if_neg (Nat.lt_irrefl _)]
    apply dispatchBuildReply_answered
    exact Nat.le_add_left 1 34
  case h_11 => exact .reset _ (nomatch ·) (nomatch ·) (nomatch ·)
  -- The replies with constant data.
  all_goals
    apply dispatchBuildReply_answered
    decide

theorem Answered.head {id : UInt8} {result : DispatchResult} {response : DispatchResponse}
    (h : Answered id result response) (haction : response.action = .reply) :
    (response.report.take response.reportSize).head? = some inputReportSubcommandReply := by
  cases h with
  | reply report hsize hfirst =>
    rw [List.take_of_length_le (Nat.le_of_eq hsize), List.head?_eq_getElem?]
    exact hfirst
  | reset => cases haction

/-- The lights that a dispatch leaves: as they were, unless it is a `SET_PLAYER_LIGHTS`, which then
has its reply. -/
theorem dispatch_lights :
    (dispatch config lights report).2.2 = lights ∨
      (dispatch config lights report).1 = .ok ∧ ∃ raw rest,
        report.subcommand = some (0x30, raw :: rest) ∧
          (dispatch config lights report).2.2 = PlayerLights.applyRaw raw := by
  unfold dispatch
  split
  · exact .inl rfl
  · rename_i id data hsubcommand
    dsimp only
    split
    case h_9 =>
      cases data with
      | nil => exact .inl rfl
      | cons raw rest =>
        obtain ⟨reply, -, -, hbuild⟩ := dispatchBuildReply_eq config 0x80 0x30 [] (Nat.zero_le _)
        exact .inr ⟨congrArg Prod.fst hbuild, raw, rest, hsubcommand, rfl⟩
    case h_10 =>
      rw [PlayerLights.getReplyData, if_neg (Nat.lt_irrefl _)]
      exact .inl rfl
    all_goals exact .inl rfl

/-- **Dispatcher contract**, as `swbt_domain_handle_output_report` calls it: a result is OK exactly
when there is a reply, the reply has full size and names the subcommand, two of the errors never
occur, every other result leaves an empty response, and the call changes the rumble record and,
only with the reply to a `SET_PLAYER_LIGHTS`, the player lights. -/
theorem handleOutputReport_contract (app : Domain) (report : OutputReport)
    (reportOptions : ReportOptions) (deviceInfo : DeviceInfo) (updatedAtMs : UInt64) :
    let config : DispatchConfig := ⟨app.state, reportOptions, app.spi, deviceInfo⟩
    let result := (dispatch config app.playerLights report).1
    let after := (app.handleOutputReport report reportOptions deviceInfo updatedAtMs).2.2
    let response := (app.handleOutputReport report reportOptions deviceInfo updatedAtMs).2.1
    (result = .ok ↔ response.action = .reply) ∧
      (result = .ok → response.reportSize = 50 ∧ response.report.length = 50 ∧
        response.report[0]? = some 0x21 ∧
        ∃ id data, report.subcommand = some (id, data) ∧ response.report[14]? = some id) ∧
      result ≠ .replyBuildFailed ∧ result ≠ .playerLightsFailed ∧
      (result ≠ .ok → response.action = .none ∧ response.reportSize = 0 ∧
        response.report = List.replicate 50 0) ∧
      after = { app with rumble := after.rumble, playerLights := after.playerLights } ∧
      (after.playerLights ≠ app.playerLights →
        result = .ok ∧ ∃ data, report.subcommand = some (0x30, data)) := by
  dsimp only [Domain.handleOutputReport]
  have hlights := @dispatch_lights ⟨app.state, reportOptions, app.spi, deviceInfo⟩ app.playerLights
    report
  have hanswered := @dispatch_answered ⟨app.state, reportOptions, app.spi, deviceInfo⟩
    app.playerLights report
  have hnone : report.subcommand = none →
      dispatch ⟨app.state, reportOptions, app.spi, deviceInfo⟩ app.playerLights report =
        (.noReply, DispatchResponse.reset, app.playerLights) := by
    intro h
    rw [dispatch, h]
  generalize dispatch ⟨app.state, reportOptions, app.spi, deviceInfo⟩ app.playerLights report = r
    at hlights hanswered hnone ⊢
  obtain ⟨result, response, lights⟩ := r
  have hchanged : lights ≠ app.playerLights →
      result = .ok ∧ ∃ data, report.subcommand = some (0x30, data) := by
    intro hne
    obtain ⟨hok, raw, rest, hsubcommand, -⟩ := hlights.resolve_left hne
    exact ⟨hok, raw :: rest, hsubcommand⟩
  cases hsubcommand : report.subcommand with
  | none =>
    obtain ⟨rfl, rfl, rfl⟩ : _ = result ∧ _ = response ∧ _ = lights := by
      simpa [Prod.mk.injEq, eq_comm] using hnone hsubcommand
    refine ⟨iff_of_false (nomatch ·) (nomatch ·), (nomatch ·), (nomatch ·), (nomatch ·),
      fun _ => ⟨rfl, rfl, rfl⟩, rfl, fun h => absurd rfl h⟩
  | some subcommand =>
    obtain ⟨id, data⟩ := subcommand
    rw [hsubcommand] at hchanged
    cases hanswered hsubcommand with
    | reply reply hsize hfirst hid =>
      exact ⟨iff_of_true rfl rfl, fun _ => ⟨rfl, hsize, hfirst, id, data, rfl, hid⟩, (nomatch ·),
        (nomatch ·), fun h => absurd rfl h, rfl, hchanged⟩
    | reset _ hok hbuild hlightsFailed =>
      exact ⟨iff_of_false hok (nomatch ·), fun h => absurd h hok, hbuild, hlightsFailed,
        fun _ => ⟨rfl, rfl, rfl⟩, rfl, hchanged⟩

/-! ## Reading the flash -/

/-- The five bytes of a read request: the address, low byte first, and the size. -/
def spiReadRequest (address : UInt32) (size : UInt8) : List UInt8 :=
  [(address &&& 0xFF).toUInt8, ((address >>> 8) &&& (0xFF : UInt32)).toUInt8,
    ((address >>> 16) &&& (0xFF : UInt32)).toUInt8,
    ((address >>> 24) &&& (0xFF : UInt32)).toUInt8, size]

theorem readU32Le_request (address : UInt32) :
    readU32Le (address &&& 0xFF).toUInt8 ((address >>> 8) &&& (0xFF : UInt32)).toUInt8
      ((address >>> 16) &&& (0xFF : UInt32)).toUInt8
      ((address >>> 24) &&& (0xFF : UInt32)).toUInt8 = address := by
  have haddress := address.toNat_lt
  have hshift8 : (8 : UInt32).toNat = 8 := rfl
  have hshift16 : (16 : UInt32).toNat = 16 := rfl
  have hshift24 : (24 : UInt32).toNat = 24 := rfl
  apply UInt32.toNat_inj.mp
  rw [readU32Le, Bits.toNat_join32_four, Bits.toNat_low32, Bits.toNat_byte32 _ (by decide),
    Bits.toNat_byte32 _ (by decide), Bits.toNat_byte32 _ (by decide), hshift8, hshift16, hshift24]
  omega

/-- Every payload of at least five bytes is a read request with something behind it. -/
theorem exists_spiReadRequest {payload : List UInt8} (h : 5 ≤ payload.length) :
    ∃ address size rest, payload = spiReadRequest address size ++ rest := by
  match payload, h with
  | d0 :: d1 :: d2 :: d3 :: size :: rest, _ =>
    have h0 := d0.toNat_lt
    have h1 := d1.toNat_lt
    have h2 := d2.toNat_lt
    have h3 := d3.toNat_lt
    have hshift8 : (8 : UInt32).toNat = 8 := rfl
    have hshift16 : (16 : UInt32).toNat = 16 := rfl
    have hshift24 : (24 : UInt32).toNat = 24 := rfl
    have hvalue : (readU32Le d0 d1 d2 d3).toNat = _ := Bits.toNat_join32_four d0 d1 d2 d3
    refine ⟨readU32Le d0 d1 d2 d3, size, rest, ?_⟩
    have hbytes : ([d0, d1, d2, d3, size] : List UInt8) =
        spiReadRequest (readU32Le d0 d1 d2 d3) size := by
      rw [spiReadRequest]
      congr 1
      · apply UInt8.toNat_inj.mp
        rw [Bits.toNat_low32, hvalue]
        omega
      congr 1
      · apply UInt8.toNat_inj.mp
        rw [Bits.toNat_byte32 _ (by decide), hvalue, hshift8]
        omega
      congr 1
      · apply UInt8.toNat_inj.mp
        rw [Bits.toNat_byte32 _ (by decide), hvalue, hshift16]
        omega
      congr 1
      · apply UInt8.toNat_inj.mp
        rw [Bits.toNat_byte32 _ (by decide), hvalue, hshift24]
        omega
    rw [← hbytes]
    rfl

theorem dispatchSpiRead_request (config : DispatchConfig) (id : UInt8) (address : UInt32)
    (size : UInt8) (rest : List UInt8) :
    dispatchSpiRead config id (spiReadRequest address size ++ rest) =
      match Spi.read config.spi address size Spi.maxReadSize.toNat with
      | .error _ => (.spiReadFailed, DispatchResponse.reset)
      | .ok bytes => dispatchBuildReply config 0x90 id (spiReadRequest address size ++ bytes) := by
  have hread := congrArg (Spi.read config.spi · size Spi.maxReadSize.toNat)
    (readU32Le_request address)
  change (match Spi.read config.spi (readU32Le _ _ _ _) size Spi.maxReadSize.toNat with
    | .error _ => (DispatchResult.spiReadFailed, DispatchResponse.reset)
    | .ok bytes => dispatchBuildReply config 0x90 id (spiReadRequest address size ++ bytes)) = _
  rw [hread]

/-- **The read of the flash**: a reply exactly for the reads in bounds, and then the request, the
content of the flash at the requested addresses and zeros. -/
theorem dispatch_spiRead (config : DispatchConfig) (lights : PlayerLights)
    (outputReportId packetCounter : UInt8) (rumble : Vector UInt8 rumbleDataSize)
    (address : UInt32) (size : UInt8) (rest : List UInt8) :
    let response := (dispatch config lights ⟨outputReportId, packetCounter, rumble,
      some (0x10, spiReadRequest address size ++ rest)⟩).2.1
    (response.action = .reply ↔
        size ≤ Spi.maxReadSize ∧ address.toNat + size.toNat ≤ Spi.addressLimit.toNat) ∧
      (response.action = .reply →
        response.reportSize = 50 ∧ response.report.length = 50 ∧
        response.report.drop 15 = spiReadRequest address size ++
          config.spi.bytesAt address.toNat size.toNat ++ List.replicate (30 - size.toNat) 0 ∧
        ∀ index < size.toNat, (address + index.toUInt32).toNat = address.toNat + index) ∧
      (Spi.addressLimit - size.toUInt32).toNat = Spi.addressLimit.toNat - size.toNat ∧
      (response.action ≠ .reply → response = DispatchResponse.reset) := by
  have hdispatch : (dispatch config lights ⟨outputReportId, packetCounter, rumble,
      some (0x10, spiReadRequest address size ++ rest)⟩).2.1 =
        (dispatchSpiRead config 0x10 (spiReadRequest address size ++ rest)).2 := rfl
  dsimp only
  rw [hdispatch, dispatchSpiRead_request]
  by_cases hbounds : size ≤ Spi.maxReadSize ∧
      address.toNat + size.toNat ≤ Spi.addressLimit.toNat
  · have hmax : size.toNat ≤ 29 := UInt8.le_iff_toNat_le.1 hbounds.1
    have hlength : (spiReadRequest address size ++
        config.spi.bytesAt address.toNat size.toNat).length = 5 + size.toNat := by
      rw [List.length_append, Spi.Flash.length_bytesAt]
      rfl
    have hfits : (spiReadRequest address size ++
        config.spi.bytesAt address.toNat size.toNat).length ≤ subcommandReplyMaxDataSize := by
      rw [hlength, subcommandReplyMaxDataSize]
      omega
    obtain ⟨report, hsize, hreport, hbuild⟩ := dispatchBuildReply_eq config 0x90 0x10 _ hfits
    have hzeros : subcommandReplyMaxDataSize - (5 + size.toNat) = 30 - size.toNat := by
      rw [subcommandReplyMaxDataSize]
      omega
    rw [(Spi.read_eq config.spi address size).1 hbounds]
    dsimp only
    rw [hbuild]
    refine ⟨iff_of_true rfl hbounds, fun _ => ⟨rfl, hsize, ?_, ?_⟩,
      Spi.toNat_addressLimit_sub size, fun h => absurd rfl h⟩
    · rw [hreport, hlength, hzeros]
      rfl
    · exact fun index hindex => Spi.toNat_readAddress hbounds.2 hindex
  · obtain ⟨error, herror⟩ := (Spi.read_eq config.spi address size).2 hbounds
    rw [herror]
    have hsilent : DispatchResponse.reset.action ≠ .reply := by decide
    exact ⟨iff_of_false hsilent hbounds, fun h => absurd h hsilent, Spi.toNat_addressLimit_sub size,
      fun _ => rfl⟩

end Swbt
