import SwbtDaemon.Daemon.Layers
import SwbtDaemon.Daemon.Proofs.EnvironmentProofs

/-!
# The configuration of a launch is layered

The file and the environment are applied setting by setting to the buffers of one configuration. Each
of the two puts a layer over it, so that the settings of a launch are those of the environment over
those of the file over the default.
-/

namespace Swbt

open CString
open ConfigFile (Tables applyU32 applyU16 applyInt applyString valueAt)

/-! ## The setters -/

namespace Config

/-- The buffer of the host after a host has been set. -/
def hostBuffer (buffer : Vector UInt8 16) (host : List UInt8) : Vector UInt8 16 :=
  ({ default with ipcHost := buffer }.setIpcHost host).2.ipcHost

theorem setIpcHost_snd (config : Config) (host : List UInt8) :
    (config.setIpcHost host).2 = { config with ipcHost := hostBuffer config.ipcHost host } := by
  unfold hostBuffer setIpcHost
  dsimp only
  split
  · rfl
  · rfl

/-- A host as it stands in the buffer. -/
theorem ofArray_hostBuffer (buffer : Vector UInt8 16) {host : List UInt8}
    (hnul : ∀ c ∈ host, c ≠ 0) (hne : host ≠ []) (hlength : host.length ≤ 15) :
    ofArray (hostBuffer buffer host).toList = host := by
  have hcut : ofArray host = host :=
    List.takeWhile_eq_self_iff.2 fun c hc => by simpa using hnul c hc
  have hmin : min 15 host.length = host.length := by omega
  have hbuffer : (hostBuffer buffer host).toList =
      host ++ 0 :: buffer.toList.drop (host.length + 1) := by
    unfold hostBuffer setIpcHost
    dsimp only
    rw [hcut, if_neg hne, hmin]
    refine List.ext_getElem ?_ fun index hleft hright => ?_
    · simp
      omega
    rw [Vector.getElem_toList, Vector.getElem_ofFn]
    dsimp only
    rcases Nat.lt_trichotomy index host.length with hlt | rfl | hgt
    · rw [if_pos hlt, List.getElem_append_left hlt]
      simp [hlt]
    · rw [if_neg (by omega), if_pos rfl, List.getElem_append_right (by omega)]
      simp
    · obtain ⟨rest, rfl⟩ : ∃ rest, index = host.length + 1 + rest :=
        ⟨index - (host.length + 1), by omega⟩
      rw [if_neg (by omega), if_neg (by omega), List.getElem_append_right (by omega)]
      simp only [show host.length + 1 + rest - host.length = rest + 1 by omega,
        List.getElem_cons_succ, List.getElem_drop, Vector.getElem_toList]
      rfl
  rw [hbuffer]
  unfold ofArray
  rw [List.takeWhile_append_of_pos fun c hc => by simpa using hnul c hc]
  simp

end Config

namespace ConfigLayer

theorem readHost_eq_some {raw host : List UInt8} (h : readHost raw = some host) :
    host = ofArray raw ∧ host ≠ [] ∧ host.length ≤ 15 := by
  unfold readHost at h
  dsimp only at h
  split at h
  · cases h
  · next hfits =>
    obtain rfl := Option.some.inj h
    rw [not_or, Nat.not_lt] at hfits
    exact ⟨rfl, hfits.1, hfits.2⟩

theorem nul_not_mem_ofArray (raw : List UInt8) : ∀ c ∈ ofArray raw, c ≠ 0 := by
  intro c hc
  have hchar := List.mem_takeWhile_imp hc
  simpa using hchar

theorem ofArray_ofArray (raw : List UInt8) : ofArray (ofArray raw) = ofArray raw :=
  List.takeWhile_eq_self_iff.2 fun c hc => by simpa using nul_not_mem_ofArray raw c hc

/-- A setter takes what a reader reads, and puts that into the configuration. -/
structure Puts {α : Type} (setter : Config → List UInt8 → Bool × Config)
    (read : List UInt8 → Option α) (put : Config → α → Config) : Prop where
  takes : ∀ config raw value, read raw = some value → setter config raw = (true, put config value)
  refuses : ∀ config raw, read raw = none → (setter config raw).1 = false

/-- The configuration with a host in its buffer. -/
def putHost (config : Config) (host : List UInt8) : Config :=
  { config with ipcHost := Config.hostBuffer config.ipcHost host }

/-- The configuration with a device, where there is one. -/
def putDevice (config : Config) (device : Option DeviceInfo) : Config :=
  { config with deviceInfo := device.getD config.deviceInfo }

/-- The buffer that spells an address. -/
def addressText (address : SwitchAddress.Bytes) : SwitchAddress.Text :=
  SwitchAddress.formatBytes address (Vector.replicate 18 0)

theorem spelled_addressText (address : SwitchAddress.Bytes) :
    SwitchAddress.Spelled (addressText address).toList address :=
  SwitchAddress.spelled_formatBytes address _

def putExplicit (config : Config) (address : SwitchAddress.Bytes) : Config :=
  { config with explicitSwitchAddress := addressText address }

def putLearned (config : Config) (address : SwitchAddress.Bytes) : Config :=
  { config with learnedSwitchAddress := addressText address }

theorem puts_host : Puts Config.setIpcHost readHost putHost where
  takes config raw host hread := by
    obtain ⟨rfl, hne, hlength⟩ := readHost_eq_some hread
    have hagain : config.setIpcHost raw = config.setIpcHost (ofArray raw) := by
      unfold Config.setIpcHost
      rw [ofArray_ofArray]
    rw [hagain]
    refine Prod.ext ?_ (Config.setIpcHost_snd config _)
    unfold Config.setIpcHost
    dsimp only
    rw [ofArray_ofArray, if_neg hne]
    simp [hlength]
  refuses config raw hread := by
    unfold readHost at hread
    dsimp only at hread
    split at hread
    · next hmisfit =>
      unfold Config.setIpcHost
      dsimp only
      rcases hmisfit with hempty | hlong
      · rw [if_pos hempty]
      · rw [if_neg (List.ne_nil_of_length_pos (by omega))]
        simp only [beq_eq_false_iff_ne]
        omega
    · cases hread

theorem puts_device : Puts Config.applyDeviceInfoProfile readProfile putDevice where
  takes config raw device hread := by
    unfold readProfile at hread
    unfold Config.applyDeviceInfoProfile
    dsimp only at hread ⊢
    split at hread
    · next hempty =>
      obtain rfl := Option.some.inj hread
      rw [if_pos hempty]
      rfl
    · next hne =>
      split at hread
      · next hknown =>
        obtain rfl := Option.some.inj hread
        rw [if_neg hne, if_pos hknown]
        rfl
      · cases hread
  refuses config raw hread := by
    unfold readProfile at hread
    unfold Config.applyDeviceInfoProfile
    dsimp only at hread ⊢
    split at hread
    · cases hread
    · next hne =>
      split at hread
      · cases hread
      · next hunknown => rw [if_neg hne, if_neg hunknown]

theorem readAddress_eq_some_iff {raw : List UInt8} {address : SwitchAddress.Bytes} :
    readAddress raw = some address ↔ SwitchAddress.Spelled raw address := by
  rw [← SwitchAddress.parseBytes_eq_iff raw (Vector.replicate 6 0)]
  unfold readAddress
  generalize SwitchAddress.parseBytes raw (Vector.replicate 6 0) = parsed
  obtain ⟨ok, found⟩ := parsed
  cases ok with
  | false => simp
  | true => simp

/-- An address that is read is put into a buffer as its canonical text. -/
theorem normalize_eq {raw : List UInt8} (dest : SwitchAddress.Text) :
    SwitchAddress.normalize dest raw =
      (readAddress raw).elim (false, dest) fun address => (true, addressText address) := by
  cases hread : readAddress raw with
  | some address =>
    exact SwitchAddress.normalize_of_spelled (readAddress_eq_some_iff.1 hread) dest _
  | none =>
    refine SwitchAddress.normalize_of_not_spelled ?_ dest
    rintro ⟨address, hspelled⟩
    rw [readAddress_eq_some_iff.2 hspelled] at hread
    cases hread

theorem puts_explicit : Puts Config.setExplicitSwitchAddress readAddress putExplicit where
  takes config raw address hread := by
    unfold Config.setExplicitSwitchAddress
    rw [normalize_eq, hread]
    rfl
  refuses config raw hread := by
    unfold Config.setExplicitSwitchAddress
    rw [normalize_eq, hread]
    rfl

theorem puts_learned : Puts Config.setLearnedSwitchAddress readAddress putLearned where
  takes config raw address hread := by
    unfold Config.setLearnedSwitchAddress
    rw [normalize_eq, hread]
    rfl
  refuses config raw hread := by
    unfold Config.setLearnedSwitchAddress
    rw [normalize_eq, hread]
    rfl

/-! ## The readers of a file -/

section file

variable {V : Type*} {lib : TomlLibrary V}

/-- A reader of numbers: it keeps its number where the key is missing, and refuses what is no number
up to the maximum. -/
theorem number_eq {α : Type} {table : Option V} {key : List UInt8} {maximum : Nat} {out : α}
    {result : Option α} {f : Nat → α}
    (habsent : valueAt lib table key = none → result = some out)
    (hother : ∀ value, valueAt lib table key = some value → lib.integer value = none →
      result = none)
    (hinteger : ∀ value n, valueAt lib table key = some value → lib.integer value = some n →
      result = (if 0 ≤ n then some n.toNat else none).bind fun v =>
        if v ≤ maximum then some (f v) else none) :
    result = (fileNumber lib table key maximum).map fun n => (n.map f).getD out := by
  unfold fileNumber
  cases hvalue : valueAt lib table key with
  | none => exact habsent hvalue
  | some value =>
    dsimp only
    cases hn : lib.integer value with
    | none => exact hother value hvalue hn
    | some n =>
      rw [hinteger value n hvalue hn, Option.bind_some]
      by_cases hneg : 0 ≤ n
      · rw [if_pos hneg, Option.bind_some]
        by_cases hle : n.toNat ≤ maximum
        · rw [if_pos hle, if_pos ⟨hneg, by omega⟩]
          rfl
        · rw [if_neg hle, if_neg fun h => hle (by omega)]
          rfl
      · rw [if_neg hneg, if_neg fun h => hneg h.1]
        rfl

theorem applyU32_eq (table : Option V) (key : List UInt8) (out : UInt32) :
    applyU32 lib table key out =
      (fileNumber lib table key (2 ^ 32 - 1)).map fun n => (n.map Nat.toUInt32).getD out := by
  refine number_eq (fun h => ConfigFile.applyU32_absent h out) (fun value hvalue hinteger => ?_)
    fun value n hvalue hinteger => ConfigFile.applyU32_integer hvalue hinteger out
  rw [applyU32, hvalue]
  dsimp only
  rw [hinteger]

theorem applyU16_eq (table : Option V) (key : List UInt8) (out : UInt16) :
    applyU16 lib table key out =
      (fileNumber lib table key (2 ^ 16 - 1)).map fun n => (n.map Nat.toUInt16).getD out := by
  refine number_eq (fun h => ConfigFile.applyU16_absent h out) (fun value hvalue hinteger => ?_)
    fun value n hvalue hinteger => ConfigFile.applyU16_integer hvalue hinteger out
  rw [applyU16, hvalue, if_neg (by simp), applyU32, hvalue]
  dsimp only
  rw [hinteger]

theorem applyInt_eq (table : Option V) (key : List UInt8) (out : Int) :
    applyInt lib table key out =
      (fileNumber lib table key (2 ^ 31 - 1)).map fun n => (n.map Int.ofNat).getD out := by
  refine number_eq (fun h => ConfigFile.applyInt_absent h out) (fun value hvalue hinteger => ?_)
    fun value n hvalue hinteger => ConfigFile.applyInt_integer hvalue hinteger out
  rw [applyInt, hvalue, if_neg (by simp), applyU32, hvalue]
  dsimp only
  rw [hinteger]

theorem applyString_eq {α : Type} {setter : Config → List UInt8 → Bool × Config}
    {read : List UInt8 → Option α} {put : Config → α → Config} (h : Puts setter read put)
    (table : Option V) (key : List UInt8) (config : Config) :
    applyString lib table key setter config =
      (fileText lib table key read).map fun value => value.elim config (put config) := by
  unfold applyString fileText
  cases valueAt lib table key with
  | none => rfl
  | some value =>
    dsimp only
    cases lib.string value with
    | none => rfl
    | some raw =>
      dsimp only
      rw [Option.bind_some]
      cases hread : read raw with
      | none =>
        rw [h.refuses config raw hread]
        rfl
      | some taken =>
        rw [h.takes config raw taken hread]
        rfl

/-! ## The layers over a configuration -/

end file

/-- The configuration with the values of a layer in its buffers. -/
def into (layer : ConfigLayer) (config : Config) : Config where
  reportPeriodUs := layer.reportPeriodUs.getD config.reportPeriodUs
  ipcHost := layer.ipcHost.elim config.ipcHost (Config.hostBuffer config.ipcHost)
  ipcPort := layer.ipcPort.getD config.ipcPort
  ipcBacklog := (layer.ipcBacklog.map Int.ofNat).getD config.ipcBacklog
  ipcHeartbeatTimeoutMs := layer.ipcHeartbeatTimeoutMs.getD config.ipcHeartbeatTimeoutMs
  explicitSwitchAddress := layer.explicitSwitchAddress.elim config.explicitSwitchAddress addressText
  learnedSwitchAddress := layer.learnedSwitchAddress.elim config.learnedSwitchAddress addressText
  reportOptions := config.reportOptions
  deviceInfo := layer.deviceInfo.getD config.deviceInfo

/-! What a reader puts or leaves alone, field by field. -/

theorem elim_putHost (host : Option (List UInt8)) (config : Config) :
    host.elim config (putHost config) =
      { config with ipcHost := host.elim config.ipcHost (Config.hostBuffer config.ipcHost) } := by
  cases host with
  | none => rfl
  | some host => rfl

theorem elim_putDevice (device : Option (Option DeviceInfo)) (config : Config) :
    device.elim config (putDevice config) =
      { config with deviceInfo := device.join.getD config.deviceInfo } := by
  cases device with
  | none => rfl
  | some device => rfl

theorem elim_putExplicit (address : Option SwitchAddress.Bytes) (config : Config) :
    address.elim config (putExplicit config) =
      { config with
        explicitSwitchAddress := address.elim config.explicitSwitchAddress addressText } := by
  cases address with
  | none => rfl
  | some address => rfl

theorem elim_putLearned (address : Option SwitchAddress.Bytes) (config : Config) :
    address.elim config (putLearned config) =
      { config with
        learnedSwitchAddress := address.elim config.learnedSwitchAddress addressText } := by
  cases address with
  | none => rfl
  | some address => rfl

/-- The configuration that has passed the last check of both sources. -/
def lastChecked (next : Config) : Option Config :=
  if next.reportPeriodUs = 0 ∨ next.ipcBacklog ≤ 0 then none else some next

variable {V : Type*} {lib : TomlLibrary V}

theorem applyTables_eq (tables : Tables V) (config : Config) :
    ConfigFile.applyTables lib tables config =
      (ofTables lib tables).bind fun layer => lastChecked (layer.into config) := by
  unfold ConfigFile.applyTables ofTables
  unfold ConfigFile.applyIpcHost ConfigFile.applyDeviceProfile
    ConfigFile.applyActiveReconnectSwitchAddress ConfigFile.applyActiveReconnectLearnedSwitchAddress
  simp only [applyU32_eq, applyU16_eq, applyInt_eq, applyString_eq puts_host,
    applyString_eq puts_device, applyString_eq puts_explicit, applyString_eq puts_learned]
  cases fileNumber lib tables.report (bytes "period_us") (2 ^ 32 - 1) with
  | none => rfl
  | some period =>
  cases fileNumber lib tables.ipc (bytes "port") (2 ^ 16 - 1) with
  | none => rfl
  | some port =>
  cases fileText lib tables.ipc (bytes "host") readHost with
  | none => rfl
  | some host =>
  cases fileNumber lib tables.ipc (bytes "backlog") (2 ^ 31 - 1) with
  | none => rfl
  | some backlog =>
  cases fileNumber lib tables.ipc (bytes "heartbeat_timeout_ms") (2 ^ 32 - 1) with
  | none => rfl
  | some timeout =>
  cases fileText lib tables.device (bytes "profile") readProfile with
  | none => rfl
  | some device =>
  cases fileText lib tables.activeReconnect (bytes "switch_address") readAddress with
  | none => rfl
  | some explicit =>
  cases fileText lib tables.learned (bytes "switch_address") readAddress with
  | none => rfl
  | some learned =>
  simp only [Option.map_some, Option.bind_eq_bind, Option.bind_some, elim_putHost, elim_putDevice,
    elim_putExplicit, elim_putLearned]
  rfl

/-! ## The environment -/

theorem override_eq {α : Type} (parse : List UInt8 → Option α) (value : Option (List UInt8))
    (out : α) :
    Config.override parse value out = (variableNumber parse value).map fun n => n.getD out := by
  unfold Config.override variableNumber
  cases value with
  | none => rfl
  | some value =>
    dsimp only
    cases parse value with
    | none => rfl
    | some n => rfl

theorem overrideHost_eq (value : Option (List UInt8)) (config : Config) :
    Config.overrideHost value config =
      (variableHost value).map fun host => host.elim config (putHost config) := by
  unfold Config.overrideHost variableHost
  cases value with
  | none => rfl
  | some raw =>
    dsimp only
    by_cases hempty : raw = []
    · rw [if_pos hempty, if_pos hempty]
      rfl
    · rw [if_neg hempty, if_neg hempty]
      cases hread : readHost raw with
      | none =>
        rw [puts_host.refuses config raw hread]
        rfl
      | some host =>
        rw [puts_host.takes config raw host hread]
        rfl

/-- A backlog of the environment is not negative. -/
theorem parseInt_eq [Platform] (value : List UInt8) :
    Config.parseInt value = ((Config.parseInt value).map Int.toNat).map Int.ofNat := by
  unfold Config.parseInt
  cases Config.parseU32 value with
  | none => rfl
  | some parsed =>
    dsimp only
    split
    · rfl
    · rfl

theorem variableNumber_parseInt [Platform] (value : Option (List UInt8)) (out : Int) :
    (variableNumber Config.parseInt value).map (fun n => n.getD out) =
      (variableNumber Config.parseInt value).map fun n =>
        ((n.map Int.toNat).map Int.ofNat).getD out := by
  unfold variableNumber
  cases value with
  | none => rfl
  | some value =>
    dsimp only
    rw [parseInt_eq]
    cases Config.parseInt value with
    | none => rfl
    | some n => rfl

theorem applyEnvValues_eq [Platform] (env : ConfigEnv) (config : Config) :
    Config.applyEnvValues env config =
      (ofEnv env).bind fun layer => lastChecked (layer.into config) := by
  unfold Config.applyEnvValues ofEnv
  simp only [override_eq, overrideHost_eq, variableNumber_parseInt]
  cases variableNumber Config.parseU32 env.reportPeriodUs with
  | none => rfl
  | some period =>
  cases variableHost env.ipcHost with
  | none => rfl
  | some host =>
  cases variableNumber Config.parseU16 env.ipcPort with
  | none => rfl
  | some port =>
  cases variableNumber Config.parseInt env.ipcBacklog with
  | none => rfl
  | some backlog =>
  cases variableNumber Config.parseU32 env.ipcHeartbeatTimeoutMs with
  | none => rfl
  | some timeout =>
  simp only [Option.map_some, Option.bind_eq_bind, Option.bind_some, elim_putHost]
  cases hread : readProfile (env.deviceInfoProfile.getD []) with
  | none =>
    rw [puts_device.refuses _ _ hread]
    rfl
  | some device =>
    rw [puts_device.takes _ _ _ hread]
    rfl

/-! ## The settings under a layer -/

/-- The hosts of a layer fit their buffer. -/
def Fits (layer : ConfigLayer) : Prop :=
  ∀ host ∈ layer.ipcHost, host ≠ [] ∧ host.length ≤ 15 ∧ ∀ c ∈ host, c ≠ 0

theorem address_addressText (address : SwitchAddress.Bytes) :
    (addressText address).address = some address := by
  have hparse := (SwitchAddress.parseBytes_eq_iff (addressText address).toList
    (Vector.replicate 6 0) address).2 (spelled_addressText address)
  unfold SwitchAddress.Text.address
  rw [hparse]
  rfl

theorem address_elim (address : Option SwitchAddress.Bytes) (text : SwitchAddress.Text) :
    (address.elim text addressText).address = address.or text.address := by
  cases address with
  | none => simp
  | some address => exact address_addressText address

/-- The buffers with the values of a layer hold the layer over what they held. -/
theorem view_into {layer : ConfigLayer} (hfits : layer.Fits) (config : Config) :
    (layer.into config).view = layer.onto config.view := by
  unfold into onto Config.view
  simp only [address_elim, ConfigView.mk.injEq, true_and, and_true]
  cases hhost : layer.ipcHost with
  | none => rfl
  | some host =>
    obtain ⟨hne, hlength, hnul⟩ := hfits host hhost
    exact Config.ofArray_hostBuffer config.ipcHost hnul hne hlength

theorem lastChecked_view (next : Config) : (lastChecked next).map Config.view = next.view.checked := by
  unfold lastChecked ConfigView.checked
  by_cases h : next.reportPeriodUs = 0 ∨ next.ipcBacklog ≤ 0
  · rw [if_pos h]
    exact (if_pos h).symm
  · rw [if_neg h]
    exact (if_neg h).symm

theorem fits_of_readHost {raw : List UInt8} {host : List UInt8} (h : readHost raw = some host) :
    host ≠ [] ∧ host.length ≤ 15 ∧ ∀ c ∈ host, c ≠ 0 := by
  obtain ⟨rfl, hne, hlength⟩ := readHost_eq_some h
  exact ⟨hne, hlength, nul_not_mem_ofArray raw⟩

theorem fits_ofTables {tables : Tables V} {layer : ConfigLayer}
    (h : ofTables lib tables = some layer) : layer.Fits := by
  unfold ofTables at h
  simp only [Option.bind_eq_bind, Option.bind_eq_some_iff, Option.some.injEq] at h
  obtain ⟨period, -, port, -, text, htext, backlog, -, timeout, -, device, -, explicit, -, learned, -,
    rfl⟩ := h
  intro host hhost
  unfold fileText at htext
  split at htext
  · obtain rfl := Option.some.inj htext
    cases hhost
  · next value hvalue =>
    rw [Option.map_eq_some_iff] at htext
    obtain ⟨found, hfound, rfl⟩ := htext
    obtain ⟨raw, -, hread⟩ := Option.bind_eq_some_iff.1 hfound
    obtain rfl := Option.some.inj hhost
    exact fits_of_readHost hread

theorem fits_ofEnv [Platform] {env : ConfigEnv} {layer : ConfigLayer}
    (h : ofEnv env = some layer) : layer.Fits := by
  unfold ofEnv at h
  simp only [Option.bind_eq_bind, Option.bind_eq_some_iff, Option.some.injEq] at h
  obtain ⟨period, -, text, htext, port, -, backlog, -, timeout, -, device, -, rfl⟩ := h
  intro host hhost
  unfold variableHost at htext
  split at htext
  · obtain rfl := Option.some.inj htext
    cases hhost
  · split at htext
    · obtain rfl := Option.some.inj htext
      cases hhost
    · rw [Option.map_eq_some_iff] at htext
      obtain ⟨found, hread, rfl⟩ := htext
      obtain rfl := Option.some.inj hhost
      exact fits_of_readHost hread

end ConfigLayer

/-! ## The configuration of a launch -/

namespace LaunchConfig

open ConfigLayer

variable {V : Type*} (lib : TomlLibrary V)

/-- A required file is the layer that its document gives. -/
theorem readConfig_some (path : List UInt8) (answers : ConfigFile.ReadAnswers V) :
    readConfig lib (some path) answers =
      (answers.document path).bind fun root =>
        (ofFile lib root).bind fun layer => lastChecked (layer.into Config.default) := by
  unfold readConfig ConfigFile.applyFile ConfigFile.ReadAnswers.document
  dsimp only
  by_cases hpath : path = []
  · rw [if_pos hpath, if_pos hpath]
    rfl
  rw [if_neg hpath, if_neg hpath]
  obtain ⟨answer, closed, parsed⟩ := answers
  cases answer with
  | noEntry => rfl
  | failed => rfl
  | opened =>
    cases parsed with
    | none => rfl
    | some root =>
      have htables : ((ConfigFile.findTables lib root).bind fun tables =>
          ConfigFile.applyTables lib tables Config.default) =
          (ofFile lib root).bind fun layer => lastChecked (layer.into Config.default) := by
        unfold ofFile
        simp only [applyTables_eq, Option.bind_assoc]
      rw [Option.bind_some, ← htables]
      dsimp only
      cases hnext : (ConfigFile.findTables lib root).bind fun tables =>
          ConfigFile.applyTables lib tables Config.default with
      | none =>
        have happly : ConfigFile.applyToml lib Config.default root =
            (.invalidValue, Config.default) := by
          unfold ConfigFile.applyToml
          rw [hnext]
        simp only [happly]
        rfl
      | some next =>
        have happly : ConfigFile.applyToml lib Config.default root = (.ok, next) := by
          unfold ConfigFile.applyToml
          rw [hnext]
        simp only [happly]
        rfl

theorem lastChecked_into_view {layer : ConfigLayer} (hfits : layer.Fits) (config : Config) :
    (lastChecked (layer.into config)).map Config.view = (layer.onto config.view).checked := by
  rw [lastChecked_view, view_into hfits]

theorem readConfig_view (options : LaunchOptions) (answers : ConfigFile.ReadAnswers V) :
    (readConfig lib options.configPath answers).map Config.view =
      options.fileView lib answers := by
  unfold LaunchOptions.fileView
  cases options.configPath with
  | none => rfl
  | some path =>
    dsimp only
    rw [readConfig_some]
    cases answers.document path with
    | none => rfl
    | some root =>
      rw [Option.bind_some, Option.bind_some]
      cases hlayer : ofFile lib root with
      | none => rfl
      | some layer =>
        obtain ⟨tables, -, htables⟩ := Option.bind_eq_some_iff.1 hlayer
        exact lastChecked_into_view (fits_ofTables htables) Config.default

/-- What the environment leaves of a configuration. -/
theorem applyEnv_view [Platform] (env : ConfigEnv) (config : Config) :
    (Config.applyEnvValues env config).map Config.view =
      (ofEnv env).bind fun layer => (layer.onto config.view).checked := by
  rw [applyEnvValues_eq]
  cases hlayer : ofEnv env with
  | none => rfl
  | some layer => exact lastChecked_into_view (fits_ofEnv hlayer) config

/-- A launch takes over the file and then the environment. -/
theorem prepare_eq [Platform] (options : LaunchOptions) (env : ConfigEnv)
    (answers : ConfigFile.ReadAnswers V) :
    prepare lib options env answers =
      (readConfig lib options.configPath answers).bind fun config =>
        (Config.applyEnvValues env config).map fun config =>
          ⟨config, options.linkKeyDbPath, options.hciDumpPath, options.adapterLocation,
            options.configPath⟩ := by
  unfold prepare
  cases readConfig lib options.configPath answers with
  | none => rfl
  | some config =>
    dsimp only
    rw [Option.bind_some]
    unfold Config.applyEnv
    cases Config.applyEnvValues env config with
    | none => rfl
    | some next => rfl

/-- The configuration of a launch is the environment over the file over the default, setting by
setting; and a launch is refused exactly where a source is, or where the settings are none that a
daemon can run with. -/
theorem prepare_layers [Platform] (options : LaunchOptions) (env : ConfigEnv)
    (answers : ConfigFile.ReadAnswers V) :
    (prepare lib options env answers).map (fun launch => launch.config.view) =
      options.effective lib env answers := by
  rw [prepare_eq]
  unfold LaunchOptions.effective
  rw [← readConfig_view]
  cases readConfig lib options.configPath answers with
  | none => rfl
  | some config =>
    have hview := applyEnv_view env config
    rw [Option.bind_some, Option.map_map]
    exact hview

end LaunchConfig

end Swbt
