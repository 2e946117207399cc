import SwbtDaemon.Daemon.Proofs.LaunchOptionsProofs
import SwbtDaemon.Daemon.Proofs.LayersProofs
import SwbtDaemon.Daemon.Proofs.ReconnectProofs
import SwbtDaemon.Lib.KeyValues
import SwbtDaemon.Lib.Octets

/-!
# What the configuration command tells

The command `config` prepares the launch that its options describe, and prints it as lines of keys
and values. What it prints can be read back, so that it decides what the program does when it is
started with the same options.
-/

namespace Swbt

open CString

/-! ## Prepared configurations -/

namespace ConfigLayer

/-- A buffer that has never held an address, or holds the canonical text of one. -/
def AddressBuffer (text : SwitchAddress.Text) : Prop :=
  text = Vector.replicate 18 0 ∨ ∃ address, text = addressText address

theorem addressBuffer_elim {text : SwitchAddress.Text} (h : AddressBuffer text)
    (address : Option SwitchAddress.Bytes) : AddressBuffer (address.elim text addressText) := by
  cases address with
  | none => exact h
  | some address => exact .inr ⟨address, rfl⟩

/-- What every source gives: a backlog that an `int` holds, and the one device there is. -/
structure Bounded (layer : ConfigLayer) : Prop where
  backlog : ∀ n ∈ layer.ipcBacklog, n < 2 ^ 31
  device : ∀ device ∈ layer.deviceInfo, device = DeviceInfo.swbtPro

theorem readProfile_some {raw : List UInt8} {device : DeviceInfo}
    (h : readProfile raw = some (some device)) : device = DeviceInfo.swbtPro := by
  unfold readProfile at h
  dsimp only at h
  split at h
  · cases h
  · split at h
    · exact (Option.some.inj (Option.some.inj h)).symm
    · cases h

theorem fileNumber_le {V : Type*} {lib : TomlLibrary V} {table : Option V} {key : List UInt8}
    {maximum n : Nat} (h : fileNumber lib table key maximum = some (some n)) : n ≤ maximum := by
  unfold fileNumber at h
  split at h
  · cases h
  · next value hvalue =>
    obtain ⟨i, -, hi⟩ := Option.bind_eq_some_iff.1 h
    split at hi
    · next hrange =>
      obtain rfl := Option.some.inj (Option.some.inj hi)
      omega
    · cases hi

theorem bounded_ofTables {V : Type*} {lib : TomlLibrary V} {tables : ConfigFile.Tables V}
    {layer : ConfigLayer} (h : ofTables lib tables = some layer) : layer.Bounded := by
  unfold ofTables at h
  simp only [Option.bind_eq_bind, Option.bind_eq_some_iff, Option.some.injEq] at h
  obtain ⟨period, -, port, -, host, -, backlog, hbacklog, timeout, -, device, hdevice, explicit, -,
    learned, -, rfl⟩ := h
  refine ⟨fun n hn => ?_, fun found hfound => ?_⟩
  · obtain rfl : backlog = some n := hn
    have hle := fileNumber_le hbacklog
    omega
  · obtain rfl : device = some (some found) := Option.join_eq_some_iff.1 hfound
    unfold fileText at hdevice
    split at hdevice
    · cases hdevice
    · next value hvalue =>
      obtain ⟨taken, htaken, hsome⟩ := Option.map_eq_some_iff.1 hdevice
      obtain ⟨raw, -, hread⟩ := Option.bind_eq_some_iff.1 htaken
      obtain rfl := Option.some.inj hsome
      exact readProfile_some hread

theorem bounded_ofEnv [Platform] {env : ConfigEnv} {layer : ConfigLayer}
    (h : ofEnv env = some layer) : layer.Bounded := by
  unfold ofEnv at h
  simp only [Option.bind_eq_bind, Option.bind_eq_some_iff, Option.some.injEq] at h
  obtain ⟨period, -, host, -, port, -, backlog, hbacklog, timeout, -, device, hdevice, rfl⟩ := h
  refine ⟨fun n hn => ?_, fun found hfound => ?_⟩
  · obtain ⟨i, rfl, rfl⟩ := Option.map_eq_some_iff.1 hn
    unfold variableNumber at hbacklog
    split at hbacklog
    · cases hbacklog
    · next value hvalue =>
      obtain ⟨taken, htaken, hsome⟩ := Option.map_eq_some_iff.1 hbacklog
      obtain rfl := Option.some.inj hsome
      unfold Config.parseInt at htaken
      split at htaken
      · cases htaken
      · next parsed hparsed =>
        split at htaken
        · cases htaken
        · next hle =>
          obtain rfl := Option.some.inj htaken
          rw [gt_iff_lt, UInt32.lt_iff_toNat_lt, Nat.not_lt] at hle
          have hmax : (0x7FFFFFFF : UInt32).toNat = 2 ^ 31 - 1 := by decide
          omega
  · obtain rfl : device = some found := hfound
    exact readProfile_some hdevice

end ConfigLayer

namespace Config

open ConfigLayer

/-- What a configuration that has been prepared for a launch is like. -/
structure Prepared (config : Config) : Prop where
  checked : ConfigFile.Checked config
  backlog : config.ipcBacklog < 2 ^ 31
  host_ne : ofArray config.ipcHost.toList ≠ []
  host_terminated : (ofArray config.ipcHost.toList).length ≤ 15
  explicit : AddressBuffer config.explicitSwitchAddress
  learned : AddressBuffer config.learnedSwitchAddress
  device : config.deviceInfo = DeviceInfo.swbtPro
  reportOptions : config.reportOptions = default.reportOptions

theorem prepared_default : Prepared default where
  checked := ⟨by decide, by decide⟩
  backlog := by decide
  host_ne := by decide
  host_terminated := by decide
  explicit := .inl rfl
  learned := .inl rfl
  device := rfl
  reportOptions := rfl

/-- A layer that passes the last check keeps a configuration prepared. -/
theorem Prepared.into {config next : Config} (h : config.Prepared) {layer : ConfigLayer}
    (hfits : layer.Fits) (hbounded : layer.Bounded) (hnext : lastChecked (layer.into config) = some next) :
    next.Prepared := by
  unfold lastChecked at hnext
  split at hnext
  · cases hnext
  next hcheck =>
  obtain rfl := Option.some.inj hnext
  rw [not_or, Int.not_le] at hcheck
  have hhost : ofArray (layer.into config).ipcHost.toList ≠ [] ∧
      (ofArray (layer.into config).ipcHost.toList).length ≤ 15 := by
    unfold ConfigLayer.into
    cases hlayer : layer.ipcHost with
    | none => exact ⟨h.host_ne, h.host_terminated⟩
    | some host =>
      obtain ⟨hne, hlength, hnul⟩ := hfits host hlayer
      dsimp only [Option.elim_some]
      rw [ofArray_hostBuffer config.ipcHost hnul hne hlength]
      exact ⟨hne, hlength⟩
  refine ⟨⟨hcheck.1, hcheck.2⟩, ?_, hhost.1, hhost.2, addressBuffer_elim h.explicit _,
    addressBuffer_elim h.learned _, ?_, h.reportOptions⟩
  · unfold ConfigLayer.into
    cases hlayer : layer.ipcBacklog with
    | none => exact h.backlog
    | some n =>
      have hn := hbounded.backlog n hlayer
      show (n : Int) < 2 ^ 31
      omega
  · unfold ConfigLayer.into
    cases hlayer : layer.deviceInfo with
    | none => exact h.device
    | some device => exact hbounded.device device hlayer

end Config

namespace LaunchConfig

open ConfigLayer

variable {V : Type*} {lib : TomlLibrary V}

theorem prepared_readConfig {configPath : Option (List UInt8)} {answers : ConfigFile.ReadAnswers V}
    {config : Config} (h : readConfig lib configPath answers = some config) : config.Prepared := by
  cases configPath with
  | none =>
    obtain rfl := Option.some.inj h
    exact Config.prepared_default
  | some path =>
    rw [readConfig_some] at h
    obtain ⟨root, -, h⟩ := Option.bind_eq_some_iff.1 h
    obtain ⟨layer, hlayer, hnext⟩ := Option.bind_eq_some_iff.1 h
    obtain ⟨tables, -, htables⟩ := Option.bind_eq_some_iff.1 hlayer
    exact Config.prepared_default.into (fits_ofTables htables) (bounded_ofTables htables) hnext

theorem prepared_applyEnvValues [Platform] {env : ConfigEnv} {config next : Config}
    (hconfig : config.Prepared) (h : Config.applyEnvValues env config = some next) :
    next.Prepared := by
  rw [applyEnvValues_eq] at h
  obtain ⟨layer, hlayer, hnext⟩ := Option.bind_eq_some_iff.1 h
  exact hconfig.into (fits_ofEnv hlayer) (bounded_ofEnv hlayer) hnext

theorem prepare_eq_some [Platform] {options : LaunchOptions} {env : ConfigEnv}
    {answers : ConfigFile.ReadAnswers V} {launch : LaunchConfig}
    (h : prepare lib options env answers = some launch) :
    launch = ⟨launch.config, options.linkKeyDbPath, options.hciDumpPath, options.adapterLocation,
      options.configPath⟩ ∧ launch.config.Prepared := by
  rw [prepare_eq] at h
  obtain ⟨config, hread, h⟩ := Option.bind_eq_some_iff.1 h
  obtain ⟨next, hnext, rfl⟩ := Option.map_eq_some_iff.1 h
  exact ⟨rfl, prepared_applyEnvValues (prepared_readConfig hread) hnext⟩

end LaunchConfig

/-! ## The printed configuration -/

namespace LaunchOptions

/-- The texts of the options. -/
def texts (options : LaunchOptions) : List (Option (List UInt8)) :=
  [options.configPath, options.linkKeyDbPath, options.tracePath, options.hciDumpPath,
    options.crashDumpPath, options.adapterLocation]

/-- Accepted arguments give no empty text, and an adapter location that can be parsed. -/
theorem texts_of_parse {argv : List (Option (List UInt8))} (hok : (parse argv).1 = .ok) :
    (∀ text ∈ (parse argv).2.texts, text ≠ some []) ∧
      ∀ location ∈ (parse argv).2.adapterLocation, adapterLocationIsValid location = true := by
  obtain ⟨settings, hspelled⟩ : ∃ settings, Spelled argv.tail settings := exists_spelled hok
  have htaken := taken_of_parse hspelled hok
  have hvalue : ∀ option, ∀ value ∈ Settings.lastValue option settings, Taken (option, value) :=
    fun option value hlast => htaken _ (Settings.mem_of_lastValue hlast)
  have hne : ∀ option, Settings.lastValue option settings ≠ some [] :=
    fun option hempty => (hvalue option [] hempty).1 rfl
  rw [parse_of_taken hspelled htaken]
  refine ⟨?_, fun location hlocation => (hvalue .adapterLocation location hlocation).2⟩
  unfold texts ofValues
  simp only [List.forall_mem_cons]
  exact ⟨hne _, hne _, hne _, hne _, hne _, hne _, List.forall_mem_nil _⟩

end LaunchOptions

namespace Cli

open ConfigLayer

/-- The lines of the command `config`. -/
def shown (options : LaunchOptions) (launch : LaunchConfig) : List (List UInt8 × List UInt8) :=
  [(bytes "backend", backendString options.backend),
    (bytes "config.path", valueOrNone options.configPath),
    (bytes "link_key_db.path", valueOrNone launch.linkKeyDbPath),
    (bytes "trace.path", valueOrNone options.tracePath),
    (bytes "hci_dump.path", valueOrNone launch.hciDumpPath),
    (bytes "crash_dump.path", valueOrNone options.crashDumpPath),
    (bytes "adapter_location", valueOrNone launch.adapterLocation),
    (bytes "runtime.report_period_us", printUnsigned launch.config.reportPeriodUs.toNat),
    (bytes "runtime.ipc.host", valueOrNone (some (ofArray launch.config.ipcHost.toList))),
    (bytes "runtime.ipc.port", printUnsigned launch.config.ipcPort.toNat),
    (bytes "runtime.ipc.backlog", printSigned launch.config.ipcBacklog),
    (bytes "runtime.ipc.heartbeat_timeout_ms",
      printUnsigned launch.config.ipcHeartbeatTimeoutMs.toNat),
    (bytes "active_reconnect.explicit_switch_address",
      valueOrNone (some (ofArray launch.config.explicitSwitchAddress.toList))),
    (bytes "active_reconnect.learned_switch_address",
      valueOrNone (some (ofArray launch.config.learnedSwitchAddress.toList))),
    (bytes "active_reconnect.effective_switch_address",
      valueOrNone (launch.config.effectiveReconnectSwitchAddress.map fun text =>
        ofArray text.toList))]

theorem newline_not_mem_printUnsigned (n : Nat) : 0x0A ∉ printUnsigned n := by
  obtain ⟨d, ds, hbytes, -⟩ := Written.printUnsigned_digits n
  rw [hbytes]
  intro hmem
  have hplain := plain_of_digit (digits_digitBytes (d :: ds) _ hmem)
  exact absurd hplain.1 (by decide)

end Cli

/-! ## The main function -/

namespace Launch

open UsbAdapterLocation (Build)

variable {V : Type*} {lib : TomlLibrary V}

/-- The launch that the arguments of a program prepare, with its options. -/
def launchOf [Platform] (lib : TomlLibrary V) (world : World V) (argv : List (Option (List UInt8))) :
    Option (LaunchOptions × LaunchConfig) :=
  let (result, options) := LaunchOptions.parse argv
  if result ≠ .ok then none
  else (LaunchConfig.prepare lib options world.env world.file).map fun launch => (options, launch)

/-- What the main function does with a launch. -/
def start (build : Build) (accepts : List UInt8 → Bool) (options : LaunchOptions)
    (launch : LaunchConfig) : Outcome :=
  match options.backend with
  | .production => productionEntrypoint build accepts launch
  | .noop => .noop launch.config

/-- The words of the commands are no options. -/
theorem parse_command (program : Option (List UInt8)) {word : List UInt8}
    (hword : word ∈ [bytes "help", bytes "--help", bytes "-h", bytes "adapters", bytes "config"])
    (rest : List (Option (List UInt8))) :
    (LaunchOptions.parse (program :: some word :: rest)).1 = .unknownOption := by
  have hturn : LaunchOptions.turn LaunchOptions.zero word rest = .stop .unknownOption := by
    simp only [List.mem_cons, List.not_mem_nil, or_false] at hword
    rcases hword with rfl | rfl | rfl | rfl | rfl
    · rfl
    · rfl
    · rfl
    · rfl
    · rfl
  rw [LaunchOptions.parse, List.tail_cons, LaunchOptions.parseLoop, hturn]

/-- Arguments that are parsed are no command. -/
theorem dispatch_of_parsed [Platform] {program : Option (List UInt8)}
    {args : List (Option (List UInt8))} (hok : (LaunchOptions.parse (program :: args)).1 = .ok)
    (ports : Option Cli.Ports) (answers : ConfigFile.ReadAnswers V) :
    Cli.dispatchWithPorts lib (program :: args) ports answers = none := by
  rcases args with _ | ⟨_ | word, rest⟩
  · rfl
  · rfl
  have hnot : word ∉ [bytes "help", bytes "--help", bytes "-h", bytes "adapters",
      bytes "config"] := by
    intro hword
    rw [parse_command program hword rest] at hok
    cases hok
  simp only [List.mem_cons, List.not_mem_nil, or_false, not_or] at hnot
  obtain ⟨hhelp, hlong, hshort, hadapters, hconfig⟩ := hnot
  unfold Cli.dispatchWithPorts Cli.isHelpCommand
  dsimp only
  rw [if_neg (by simp [hhelp, hlong, hshort]), if_neg (by simpa using hadapters),
    if_neg (by simpa using hconfig)]

theorem main_of_launch [Platform] {build : Build} {world : World V} {program : Option (List UInt8)}
    {args : List (Option (List UInt8))} {options : LaunchOptions} {launch : LaunchConfig}
    (h : launchOf lib world (program :: args) = some (options, launch)) :
    main lib build world (program :: args) =
      start build world.acceptsLocationPath options launch := by
  unfold launchOf at h
  dsimp only at h
  split at h
  · cases h
  · next hresult =>
    have hok : (LaunchOptions.parse (program :: args)).1 = .ok := not_not.1 hresult
    obtain ⟨found, hprepare, hpair⟩ := Option.map_eq_some_iff.1 h
    obtain ⟨rfl, rfl⟩ := Prod.mk.inj hpair
    unfold main
    dsimp only
    rw [dispatch_of_parsed hok]
    dsimp only
    rw [if_neg hresult, hprepare]
    rfl

/-- Arguments that prepare no launch end the program. -/
theorem main_of_no_launch [Platform] (build : Build) {world : World V}
    {program : Option (List UInt8)} {args : List (Option (List UInt8))}
    (h : launchOf lib world (program :: args) = none) :
    ∃ outcome, main lib build world (program :: args) = .exits outcome := by
  unfold main
  dsimp only
  cases Cli.dispatchWithPorts lib (program :: args)
      (some ⟨some (listAdapterLocations build world), some world.env⟩) world.file with
  | some outcome => exact ⟨outcome, rfl⟩
  | none =>
    unfold launchOf at h
    dsimp only at h ⊢
    split at h
    · next hresult =>
      rw [if_pos hresult]
      exact ⟨_, rfl⟩
    · next hresult =>
      rw [if_neg hresult, Option.map_eq_none_iff.1 h]
      exact ⟨_, rfl⟩

/-- What a program runs with. -/
structure Run where
  backend : LaunchOptions.Backend
  view : ConfigView
  linkKeyDbPath : Option (List UInt8)
  hciDumpPath : Option (List UInt8)
  learnedSwitchAddressTarget : Option (List UInt8)
  chosen : Option UsbAdapterLocation.Chosen

/-- What a program that goes on runs with; the backend that does nothing reads the settings only. -/
def Outcome.run : Outcome → Option Run
  | .exits _ => none
  | .production launch chosen =>
    some ⟨.production, launch.config.view, launch.linkKeyDbPath, launch.hciDumpPath,
      launch.learnedSwitchAddressTarget, chosen⟩
  | .noop config => some ⟨.noop, config.view, none, none, none, none⟩

theorem launchOf_eq_some [Platform] {world : World V} {argv : List (Option (List UInt8))}
    {options : LaunchOptions} {launch : LaunchConfig}
    (h : launchOf lib world argv = some (options, launch)) :
    (LaunchOptions.parse argv).1 = .ok ∧ options = (LaunchOptions.parse argv).2 ∧
      LaunchConfig.prepare lib options world.env world.file = some launch := by
  unfold launchOf at h
  dsimp only at h
  split at h
  · cases h
  · next hresult =>
    obtain ⟨found, hprepare, hpair⟩ := Option.map_eq_some_iff.1 h
    obtain ⟨rfl, rfl⟩ := Prod.mk.inj hpair
    exact ⟨not_not.1 hresult, rfl, hprepare⟩

end Launch

end Swbt
