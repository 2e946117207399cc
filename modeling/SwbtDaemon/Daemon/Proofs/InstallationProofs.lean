import SwbtDaemon.Daemon.Installation
import SwbtDaemon.Daemon.Proofs.ConfigFileProofs
import SwbtDaemon.Daemon.Proofs.LaunchProofs
import SwbtDaemon.Lib.Traces

/-!
# What a daemon remembers

The configuration of an installed daemon is that of its first start, except for the address that it
saved last: that one it still knows after it has been stopped and started again.
-/

namespace Swbt

open ConfigFile (SaveAnswers SavedFile withLearned)
open ConfigLayer (addressText)

/-! ## The packet that is saved -/

namespace Reconnect

variable {V : Type*} {lib : TomlLibrary V} {toml : TomlText V}

/-- The handler on the bytes of the file is the one on its value. -/
theorem packetHandlerFile_refines (session : Learning) (packetType : UInt8) (packet : List UInt8)
    (file : Option (List UInt8)) (answers : SaveAnswers) :
    ∃ output, (session.packetHandlerFile lib toml packetType packet file answers).map
        (fun saved => (saved.2.result, saved.2.config)) =
      (session.packetHandler lib packetType packet (answers.read toml file)
        (answers.write output)).map fun saved => (saved.result, saved.config) := by
  unfold Learning.packetHandlerFile Learning.packetHandler Learning.maybeSaveLearnedAddress
    saveLearnedAddress
  by_cases hregistered : (!session.registered) = true
  · rw [if_pos hregistered]
    exact ⟨none, by rw [if_pos hregistered]; rfl⟩
  rw [if_neg hregistered]
  simp only [if_neg hregistered]
  obtain ⟨result, event⟩ := HidEvent.decode packetType packet
  cases result with
  | ignored => exact ⟨none, rfl⟩
  | ok =>
    dsimp only
    by_cases hopened : event.type = .connectionOpened ∧ event.status = 0 ∧
        session.reportTimerReady = true
    swap
    · rw [if_neg hopened]
      exact ⟨none, by rw [if_neg hopened]; rfl⟩
    rw [if_pos hopened]
    simp only [if_pos hopened]
    cases session.target with
    | none => exact ⟨none, rfl⟩
    | some path =>
      simp only [Option.bind_some]
      by_cases hpath : path = []
      · rw [if_pos hpath]
        exact ⟨none, by rw [if_pos hpath]; rfl⟩
      · rw [if_neg hpath]
        obtain ⟨output, hresult, hconfig⟩ := @ConfigFile.saveFile_refines _ lib toml session.config
          path (SwitchAddress.formatBytes event.address (Vector.replicate 18 0)).toList file answers
        refine ⟨output, ?_⟩
        rw [if_neg hpath, Option.map_some, Option.map_some, hresult, hconfig]

/-- What is saved is the address of the packet, to the path of the session. -/
theorem packetHandlerFile_some {session : Learning} {packetType : UInt8} {packet : List UInt8}
    {file : Option (List UInt8)} {answers : SaveAnswers} {address : SwitchAddress.Bytes}
    {saved : SavedFile}
    (h : session.packetHandlerFile lib toml packetType packet file answers =
      some (address, saved)) :
    address = (HidEvent.decode packetType packet).2.address ∧
      ∃ path, session.target = some path ∧
        saved = ConfigFile.saveFile lib toml session.config path (addressText address).toList file
          answers := by
  unfold Learning.packetHandlerFile at h
  split at h
  · cases h
  · split at h
    · next event hdecode =>
      split at h
      · obtain ⟨path, hpath, h⟩ := Option.bind_eq_some_iff.1 h
        split at h
        · cases h
        · obtain ⟨rfl, rfl⟩ := Prod.mk.inj (Option.some.inj h)
          exact ⟨by rw [hdecode], path, hpath, rfl⟩
      · cases h
    · cases h

end Reconnect

namespace Installation

variable {V : Type*} {lib : TomlLibrary V} {toml : TomlText V} {installation : Installation}

/-! ## Saving and starting again -/

/-- The save of a packet is not cut short: once it has started to write its text, it writes all of
it and closes the file. -/
def Whole (lib : TomlLibrary V) (toml : TomlText V) (s : State) : Event → Prop
  | .packet packetType packet _ _ answers =>
    ∀ launch ∈ s.running, ∀ path ∈ launch.learnedSwitchAddressTarget, ∀ parsed value output,
      ConfigFile.Reaches lib toml launch.config path
        (addressText (HidEvent.decode packetType packet).2.address).toList s.file answers parsed
        value output → ConfigFile.Complete answers output
  | _ => True

/-- A save that is not cut short changes nothing, or the learned address of the configuration and of
what the file gives. -/
theorem saveFile_whole (config : Config) (path : List UInt8) (address : SwitchAddress.Bytes)
    (file : Option (List UInt8)) {answers : SaveAnswers}
    (hwhole : ∀ parsed value output, ConfigFile.Reaches lib toml config path
      (addressText address).toList file answers parsed value output →
        ConfigFile.Complete answers output) :
    let saved := ConfigFile.saveFile lib toml config path (addressText address).toList file answers
    ConfigFile.Refused saved config file ∨
      saved.result = .ok ∧
        ConfigFile.Preserves lib toml config path (addressText address).toList file saved
          (addressText address) := by
  intro saved
  rcases ConfigFile.saveFile_cases lib toml config path (addressText address).toList file answers
    with hrefused | ⟨parsed, value, output, hreaches⟩
  · exact .inl hrefused
  right
  have hnormal : ConfigFile.NormalForm (addressText address).toList (addressText address) := by
    have hspelled := ConfigLayer.spelled_addressText address
    exact ⟨fun dest => SwitchAddress.normalize_of_spelled hspelled dest _,
      fun dest => SwitchAddress.normalize_of_spelled hspelled.ofArray dest _⟩
  have hcomplete := hwhole parsed value output hreaches
  have hsaved : saved = ⟨.ok, withLearned config (addressText address), some output⟩ := by
    rw [show saved = _ from hreaches.saveFile_eq, if_pos hcomplete, hnormal.set]
  rw [hsaved]
  exact ⟨rfl, hreaches.preserves hnormal⟩

theorem into_withLearned {layer : ConfigLayer} (h : layer.learnedSwitchAddress = none)
    (config : Config) (text : SwitchAddress.Text) :
    layer.into (withLearned config text) = withLearned (layer.into config) text := by
  unfold ConfigLayer.into withLearned
  rw [h]
  rfl

/-- The environment leaves a learned address alone. -/
theorem applyEnvValues_withLearned [Platform] (env : ConfigEnv) (config : Config)
    (text : SwitchAddress.Text) :
    Config.applyEnvValues env (withLearned config text) =
      (Config.applyEnvValues env config).map fun next => withLearned next text := by
  rw [ConfigLayer.applyEnvValues_eq, ConfigLayer.applyEnvValues_eq]
  cases hlayer : ConfigLayer.ofEnv env with
  | none => rfl
  | some layer =>
    have hlearned : layer.learnedSwitchAddress = none := by
      unfold ConfigLayer.ofEnv at hlayer
      simp only [Option.bind_eq_bind, Option.bind_eq_some_iff, Option.some.injEq] at hlayer
      obtain ⟨period, -, host, -, port, -, backlog, -, timeout, -, device, -, rfl⟩ := hlayer
      rfl
    rw [Option.bind_some, Option.bind_some, into_withLearned hlearned]
    unfold ConfigLayer.lastChecked
    by_cases hcheck : (layer.into config).reportPeriodUs = 0 ∨ (layer.into config).ipcBacklog ≤ 0
    · rw [if_pos hcheck]
      exact if_pos hcheck
    · rw [if_neg hcheck]
      exact if_neg hcheck

/-- The launch with another learned address. -/
def relearn (launch : LaunchConfig) (address : SwitchAddress.Bytes) : LaunchConfig :=
  { launch with config := withLearned launch.config (addressText address) }

/-- The launch of a file that can be read is that of what the file gives. -/
theorem launch_of_path [Platform] {path : List UInt8}
    (hpath : installation.options.configPath = some path) (file : Option (List UInt8)) :
    installation.launch lib toml true file =
      (if (ConfigFile.loadFile lib toml Config.default path true file).1 ≠ .ok then none
        else some (ConfigFile.loadFile lib toml Config.default path true file).2).bind
        fun config => (Config.applyEnvValues installation.env config).map fun config =>
          ⟨config, installation.options.linkKeyDbPath, installation.options.hciDumpPath,
            installation.options.adapterLocation, some path⟩ := by
  unfold launch
  rw [LaunchConfig.prepare_eq, hpath]
  rfl

/-- A save changes the next launch in the learned address only. -/
theorem launch_saved [Platform] {path : List UInt8}
    (hpath : installation.options.configPath = some path) {config : Config}
    {address : SwitchAddress.Bytes} {file : Option (List UInt8)} {saved : SavedFile}
    {launch : LaunchConfig} (hlaunch : installation.launch lib toml true file = some launch)
    (hsaved : ConfigFile.Preserves lib toml config path (addressText address).toList file saved
      (addressText address)) :
    installation.launch lib toml true saved.file = some (relearn launch address) := by
  rw [launch_of_path hpath] at hlaunch ⊢
  obtain ⟨read, hread, hlaunch⟩ := Option.bind_eq_some_iff.1 hlaunch
  obtain ⟨applied, happlied, rfl⟩ := Option.map_eq_some_iff.1 hlaunch
  split at hread
  · cases hread
  next hok =>
  rw [not_not] at hok
  have hfile : file ≠ none := by
    rintro rfl
    unfold ConfigFile.loadFile ConfigFile.applyFile at hok
    split at hok
    · cases hok
    · cases hok
  obtain ⟨next, hloads, hloads'⟩ := hsaved.loads Config.default Config.prepared_default.checked
  have hbefore := hloads true fun hnone => absurd hnone hfile
  obtain rfl : next = read := by
    rw [hbefore] at hread
    exact Option.some.inj hread
  rw [hloads' true]
  simp only [ne_eq, not_true_eq_false, if_false, Option.bind_some]
  rw [applyEnvValues_withLearned, happlied]
  rfl

/-- A start that succeeds has read the file. -/
theorem launch_of_start [Platform] {readable : Bool} {file : Option (List UInt8)}
    {launch : LaunchConfig} (h : installation.launch lib toml readable file = some launch) :
    installation.launch lib toml true file = some launch := by
  cases readable with
  | true => exact h
  | false =>
    unfold Installation.launch at h ⊢
    rw [LaunchConfig.prepare_eq] at h ⊢
    cases hpath : installation.options.configPath with
    | none =>
      rw [hpath] at h
      exact h
    | some path =>
      rw [hpath] at h
      obtain ⟨config, hread, -⟩ := Option.bind_eq_some_iff.1 h
      rw [LaunchConfig.readConfig_some] at hread
      obtain ⟨root, hroot, -⟩ := Option.bind_eq_some_iff.1 hread
      unfold ConfigFile.ReadAnswers.document at hroot
      split at hroot
      · cases hroot
      · cases hroot

/-- The launch after the addresses that have been learned. -/
def remember (first : LaunchConfig) (addresses : List SwitchAddress.Bytes) : LaunchConfig :=
  addresses.getLast?.elim first (relearn first)

/-- Only the last address that is learned counts. -/
theorem relearn_relearn (launch : LaunchConfig) (address address' : SwitchAddress.Bytes) :
    relearn (relearn launch address) address' = relearn launch address' := by
  unfold relearn withLearned
  dsimp only

theorem relearn_remember (first : LaunchConfig) (addresses : List SwitchAddress.Bytes)
    (address : SwitchAddress.Bytes) :
    relearn (remember first addresses) address = remember first (addresses ++ [address]) := by
  unfold remember
  rw [List.getLast?_concat]
  cases addresses.getLast? with
  | none => rfl
  | some last => exact relearn_relearn first last address

/-- The daemon that runs and the next one that is started both remember the addresses. -/
structure Remembers [Platform] (lib : TomlLibrary V) (toml : TomlText V)
    (installation : Installation) (first : LaunchConfig) (s : State)
    (addresses : List SwitchAddress.Bytes) : Prop where
  next : installation.launch lib toml true s.file = some (remember first addresses)
  running : ∀ launch ∈ s.running, launch = remember first addresses

theorem step_remembers [Platform] {first : LaunchConfig} (s : State)
    (addresses : List SwitchAddress.Bytes) (event : Event) (hwhole : Whole lib toml s event)
    (h : Remembers lib toml installation first s addresses) :
    Remembers lib toml installation first (installation.step lib toml s event)
      (addresses ++ learned lib toml s event) := by
  cases event with
  | start readable =>
    rw [show learned lib toml s (.start readable) = [] from rfl, List.append_nil]
    unfold step
    dsimp only
    cases hrunning : s.running with
    | some launch => exact h
    | none =>
      refine ⟨h.next, fun launch hlaunch => ?_⟩
      have hnext := launch_of_start hlaunch
      rw [h.next] at hnext
      exact (Option.some.inj hnext).symm
  | stop =>
    rw [show learned lib toml s .stop = [] from rfl, List.append_nil]
    exact ⟨h.next, fun launch hlaunch => by cases hlaunch⟩
  | packet packetType packet registered reportTimerReady answers =>
    unfold step learned
    dsimp only
    cases hsaved : saved lib toml s
        (.packet packetType packet registered reportTimerReady answers) with
    | none =>
      dsimp only
      rw [List.append_nil]
      exact h
    | some found =>
      obtain ⟨address, file⟩ := found
      dsimp only
      obtain ⟨launch, hrunning, hhandler⟩ := Option.bind_eq_some_iff.1 hsaved
      obtain ⟨rfl, path, htarget, rfl⟩ := Reconnect.packetHandlerFile_some hhandler
      obtain rfl := h.running launch hrunning
      have hpath : installation.options.configPath = some path := by
        obtain ⟨hpaths, -⟩ := LaunchConfig.prepare_eq_some h.next
        have htarget' : (remember first addresses).learnedSwitchAddressTarget = some path := htarget
        rw [hpaths] at htarget'
        exact htarget'
      rw [hrunning]
      rcases saveFile_whole (remember first addresses).config path _ s.file
        (hwhole _ hrunning path htarget) with hrefused | ⟨hresult, hpreserves⟩
      · rw [if_neg hrefused.result, List.append_nil]
        refine ⟨?_, fun launch hlaunch => ?_⟩
        · rw [hrefused.file]
          exact h.next
        · obtain rfl := Option.some.inj hlaunch
          rw [hrefused.config]
      · rw [if_pos hresult]
        refine ⟨?_, fun launch hlaunch => ?_⟩
        · rw [← relearn_remember]
          exact launch_saved hpath h.next hpreserves
        · obtain rfl := Option.some.inj hlaunch
          rw [hpreserves.config, ← relearn_remember]
          rfl

/-! ## The console that a start reconnects to -/

theorem parseBytes_of_address {text : SwitchAddress.Text} {address : SwitchAddress.Bytes}
    (h : text.address = some address) :
    SwitchAddress.parseBytes text.toList (Vector.replicate 6 0) = (true, address) := by
  unfold SwitchAddress.Text.address at h
  generalize SwitchAddress.parseBytes text.toList (Vector.replicate 6 0) = parsed at h ⊢
  obtain ⟨ok, found⟩ := parsed
  cases ok with
  | false => cases h
  | true => exact congrArg (Prod.mk true) (Option.some.inj h)

/-- A buffer is empty, or starts with a digit of its address. -/
theorem buffer_cases {text : SwitchAddress.Text} (h : ConfigLayer.AddressBuffer text) :
    (SwitchAddress.charAt text.toList 0 = 0 ∧ text.address = none) ∨
      (SwitchAddress.charAt text.toList 0 ≠ 0 ∧ ∃ address, text.address = some address) := by
  rcases h with rfl | ⟨address, rfl⟩
  · exact .inl ⟨by decide, by decide +kernel⟩
  · have hspelled := ConfigLayer.spelled_addressText address
    exact .inr ⟨hspelled.charAt_ne_zero (show 0 < 17 by decide), address,
      ConfigLayer.address_addressText address⟩

/-- A prepared configuration asks for its explicit address, for its learned one, or for none: its
request is never invalid. -/
theorem buildRequest_of_prepared {config : Config} (h : config.Prepared) :
    Reconnect.buildRequest config =
      (config.view.explicitSwitchAddress.or config.view.learnedSwitchAddress).elim .none
        fun address => .ready ⟨address, Reconnect.hidControlPsm, Reconnect.hidInterruptPsm⟩ := by
  unfold Reconnect.buildRequest Config.effectiveReconnectSwitchAddress Config.view
  dsimp only
  have hexplicit := buffer_cases h.explicit
  have hlearned := buffer_cases h.learned
  rw [SwitchAddress.charAt_toList _ (by decide)] at hexplicit hlearned
  rcases hexplicit with ⟨hzero, hnone⟩ | ⟨hfirst, address, haddress⟩
  · rw [if_neg (not_not.2 hzero), hnone, Option.none_or]
    rcases hlearned with ⟨hzero', hnone'⟩ | ⟨hfirst', address', haddress'⟩
    · rw [if_neg (not_not.2 hzero'), hnone']
      rfl
    · rw [if_pos hfirst', haddress']
      dsimp only
      rw [parseBytes_of_address haddress']
      rfl
  · rw [if_pos hfirst, haddress]
    dsimp only
    rw [parseBytes_of_address haddress]
    rfl

theorem prepared_withLearned {config : Config} (h : config.Prepared)
    {text : SwitchAddress.Text} (htext : ConfigLayer.AddressBuffer text) :
    (withLearned config text).Prepared :=
  ⟨⟨h.checked.reportPeriodUs, h.checked.ipcBacklog⟩, h.backlog, h.host_ne, h.host_terminated,
    h.explicit, htext, h.device, h.reportOptions⟩

theorem prepared_remember {first : LaunchConfig} (h : first.config.Prepared)
    (addresses : List SwitchAddress.Bytes) : (remember first addresses).config.Prepared := by
  unfold remember
  cases addresses.getLast? with
  | none => exact h
  | some address => exact prepared_withLearned h (.inr ⟨address, rfl⟩)

theorem view_remember (first : LaunchConfig) (addresses : List SwitchAddress.Bytes) :
    (remember first addresses).config.view =
      { first.config.view with
        learnedSwitchAddress := addresses.getLast?.or first.config.view.learnedSwitchAddress } := by
  unfold remember
  cases addresses.getLast? with
  | none => rw [Option.elim_none, Option.none_or]
  | some address =>
    unfold relearn withLearned Config.view
    simp only [Option.elim_some, ConfigLayer.address_addressText, Option.some_or]

/-- **What is learned survives a restart.** Over every run of starts, stops and packets in which no
save is cut short while it writes, the daemon that runs and the one that is started next have the
launch of the first start with the address in it that was saved last: the next reconnect is to the
console of the explicit address, else to that of the last saved one. -/
theorem learned_address_survives [Platform] {file : Option (List UInt8)} {first : LaunchConfig}
    (hfirst : installation.launch lib toml true file = some first) {events : List Event}
    (hwhole : Runs.AllSteps (installation.step lib toml) (Whole lib toml) ⟨file, none⟩ events) :
    let s := Runs.run (installation.step lib toml) ⟨file, none⟩ events
    let addresses := Runs.emitted (installation.step lib toml) (learned lib toml) ⟨file, none⟩ events
    (∀ launch ∈ s.running, launch = remember first addresses) ∧
      installation.launch lib toml true s.file = some (remember first addresses) ∧
      Reconnect.buildRequest (remember first addresses).config =
        (first.config.view.explicitSwitchAddress.or
          (addresses.getLast?.or first.config.view.learnedSwitchAddress)).elim .none
          fun address => .ready ⟨address, Reconnect.hidControlPsm, Reconnect.hidInterruptPsm⟩ := by
  intro s addresses
  have hstart : Remembers lib toml installation first ⟨file, none⟩ [] :=
    ⟨hfirst, fun launch hlaunch => by cases hlaunch⟩
  have hremembers : Remembers lib toml installation first s addresses :=
    Runs.run_emitted_invariant_of_allSteps (R := Remembers lib toml installation first)
      (fun s addresses event => step_remembers s addresses event) hstart hwhole
  have hprepared := (LaunchConfig.prepare_eq_some hfirst).2
  refine ⟨hremembers.running, hremembers.next, ?_⟩
  rw [buildRequest_of_prepared (prepared_remember hprepared addresses), view_remember]

/-- An installation with its settings in a file. -/
def periodInstallation : Installation :=
  ⟨{ LaunchOptions.zero with configPath := some (CString.bytes "config.toml") }, ConfigEnv.empty⟩

/-- The packet of a console that connects. -/
def openedPacket : List UInt8 :=
  [0xEF, 13, 0x02, 0x42, 0x00, 0x00, 0xAB, 0x89, 0x67, 0x45, 0x23, 0x01, 0x34, 0x12, 1]

/-- A daemon learns the address of a console and is started again. -/
def restartEvents : List Event :=
  [.start true, .packet 0x04 openedPacket true true ⟨true, true, true, true, 200, true, 0⟩, .stop,
    .start true]

/-- The text that a save writes when it does. -/
def saveText (lib : TomlLibrary V) (toml : TomlText V) (config : Config)
    (path address : List UInt8) (file : Option (List UInt8)) (answers : SaveAnswers) :
    Option (List UInt8) :=
  (ConfigFile.loadOrEmpty lib path (answers.read toml file)).toOption.bind fun parsed =>
    (ConfigFile.withLearnedSwitchAddress lib parsed (CString.ofArray
      (config.setLearnedSwitchAddress address).2.learnedSwitchAddress.toList)).bind toml.format

theorem saveText_of_reaches {config : Config} {path address : List UInt8}
    {file : Option (List UInt8)} {answers : SaveAnswers} {parsed value : V} {output : List UInt8}
    (h : ConfigFile.Reaches lib toml config path address file answers parsed value output) :
    saveText lib toml config path address file answers = some output := by
  rw [saveText, h.loaded]
  show (ConfigFile.withLearnedSwitchAddress lib parsed _).bind toml.format = some output
  rw [h.edited, Option.bind_some, h.formatted]

theorem whole_restartEvents :
    Runs.AllSteps (@periodInstallation.step _ TomlTree.library ConfigFile.totalToml .lp64)
      (Whole TomlTree.library ConfigFile.totalToml) ⟨some ConfigFile.periodText, none⟩
      restartEvents := by
  refine ⟨trivial, ?_, trivial, trivial, trivial⟩
  intro launch hlaunch path hpath parsed value output hreaches
  have hfits : ((@periodInstallation.launch _ TomlTree.library ConfigFile.totalToml .lp64 true
      (some ConfigFile.periodText)).all fun launch =>
        launch.learnedSwitchAddressTarget.all fun path =>
          (saveText TomlTree.library ConfigFile.totalToml launch.config path
            (addressText (HidEvent.decode 0x04 openedPacket).2.address).toList
            (some ConfigFile.periodText) ⟨true, true, true, true, 200, true, 0⟩).all fun output =>
              decide (output.length ≤ 200)) = true := by
    decide +kernel
  have hstarted : @periodInstallation.launch _ TomlTree.library ConfigFile.totalToml .lp64 true
      (some ConfigFile.periodText) = some launch := hlaunch
  have htext : saveText TomlTree.library ConfigFile.totalToml launch.config path
      (addressText (HidEvent.decode 0x04 openedPacket).2.address).toList
      (some ConfigFile.periodText) ⟨true, true, true, true, 200, true, 0⟩ = some output :=
    saveText_of_reaches hreaches
  rw [hstarted, Option.all_some, Option.mem_def.1 hpath, Option.all_some, htext,
    Option.all_some] at hfits
  exact ⟨of_decide_eq_true hfits, rfl⟩

theorem restarted_daemon_reconnects :
    ∃ launch, (Runs.run (@periodInstallation.step _ TomlTree.library ConfigFile.totalToml .lp64)
        ⟨some ConfigFile.periodText, none⟩ restartEvents).running = some launch ∧
      Reconnect.buildRequest launch.config =
        .ready ⟨#v[0x01, 0x23, 0x45, 0x67, 0x89, 0xAB], 0x11, 0x13⟩ := by
  have hfirst : (@periodInstallation.launch _ TomlTree.library ConfigFile.totalToml .lp64 true
      (some ConfigFile.periodText)).isSome = true := by
    decide +kernel
  obtain ⟨first, hfirst⟩ := Option.isSome_iff_exists.1 hfirst
  obtain ⟨hrunning, -, hrequest⟩ := @learned_address_survives _ TomlTree.library
    ConfigFile.totalToml periodInstallation .lp64 _ first hfirst restartEvents whole_restartEvents
  have hsome : (Runs.run (@periodInstallation.step _ TomlTree.library ConfigFile.totalToml .lp64)
      ⟨some ConfigFile.periodText, none⟩ restartEvents).running.isSome = true := by
    decide +kernel
  have hlearned : Runs.emitted
      (@periodInstallation.step _ TomlTree.library ConfigFile.totalToml .lp64)
      (learned TomlTree.library ConfigFile.totalToml) ⟨some ConfigFile.periodText, none⟩
      restartEvents = [#v[0x01, 0x23, 0x45, 0x67, 0x89, 0xAB]] := by
    decide +kernel
  have hexplicit : ((@periodInstallation.launch _ TomlTree.library ConfigFile.totalToml .lp64 true
      (some ConfigFile.periodText)).bind fun launch => launch.config.view.explicitSwitchAddress) =
        none := by
    decide +kernel
  rw [hfirst, Option.bind_some] at hexplicit
  obtain ⟨launch, hlaunch⟩ := Option.isSome_iff_exists.1 hsome
  rw [hlearned] at hrunning hrequest
  rw [hexplicit] at hrequest
  refine ⟨launch, hlaunch, ?_⟩
  rw [hrunning launch hlaunch, hrequest]
  rfl

end Installation

end Swbt
