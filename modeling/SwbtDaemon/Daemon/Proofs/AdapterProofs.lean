import SwbtDaemon.Bridge.Proofs.UsbAdapterLocationProofs
import SwbtDaemon.Daemon.Proofs.LaunchProofs
import SwbtDaemon.Lib.Hex

/-!
# Choosing an adapter

The command `adapters` prints a line for each Bluetooth adapter of the host. The first word of a line
is a selector, and a launch with that selector tells the transport the bus and the ports of the very
adapter.
-/

namespace Swbt

open CString

namespace UsbAdapterLocation

/-! ## The lines of the inventory -/

/-- The ports that libusb has written. -/
def Device.portNumbers (device : Device) : List UInt8 :=
  device.ports.toList.take device.portCount.toNat

/-- The descriptor of a device that is listed. -/
def Device.candidate (device : Device) : Option DeviceDescriptor :=
  device.descriptor.filter fun descriptor =>
    isBluetoothDevice descriptor && decide (0 < device.portCount) &&
      decide (device.portCount ≤ usbAdapterLocationMaxPorts)

/-- The line of a device that is listed. -/
def Device.line (device : Device) : Option (List UInt8) :=
  device.candidate.map fun descriptor => writeSelector device.bus descriptor device.portNumbers

theorem listDevice_eq (listing : Listing) (device : Device) :
    listDevice listing device =
      ⟨listing.out ++ device.line.getD [], listing.candidateCount + device.line.toList.length⟩ := by
  unfold listDevice Device.line Device.candidate
  cases device.descriptor with
  | none => simp
  | some descriptor =>
    dsimp only
    cases hbluetooth : isBluetoothDevice descriptor with
    | false =>
      rw [if_pos (by simp), Option.filter_some_neg (by simp [hbluetooth])]
      simp
    | true =>
      by_cases hcount : device.portCount ≤ 0 ∨ device.portCount > usbAdapterLocationMaxPorts
      · have hnot : ¬ (0 < device.portCount ∧ device.portCount ≤ usbAdapterLocationMaxPorts) := by
          omega
        rw [if_neg (by simp), if_pos hcount, Option.filter_some_neg]
        · simp
        · simpa [hbluetooth] using hnot
      · rw [not_or, Int.not_le, gt_iff_lt, Int.not_lt] at hcount
        rw [if_neg (by simp), if_neg (by omega), Option.filter_some_pos]
        · rfl
        · simpa [hbluetooth] using hcount

/-- The loop prints the lines of the devices that are listed, in their order. -/
theorem foldl_listDevice (devices : List Device) (listing : Listing) :
    devices.foldl listDevice listing =
      ⟨listing.out ++ (devices.filterMap Device.line).flatten,
        listing.candidateCount + (devices.filterMap Device.line).length⟩ := by
  induction devices generalizing listing with
  | nil => simp
  | cons device devices ih =>
    rw [List.foldl_cons, ih, listDevice_eq]
    cases hline : device.line with
    | none => simp [hline]
    | some line =>
      simp only [Option.getD_some, Option.toList_some, List.length_cons, List.length_nil,
        List.append_assoc, List.filterMap_cons_some hline, List.flatten_cons, Listing.mk.injEq,
        true_and]
      omega

theorem hexDigit_ne_newline (n : Nat) : hexDigit (n % 16) ≠ 0x0A := by
  intro hnewline
  have hdigit := digitOf_hexDigit ⟨n % 16, Nat.mod_lt _ (by decide)⟩
  rw [hnewline] at hdigit
  exact absurd hdigit (by rw [show digitOf 16 0x0A = none by decide]; simp)

theorem newline_not_mem_writeUint (n : Nat) : 0x0A ∉ writeUint n :=
  Cli.newline_not_mem_printUnsigned n

theorem newline_not_mem_writePorts (ports : List UInt8) : 0x0A ∉ writePorts ports := by
  unfold writePorts
  intro hmem
  obtain ⟨entry, -, hentry⟩ := List.mem_flatMap.1 hmem
  rcases List.mem_append.1 hentry with hdot | hport
  · split at hdot
    · exact absurd hdot (by decide)
    · cases hdot
  · exact newline_not_mem_writeUint _ hport

theorem newline_not_mem_writeHex16 (n : Nat) : 0x0A ∉ writeHex16 n := by
  unfold writeHex16
  have hmark : 0x0A ∉ bytes "0x" := by decide
  simp only [List.mem_append, List.mem_cons, List.not_mem_nil, or_false, not_or]
  exact ⟨hmark, (hexDigit_ne_newline _).symm, (hexDigit_ne_newline _).symm, (hexDigit_ne_newline _).symm,
    (hexDigit_ne_newline _).symm⟩

theorem newline_not_mem_writeHex8 (n : Nat) : 0x0A ∉ writeHex8 n := by
  unfold writeHex8
  have hmark : 0x0A ∉ bytes "0x" := by decide
  simp only [List.mem_append, List.mem_cons, List.not_mem_nil, or_false, not_or]
  exact ⟨hmark, (hexDigit_ne_newline _).symm, (hexDigit_ne_newline _).symm⟩

/-- A selector is printed on a line of its own. -/
theorem isLine_writeSelector (bus : UInt8) (descriptor : DeviceDescriptor) (ports : List UInt8) :
    Lines.IsLine 0x0A (writeSelector bus descriptor ports) := by
  have hwords : ∀ word ∈ [bytes "libusb:", bytes " vid=", bytes " pid=", bytes " class=",
      bytes " subclass=", bytes " protocol="], 0x0A ∉ word := by
    decide
  simp only [List.forall_mem_cons] at hwords
  obtain ⟨hkind, hvid, hpid, hclass, hsubclass, hprotocol, -⟩ := hwords
  unfold writeSelector writeDescriptor
  refine ⟨_, (List.append_assoc _ _ _).symm, ?_⟩
  simp only [List.mem_append, List.mem_singleton, not_or]
  exact ⟨⟨⟨⟨hkind, newline_not_mem_writeUint _⟩, by decide⟩, newline_not_mem_writePorts _⟩,
    ⟨⟨⟨⟨⟨⟨⟨⟨⟨hvid, newline_not_mem_writeHex16 _⟩, hpid⟩, newline_not_mem_writeHex16 _⟩, hclass⟩,
      newline_not_mem_writeHex8 _⟩, hsubclass⟩, newline_not_mem_writeHex8 _⟩, hprotocol⟩,
      newline_not_mem_writeHex8 _⟩⟩

/-- The lines of a listing are those of the devices that are listed, in their order. -/
theorem completeLines_list {devices : List Device} (hsome : devices.filterMap Device.line ≠ []) :
    Lines.completeLines 0x0A (listLibusbAdapterLocations (.devices devices)).out =
      devices.filterMap Device.line := by
  have hlines : ∀ line ∈ devices.filterMap Device.line, Lines.IsLine 0x0A line := by
    intro line hline
    obtain ⟨device, -, hdevice⟩ := List.mem_filterMap.1 hline
    obtain ⟨descriptor, -, rfl⟩ := Option.map_eq_some_iff.1 hdevice
    exact isLine_writeSelector _ _ _
  have hcomplete := Lines.completeLines_flatten_append hlines []
  rw [List.append_nil, Lines.completeLines_of_not_mem List.not_mem_nil, List.append_nil] at hcomplete
  have hcount : (devices.filterMap Device.line).length ≠ 0 := by
    simpa [List.length_eq_zero_iff] using hsome
  unfold listLibusbAdapterLocations
  dsimp only
  rw [foldl_listDevice]
  dsimp only
  rw [if_neg (by omega), List.nil_append, hcomplete]

/-! ## The adapter of a launch -/

/-- The bus and the ports of a device are numbers that libusb gives, which start at 1. -/
def Device.Numbered (device : Device) : Prop :=
  device.bus ≠ 0 ∧ ∀ port ∈ device.portNumbers, port ≠ 0

/-- The first word of the line of a device selects that device. -/
theorem configure_of_line {device : Device} (hnumbered : device.Numbered) {line : List UInt8}
    (hline : device.line = some line) (accepts : List UInt8 → Bool) :
    LaunchOptions.adapterLocationIsValid (line.takeWhile (· ≠ 0x20)) = true ∧
      configureAdapterLocation .libusb accepts (line.takeWhile (· ≠ 0x20)) =
        some (.busAndPath device.bus device.portNumbers) := by
  obtain ⟨descriptor, hcandidate, rfl⟩ := Option.map_eq_some_iff.1 hline
  obtain ⟨-, hlisted⟩ := Option.filter_eq_some_iff.1 hcandidate
  simp only [Bool.and_eq_true, decide_eq_true_eq] at hlisted
  obtain ⟨⟨-, hpos⟩, hmax⟩ := hlisted
  have hmax' : device.portCount ≤ 7 := hmax
  have hlength : device.portNumbers.length = device.portCount.toNat := by
    unfold Device.portNumbers
    rw [List.length_take, Vector.length_toList, Nat.min_eq_left]
    show device.portCount.toNat ≤ 7
    omega
  have hne : device.portNumbers ≠ [] := List.ne_nil_of_length_pos (by omega)
  have hle : device.portNumbers.length ≤ usbAdapterLocationMaxPorts := by
    show device.portNumbers.length ≤ 7
    omega
  obtain ⟨text, hword, htext⟩ :=
    writeSelector_takeWhile hnumbered.1 descriptor hne hnumbered.2 hle
  have hparse : parse (bytes "libusb:" ++ text) = (.ok, ofLibusb device.bus device.portNumbers) := by
    rw [parse_libusb, parseLibusb_libusbText htext]
  have hselects := selects_ofLibusb device.bus hle
  rw [hword]
  constructor
  · unfold LaunchOptions.adapterLocationIsValid
    rw [hparse]
    rfl
  · unfold configureAdapterLocation
    rw [if_neg (by simp [bytes]), hparse]
    dsimp only [Build.port]
    rw [if_neg (by simp)]
    unfold apply
    rw [hselects.backend]
    dsimp only
    rw [if_neg (by rw [hselects.portCount]; simp [hne]; exact hle), hselects.bus, hselects.ports]

end UsbAdapterLocation

namespace LaunchOptions

/-- One more setting of the adapter location. -/
theorem parse_append_adapterLocation {program : Option (List UInt8)}
    {args : List (Option (List UInt8))} (hok : (parse (program :: args)).1 = .ok)
    {value : List UInt8} (hvalid : adapterLocationIsValid value = true) (hne : value ≠ []) :
    parse (program :: args ++ ValueOption.adapterLocation.separate value) =
      (.ok, { (parse (program :: args)).2 with adapterLocation := some value }) := by
  obtain ⟨settings, hspelled⟩ : ∃ settings, Spelled args settings := exists_spelled hok
  have hparse : parse (program :: args) = giveAll zero settings := hspelled.parseLoop_eq zero
  have hgive : ∀ options, give .adapterLocation options value =
      .ok { options with adapterLocation := some value } := by
    intro options
    unfold give
    rw [if_neg hne]
    simp [ValueOption.store, storeAdapterLocation, hvalid]
  have hfollows := hspelled.follows (ValueOption.adapterLocation.separate value) zero
  rw [hparse] at hok ⊢
  rw [if_pos hok] at hfollows
  rw [List.cons_append, parse, List.tail_cons, hfollows,
    ← List.append_nil (ValueOption.adapterLocation.separate value), parseLoop_separate, hgive]
  rfl

end LaunchOptions

namespace Launch

open UsbAdapterLocation (Device Build)

variable {V : Type*} {lib : TomlLibrary V}

/-- A launch with one more setting of the adapter location. -/
theorem launchOf_append_adapterLocation [Platform] {world : World V}
    {program : Option (List UInt8)} {args : List (Option (List UInt8))} {options : LaunchOptions}
    {launch : LaunchConfig} (h : launchOf lib world (program :: args) = some (options, launch))
    {value : List UInt8} (hvalid : LaunchOptions.adapterLocationIsValid value = true)
    (hne : value ≠ []) :
    launchOf lib world
        (program :: args ++ LaunchOptions.ValueOption.adapterLocation.separate value) =
      some ({ options with adapterLocation := some value },
        { launch with adapterLocation := some value }) := by
  obtain ⟨hok, rfl, hprepare⟩ := launchOf_eq_some h
  have hparse := LaunchOptions.parse_append_adapterLocation hok hvalid hne
  unfold launchOf
  rw [hparse]
  dsimp only
  rw [if_neg (by simp)]
  rw [LaunchConfig.prepare_eq] at hprepare ⊢
  obtain ⟨config, hread, hprepare⟩ := Option.bind_eq_some_iff.1 hprepare
  obtain ⟨next, hnext, rfl⟩ := Option.map_eq_some_iff.1 hprepare
  rw [hread, Option.bind_some, hnext]
  rfl

/-- The paths of a launch are taken by the transport and the key database. -/
theorem productionEntrypoint_of_launch [Platform] {world : World V}
    {argv : List (Option (List UInt8))} {options : LaunchOptions} {launch : LaunchConfig}
    (h : launchOf lib world argv = some (options, launch)) {location : List UInt8}
    (hlocation : launch.adapterLocation = some location) (build : Build)
    (accepts : List UInt8 → Bool) {chosen : UsbAdapterLocation.Chosen}
    (hchosen : UsbAdapterLocation.configureAdapterLocation build accepts location = some chosen) :
    productionEntrypoint build accepts launch = .production launch (some chosen) := by
  obtain ⟨hok, rfl, hprepare⟩ := launchOf_eq_some h
  obtain ⟨hpaths, -⟩ := LaunchConfig.prepare_eq_some hprepare
  have htexts := (LaunchOptions.texts_of_parse hok).1
  have hlink : launch.linkKeyDbPath = (LaunchOptions.parse argv).2.linkKeyDbPath := by
    rw [hpaths]
  have hdump : launch.hciDumpPath = (LaunchOptions.parse argv).2.hciDumpPath := by
    rw [hpaths]
  have hlinkOk : pathIsConfigured launch.linkKeyDbPath = true := by
    unfold pathIsConfigured
    rw [hlink, bne_iff_ne]
    exact htexts _ (by simp [LaunchOptions.texts])
  have hdumpOk : pathIsConfigured launch.hciDumpPath = true := by
    unfold pathIsConfigured
    rw [hdump, bne_iff_ne]
    exact htexts _ (by simp [LaunchOptions.texts])
  unfold productionEntrypoint
  rw [hlinkOk, hdumpOk, hlocation, if_neg (by simp), if_neg (by simp)]
  dsimp only
  rw [hchosen]

/-- **A listed adapter can be chosen.** The lines of the command `adapters` are those of the
Bluetooth adapters, in their order, and a launch to which the first word of a line is added as the
adapter location tells the transport the bus and the ports of the adapter of that line. -/
theorem listed_adapter_is_chosen [Platform] {world : World V} {devices : List Device}
    (hdevices : world.libusb = .devices devices)
    (hlisted : devices.filter (fun device => device.line.isSome) ≠ [])
    {program : Option (List UInt8)} {args : List (Option (List UInt8))} {options : LaunchOptions}
    {launch : LaunchConfig} (hlaunch : launchOf lib world (program :: args) = some (options, launch))
    (hbackend : options.backend = .production) :
    ∃ out, main lib .libusb world [program, some (bytes "adapters")] = .exits ⟨0, out, []⟩ ∧
      List.Forall₂
        (fun line device =>
          let selector := line.takeWhile (· ≠ 0x20)
          device.Numbered →
            main lib .libusb world
                (program :: args ++ LaunchOptions.ValueOption.adapterLocation.separate selector) =
              .production { launch with adapterLocation := some selector }
                (some (.busAndPath device.bus device.portNumbers)))
        (Lines.completeLines 0x0A out) (devices.filter fun device => device.line.isSome) := by
  refine ⟨(UsbAdapterLocation.listLibusbAdapterLocations (.devices devices)).out, ?_, ?_⟩
  · unfold main Cli.dispatchWithPorts Cli.runAdapters listAdapterLocations
    rw [hdevices]
    rfl
  have hsome : devices.filterMap Device.line ≠ [] := by
    intro hnone
    obtain ⟨device, hdevice⟩ := List.exists_mem_of_ne_nil _ hlisted
    obtain ⟨hmem, hline⟩ := List.mem_filter.1 hdevice
    obtain ⟨line, hline⟩ := Option.isSome_iff_exists.1 hline
    have hline : line ∈ devices.filterMap Device.line := List.mem_filterMap.2 ⟨device, hmem, hline⟩
    rw [hnone] at hline
    cases hline
  rw [UsbAdapterLocation.completeLines_list hsome]
  clear hdevices hlisted hsome
  induction devices with
  | nil => exact .nil
  | cons device devices ih =>
    cases hline : device.line with
    | none =>
      rw [List.filterMap_cons_none hline, List.filter_cons_of_neg (by simp [hline])]
      exact ih
    | some line =>
      rw [List.filterMap_cons_some hline, List.filter_cons_of_pos (by simp [hline])]
      refine .cons ?_ ih
      intro selector hnumbered
      obtain ⟨hvalid, hchosen⟩ :=
        UsbAdapterLocation.configure_of_line hnumbered hline world.acceptsLocationPath
      have hne : selector ≠ [] := by
        intro hempty
        have hinvalid : LaunchOptions.adapterLocationIsValid selector = true := hvalid
        rw [hempty] at hinvalid
        exact absurd hinvalid (by decide)
      have hagain := launchOf_append_adapterLocation hlaunch hvalid hne
      rw [List.cons_append] at hagain ⊢
      rw [main_of_launch hagain]
      unfold start
      rw [show ({ options with adapterLocation := some selector } : LaunchOptions).backend =
        .production from hbackend]
      exact productionEntrypoint_of_launch hagain rfl .libusb world.acceptsLocationPath hchosen

/-- A Bluetooth adapter behind a hub. -/
def hubAdapter : Device where
  descriptor := some ⟨0x0A12, 0x0001, 0xE0, 0x01, 0x01⟩
  bus := 1
  portCount := 2
  ports := #v[4, 2, 0, 0, 0, 0, 0]

/-- A host with that adapter and a device of another kind. -/
def adapterWorld : World TomlTree where
  env := ConfigEnv.empty
  file := ⟨.noEntry, true, none⟩
  libusb := .devices [⟨some ⟨0x046D, 0xC52B, 0, 0, 0⟩, 1, 1, #v[3, 0, 0, 0, 0, 0, 0]⟩, hubAdapter]
  winusb := ⟨true, [], []⟩
  acceptsLocationPath := fun _ => false

theorem hub_adapter_is_chosen :
    @main TomlTree .lp64 TomlTree.library .libusb adapterWorld
        [some (bytes "swbt-daemon"), some (bytes "--adapter-location"),
          some (bytes "libusb:1:4.2")] =
      .production ⟨Config.default, none, none, some (bytes "libusb:1:4.2"), none⟩
        (some (.busAndPath 1 [4, 2])) := by
  have hlaunch : @launchOf TomlTree .lp64 TomlTree.library adapterWorld
      [some (bytes "swbt-daemon")] =
        some (LaunchOptions.zero, ⟨Config.default, none, none, none, none⟩) := by
    decide +kernel
  obtain ⟨out, hmain, hlines⟩ := @listed_adapter_is_chosen TomlTree TomlTree.library .lp64
    adapterWorld _ rfl (by decide +kernel) (some (bytes "swbt-daemon")) [] _ _ hlaunch rfl
  have hout : @main TomlTree .lp64 TomlTree.library .libusb adapterWorld
      [some (bytes "swbt-daemon"), some (bytes "adapters")] =
        .exits ⟨0, UsbAdapterLocation.writeSelector 1 ⟨0x0A12, 0x0001, 0xE0, 0x01, 0x01⟩ [4, 2],
          []⟩ := by
    decide +kernel
  obtain rfl := congrArg Cli.Outcome.out (Outcome.exits.inj (hmain.symm.trans hout))
  have hline : Lines.completeLines 0x0A
      (UsbAdapterLocation.writeSelector 1 ⟨0x0A12, 0x0001, 0xE0, 0x01, 0x01⟩ [4, 2]) =
        [UsbAdapterLocation.writeSelector 1 ⟨0x0A12, 0x0001, 0xE0, 0x01, 0x01⟩ [4, 2]] := by
    decide +kernel
  have hdevices : [⟨some ⟨0x046D, 0xC52B, 0, 0, 0⟩, 1, 1, #v[3, 0, 0, 0, 0, 0, 0]⟩,
      hubAdapter].filter (fun device => device.line.isSome) = [hubAdapter] := by
    decide +kernel
  rw [hline, hdevices] at hlines
  cases hlines with
  | cons hfirst hrest => exact hfirst ⟨by decide, by decide +kernel⟩

end Launch

end Swbt
