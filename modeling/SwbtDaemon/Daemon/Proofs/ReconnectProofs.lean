import SwbtDaemon.Daemon.Proofs.ConfigProofs
import SwbtDaemon.Daemon.Reconnect

/-!
# The address of a reconnect

A learned address reaches the reconnect request as the six bytes of the packet, through the text in
the configuration and through the file.
-/

namespace Swbt

namespace Reconnect

open SwitchAddress

/-- A configuration with a printed address and no explicit one asks for this address. -/
theorem buildRequest_learned {config : Config} {address : Bytes} {text : Text}
    (hexplicit : ¬ config.HasExplicitAddress)
    (hlearned : config.learnedSwitchAddress = formatBytes address text) :
    buildRequest config = .ready ⟨address, hidControlPsm, hidInterruptPsm⟩ := by
  have hspelled := spelled_formatBytes address text
  have hfirst : (formatBytes address text)[0] ≠ 0 := by
    simpa [charAt] using hspelled.charAt_ne_zero (show 0 < 17 by decide)
  have heffective : config.effectiveReconnectSwitchAddress = some (formatBytes address text) := by
    unfold Config.HasExplicitAddress at hexplicit
    unfold Config.effectiveReconnectSwitchAddress
    rw [if_neg hexplicit, hlearned, if_pos hfirst]
  unfold buildRequest
  rw [heffective]
  dsimp only
  rw [(parseBytes_eq_iff _ _ address).mpr hspelled]
  rfl

/-- A printed address is learned as it is. -/
theorem setLearnedSwitchAddress_formatBytes (config : Config) (address : Bytes) (text : Text) :
    config.setLearnedSwitchAddress (formatBytes address text).toList =
      (true, { config with learnedSwitchAddress := formatBytes address text }) := by
  unfold Config.setLearnedSwitchAddress
  rw [normalize_of_spelled (spelled_formatBytes address text) _ text]

variable {V : Type*} {lib : TomlLibrary V}

/-- A packet from which an address is saved is an opened event with status 0, and the address is
that of the event. -/
theorem packetHandler_some {session : Learning} {packetType : UInt8} {packet : List UInt8}
    {read : ConfigFile.ReadAnswers V} {write : ConfigFile.WriteAnswers} {saved : ConfigFile.Saved V}
    (h : session.packetHandler lib packetType packet read write = some saved) :
    ∃ event path, HidEvent.decode packetType packet = (.ok, event) ∧
      event.type = .connectionOpened ∧ event.status = 0 ∧
      saved = ConfigFile.saveLearnedSwitchAddress lib session.config path
        (formatBytes event.address (Vector.replicate 18 0)).toList read write := by
  unfold Learning.packetHandler at h
  split at h
  · cases h
  · split at h
    · next event hdecode =>
      split at h
      · next hopened =>
        obtain ⟨path, -, hsave⟩ := Option.bind_eq_some_iff.mp h
        unfold saveLearnedAddress at hsave
        split at hsave
        · cases hsave
        · exact ⟨event, path, hdecode, hopened.1, hopened.2.1, (Option.some.inj hsave).symm⟩
      · cases h
    · cases h

/-- The address of an opened event is that of its packet in reversed order. -/
theorem decode_address {packetType : UInt8} {packet : List UInt8} {event : HidEvent}
    (h : HidEvent.decode packetType packet = (.ok, event))
    (htype : event.type = .connectionOpened) (index : Fin 6) :
    event.address.get index = packet.getD (11 - index.val) 0 := by
  unfold HidEvent.decode at h
  split_ifs at h <;> obtain ⟨hresult, rfl⟩ := Prod.mk.inj h
  -- the packets that are ignored, and those that decode to another event
  all_goals try contradiction
  fin_cases index <;> rfl

/-- The two readers of an address accept the same texts; normalising is idempotent and keeps the
destination when it fails; what is printed is read back, and what is read is printed as the
normalised text. A learned address that is saved is the one that the reconnect asks for, from the
configuration and from every configuration that reads the written file. -/
theorem switchAddress_roundTrip (lib : TomlLibrary V) :
    (∀ dest text address, (normalize dest text).1 = (parseBytes text address).1) ∧
    (∀ dest text, (normalize dest text).1 = false → (normalize dest text).2 = dest) ∧
    (∀ dest dest' text, (normalize dest text).1 = true →
      normalize dest' (normalize dest text).2.toList = (true, (normalize dest text).2)) ∧
    (∀ address text dest, parseBytes (formatBytes address text).toList dest = (true, address)) ∧
    (∀ text address dest buffer, (parseBytes text address).1 = true →
      normalize dest text = (true, formatBytes (parseBytes text address).2 buffer)) ∧
    ∀ (session : Learning) (packetType : UInt8) (packet : List UInt8) (event : HidEvent)
      (read : ConfigFile.ReadAnswers V) (write : ConfigFile.WriteAnswers)
      (saved : ConfigFile.Saved V),
      HidEvent.decode packetType packet = (.ok, event) →
      event.type = .connectionOpened → event.status = 0 →
      session.packetHandler lib packetType packet read write = some saved → saved.result = .ok →
        (∀ index : Fin 6, event.address.get index = packet.getD (11 - index.val) 0) ∧
        (¬ saved.config.HasExplicitAddress →
          buildRequest saved.config = .ready ⟨event.address, hidControlPsm, hidInterruptPsm⟩) ∧
        ∃ written, saved.written = some written ∧
          ∀ (base : Config) (path : List UInt8) (required closed : Bool),
            ConfigFile.Checked base → path ≠ [] →
            ∃ next, ConfigFile.applyFile lib base path required
                ⟨.opened, closed, some written⟩ = (.ok, next) ∧
              (¬ next.HasExplicitAddress →
                buildRequest next = .ready ⟨event.address, hidControlPsm, hidInterruptPsm⟩) := by
  refine ⟨?_, ?_, ?_, ?_, ?_, ?_⟩
  · intro dest text address
    rw [Bool.eq_iff_iff, normalize_fst_iff, parseBytes_fst_iff]
  · intro dest text h
    have hnone : ¬ ∃ address, Spelled text address := by
      rw [← normalize_fst_iff dest text, h]
      decide
    rw [normalize_of_not_spelled hnone]
  · intro dest dest' text h
    obtain ⟨address, hspelled⟩ := (normalize_fst_iff dest text).mp h
    rw [normalize_of_spelled hspelled dest dest]
    exact normalize_of_spelled (spelled_formatBytes address dest) dest' dest
  · intro address text dest
    exact (parseBytes_eq_iff _ dest address).mpr (spelled_formatBytes address text)
  · intro text address dest buffer h
    exact normalize_of_spelled ((parseBytes_eq_iff text address _).mp (Prod.ext h rfl)) dest buffer
  · intro session packetType packet event read write saved hdecode htype _ hsaved hok
    obtain ⟨decoded, path, hdecoded, -, -, rfl⟩ := packetHandler_some hsaved
    obtain rfl : event = decoded := by
      rw [hdecode] at hdecoded
      exact (Prod.mk.inj hdecoded).2
    obtain ⟨-, parsed, written, hsave, haccepted, hwritten⟩ :=
      ConfigFile.saveLearnedSwitchAddress_ok hok
    rw [hsave]
    rw [setLearnedSwitchAddress_formatBytes] at hwritten ⊢
    refine ⟨decode_address hdecode htype, fun hexplicit => buildRequest_learned hexplicit rfl,
      written, rfl, fun base path required closed hbase hpath => ?_⟩
    obtain ⟨next, hnext, hset⟩ := ConfigFile.applyToml_written haccepted hwritten hbase
    refine ⟨next, ?_, fun hexplicit => buildRequest_learned hexplicit hset⟩
    unfold ConfigFile.applyFile
    rw [if_neg hpath]
    exact hnext

theorem switchAddress_roundTrip_learned :
    ∃ saved : ConfigFile.Saved TomlTree,
      (Learning.mk Config.default (some (CString.bytes "config.toml")) true true).packetHandler
        TomlTree.library 0x04 [0xEF, 13, 0x02, 0x42, 0x00, 0x00, 0xAB, 0x89, 0x67, 0x45, 0x23, 0x01,
          0x34, 0x12, 1] ⟨.noEntry, true, none⟩ ⟨true, true, true, true⟩ = some saved ∧
      buildRequest saved.config = .ready ⟨#v[0x01, 0x23, 0x45, 0x67, 0x89, 0xAB], 0x11, 0x13⟩ := by
  have hclosed :
      ((Learning.mk Config.default (some (CString.bytes "config.toml")) true true).packetHandler
        TomlTree.library 0x04 [0xEF, 13, 0x02, 0x42, 0x00, 0x00, 0xAB, 0x89, 0x67, 0x45, 0x23, 0x01,
          0x34, 0x12, 1] ⟨.noEntry, true, none⟩ ⟨true, true, true, true⟩).map
        (fun saved => (saved.result, saved.config.explicitSwitchAddress[0])) = some (.ok, 0) := by
    decide +kernel
  obtain ⟨saved, hsaved, hvalues⟩ := Option.map_eq_some_iff.mp hclosed
  obtain ⟨hok, hexplicit⟩ := Prod.mk.inj hvalues
  refine ⟨saved, hsaved, ?_⟩
  exact ((switchAddress_roundTrip TomlTree.library).2.2.2.2.2 _ _ _
    ⟨.connectionOpened, 0x42, 0, #v[0x01, 0x23, 0x45, 0x67, 0x89, 0xAB]⟩ _ _ saved (by decide) rfl
    rfl hsaved hok).2.1 (not_not.mpr hexplicit)

end Reconnect

end Swbt
