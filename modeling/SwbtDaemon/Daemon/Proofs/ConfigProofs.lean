import SwbtDaemon.Daemon.Config
import SwbtDaemon.Daemon.Proofs.SwitchAddressProofs

/-!
# Saving a learned address

A successful save sets the learned address of the configuration and nothing else, and the file that
it writes sets the same address in every configuration that reads it.
-/

namespace Swbt

namespace ConfigFile

variable {V : Type*} (lib : TomlLibrary V)

/-! ## Tables of the file -/

/-- The table `child` of `parent'` is the one at `key` of `parent`, empty when there is none, and
the rest of `parent'` is that of `parent`. -/
structure ChildTable (parent : V) (key : List UInt8) (parent' child : V) : Prop where
  parent_table : lib.isTable parent' = true
  child_table : lib.isTable child = true
  parent_keys : ∀ allowed, key ∈ allowed → tableContainsOnlyKeys lib (some parent) allowed = true →
    tableContainsOnlyKeys lib (some parent') allowed = true
  parent_get : ∀ key', key' ≠ key → lib.get parent' key' = lib.get parent key'
  child_get : ∀ key', lib.get child key' = valueAt lib (lib.get parent key) key'
  child_keys : ∀ allowed, tableContainsOnlyKeys lib (lib.get parent key) allowed = true →
    tableContainsOnlyKeys lib (some child) allowed = true

variable {lib}

/-- Setting an allowed key keeps a table within the allowed keys. -/
theorem tableContainsOnlyKeys_set {table : V} (htable : lib.isTable table = true) {key : List UInt8}
    {allowed : List (List UInt8)} (hkey : key ∈ allowed)
    (h : tableContainsOnlyKeys lib (some table) allowed = true) (value : V) :
    tableContainsOnlyKeys lib (some (lib.set table key value)) allowed = true := by
  simp only [tableContainsOnlyKeys, List.all_eq_true, List.contains_iff_mem] at h ⊢
  intro key' hmem
  rcases lib.keys_set _ _ _ htable key' hmem with rfl | hold
  · exact hkey
  · exact h key' hold

theorem ensureChildTable_spec {parent parent' child : V} {key : List UInt8}
    (h : ensureChildTable lib parent key = some (parent', child)) :
    ChildTable lib parent key parent' child := by
  unfold ensureChildTable at h
  split at h
  · cases h
  · next htable =>
    have hparent : lib.isTable parent = true := by simpa using htable
    cases hget : lib.get parent key with
    | none =>
      rw [hget] at h
      obtain ⟨rfl, rfl⟩ := Prod.mk.inj (Option.some.inj h)
      refine ⟨lib.isTable_set _ _ _ hparent, lib.isTable_emptyTable,
        fun allowed hkey hkeys => tableContainsOnlyKeys_set hparent hkey hkeys _,
        fun key' hne => ?_, fun key' => ?_, fun allowed _ => ?_⟩
      · rw [lib.get_set _ _ _ _ hparent, if_neg hne]
      · rw [lib.get_emptyTable, hget]
        rfl
      · simp [tableContainsOnlyKeys, lib.keys_emptyTable]
    | some found =>
      rw [hget] at h
      dsimp only at h
      split at h
      · next hfound =>
        obtain ⟨rfl, rfl⟩ := Prod.mk.inj (Option.some.inj h)
        refine ⟨hparent, hfound, fun allowed _ hkeys => hkeys, fun key' _ => rfl, fun key' => ?_,
          fun allowed hallowed => ?_⟩
        · rw [hget]
          rfl
        · rwa [hget] at hallowed
      · cases h

/-- A table found at a key is a table. -/
theorem findTable_eq_some_iff {root : V} {key : List UInt8} {table : Option V} :
    findTable lib root key = some table ↔
      lib.get root key = table ∧ ∀ found ∈ table, lib.isTable found = true := by
  unfold findTable
  cases hget : lib.get root key with
  | none =>
    constructor
    · intro h
      obtain rfl := Option.some.inj h
      simp
    · intro h
      rw [← h.1]
  | some found =>
    dsimp only
    cases htable : lib.isTable found with
    | false =>
      constructor
      · intro h
        cases h
      · intro ⟨heq, hall⟩
        have hfound := hall found (by rw [← heq]; rfl)
        rw [htable] at hfound
        cases hfound
    | true =>
      constructor
      · intro h
        obtain rfl := Option.some.inj h
        simpa using htable
      · intro h
        rw [← h.1]
        rfl

theorem findTable_congr {root root' : V} {key : List UInt8}
    (h : lib.get root key = lib.get root' key) :
    findTable lib root key = findTable lib root' key := by
  unfold findTable
  rw [h]

/-- The tables of an accepted file: what it holds at the known keys, and no other keys. -/
structure Found (lib : TomlLibrary V) (root : V) (tables : Tables V) : Prop where
  report : findTable lib root (CString.bytes "report") = some tables.report
  ipc : findTable lib root (CString.bytes "ipc") = some tables.ipc
  device : findTable lib root (CString.bytes "device") = some tables.device
  activeReconnect :
    findTable lib root (CString.bytes "active_reconnect") = some tables.activeReconnect
  learned : valueAt lib tables.activeReconnect (CString.bytes "learned") = tables.learned
  learned_table : ∀ found ∈ tables.learned, lib.isTable found = true
  root_keys : rootContainsOnlyKnownSections lib root = true
  table_keys : tablesContainOnlyKnownKeys lib tables.report tables.ipc tables.device
    tables.activeReconnect tables.learned = true

theorem findLearned_eq_some_iff {activeReconnect learned : Option V} :
    findLearned lib activeReconnect = some learned ↔
      valueAt lib activeReconnect (CString.bytes "learned") = learned ∧
        ∀ found ∈ learned, lib.isTable found = true := by
  cases activeReconnect with
  | none =>
    constructor
    · intro h
      obtain rfl := Option.some.inj h
      simp [valueAt]
    · intro h
      rw [← h.1]
      rfl
  | some table => exact findTable_eq_some_iff

theorem findTables_eq_some_iff {root : V} {tables : Tables V} :
    findTables lib root = some tables ↔ Found lib root tables := by
  unfold findTables
  simp only [Option.bind_eq_bind, Option.bind_eq_some_iff, findLearned_eq_some_iff,
    Option.ite_none_right_eq_some, Bool.and_eq_true, Option.some.injEq]
  constructor
  · rintro ⟨report, hreport, ipc, hipc, device, hdevice, activeReconnect, hactive, learned,
      ⟨hvalue, htable⟩, ⟨hroot, hkeys⟩, rfl⟩
    exact ⟨hreport, hipc, hdevice, hactive, hvalue, htable, hroot, hkeys⟩
  · intro h
    exact ⟨_, h.report, _, h.ipc, _, h.device, _, h.activeReconnect, _,
      ⟨h.learned, h.learned_table⟩, ⟨h.root_keys, h.table_keys⟩, rfl⟩

/-- The file with the learned address set is accepted like the file it was made from, with the
same tables up to the learned address. -/
theorem found_withLearnedSwitchAddress {parsed written : V} {text : List UInt8}
    {tables : Tables V} (hfound : Found lib parsed tables)
    (hwritten : withLearnedSwitchAddress lib parsed text = some written) :
    ∃ activeReconnect learned,
      Found lib written
        { tables with activeReconnect := some activeReconnect, learned := some learned } ∧
      lib.get activeReconnect (CString.bytes "switch_address") =
        valueAt lib tables.activeReconnect (CString.bytes "switch_address") ∧
      lib.get learned (CString.bytes "switch_address") = some (lib.ofString text) := by
  unfold withLearnedSwitchAddress at hwritten
  simp only [Option.bind_eq_bind, Option.bind_eq_some_iff, Option.some.injEq, Prod.exists]
    at hwritten
  obtain ⟨root, oldActive, hroot, active, oldLearned, hactive, hwritten⟩ := hwritten
  have hroot := ensureChildTable_spec hroot
  have hactive := ensureChildTable_spec hactive
  obtain ⟨hfoundActive, -⟩ := findTable_eq_some_iff.mp hfound.activeReconnect
  have hkeys := hfound.table_keys
  simp only [tablesContainOnlyKnownKeys, Bool.and_eq_true] at hkeys
  obtain ⟨⟨⟨⟨hreport, hipc⟩, hdevice⟩, hkeysActive⟩, hkeysLearned⟩ := hkeys
  have htableLearned := lib.isTable_set oldLearned (CString.bytes "switch_address")
    (lib.ofString text) hactive.child_table
  have htableActive := lib.isTable_set active (CString.bytes "learned")
    (lib.set oldLearned (CString.bytes "switch_address") (lib.ofString text)) hactive.parent_table
  -- the other tables are found where they were
  have hother : ∀ key, key ≠ CString.bytes "active_reconnect" →
      findTable lib written key = findTable lib parsed key := by
    intro key hne
    rw [← hwritten]
    refine findTable_congr ?_
    rw [lib.get_set _ _ _ _ hroot.parent_table, if_neg hne, hroot.parent_get key hne]
  refine ⟨lib.set active (CString.bytes "learned")
    (lib.set oldLearned (CString.bytes "switch_address") (lib.ofString text)),
    lib.set oldLearned (CString.bytes "switch_address") (lib.ofString text),
    ⟨?_, ?_, ?_, ?_, ?_, ?_, ?_, ?_⟩, ?_, ?_⟩
  · exact (hother _ (by decide)).trans hfound.report
  · exact (hother _ (by decide)).trans hfound.ipc
  · exact (hother _ (by decide)).trans hfound.device
  · refine findTable_eq_some_iff.mpr ⟨?_, ?_⟩
    · rw [← hwritten, lib.get_set _ _ _ _ hroot.parent_table, if_pos rfl]
    · simpa using htableActive
  · exact (lib.get_set _ _ _ _ hactive.parent_table).trans (if_pos rfl)
  · simpa using htableLearned
  · rw [← hwritten]
    exact tableContainsOnlyKeys_set hroot.parent_table (by decide)
      (hroot.parent_keys _ (by decide) hfound.root_keys) _
  · simp only [tablesContainOnlyKnownKeys, Bool.and_eq_true]
    refine ⟨⟨⟨⟨hreport, hipc⟩, hdevice⟩, ?_⟩, ?_⟩
    · rw [← hfoundActive] at hkeysActive
      exact tableContainsOnlyKeys_set hactive.parent_table (by decide)
        (hactive.parent_keys _ (by decide) (hroot.child_keys _ hkeysActive)) _
    · rw [← hfound.learned, ← hfoundActive, ← hroot.child_get] at hkeysLearned
      exact tableContainsOnlyKeys_set hactive.child_table (by decide)
        (hactive.child_keys _ hkeysLearned) _
  · rw [lib.get_set _ _ _ _ hactive.parent_table, if_neg (by decide),
      hactive.parent_get _ (by decide), hroot.child_get, hfoundActive]
  · exact (lib.get_set _ _ _ _ hactive.child_table).trans (if_pos rfl)

/-! ## The values of the file -/

/-- The settings that the last check of a file reads. -/
structure SameChecked (config config' : Config) : Prop where
  reportPeriodUs : config'.reportPeriodUs = config.reportPeriodUs
  ipcBacklog : config'.ipcBacklog = config.ipcBacklog

/-- A setter refuses a text or not whatever the configuration, and leaves what the last check
reads. -/
structure PlainSetter (setter : Config → List UInt8 → Bool × Config) : Prop where
  result : ∀ config config' text, (setter config text).1 = (setter config' text).1
  keeps : ∀ config text, SameChecked config (setter config text).2

theorem normalize_fst_eq (dest dest' : SwitchAddress.Text) (text : List UInt8) :
    (SwitchAddress.normalize dest text).1 = (SwitchAddress.normalize dest' text).1 := by
  rw [Bool.eq_iff_iff, SwitchAddress.normalize_fst_iff, SwitchAddress.normalize_fst_iff]

theorem plain_setExplicitSwitchAddress : PlainSetter Config.setExplicitSwitchAddress :=
  ⟨fun _ _ text => normalize_fst_eq _ _ text, fun _ _ => ⟨rfl, rfl⟩⟩

theorem plain_setLearnedSwitchAddress : PlainSetter Config.setLearnedSwitchAddress :=
  ⟨fun _ _ text => normalize_fst_eq _ _ text, fun _ _ => ⟨rfl, rfl⟩⟩

theorem plain_setIpcHost : PlainSetter Config.setIpcHost := by
  constructor
  · intro config config' text
    unfold Config.setIpcHost
    dsimp only
    split <;> rfl
  · intro config text
    unfold Config.setIpcHost
    dsimp only
    split <;> exact ⟨rfl, rfl⟩

theorem plain_applyDeviceInfoProfile : PlainSetter Config.applyDeviceInfoProfile := by
  constructor
  · intro config config' text
    unfold Config.applyDeviceInfoProfile
    dsimp only
    split
    · rfl
    · split <;> rfl
  · intro config text
    unfold Config.applyDeviceInfoProfile
    dsimp only
    split
    · exact ⟨rfl, rfl⟩
    · split <;> exact ⟨rfl, rfl⟩

theorem applyString_keeps {setter : Config → List UInt8 → Bool × Config}
    (hplain : PlainSetter setter) {table : Option V} {key : List UInt8} {config next : Config}
    (h : applyString lib table key setter config = some next) : SameChecked config next := by
  unfold applyString at h
  split at h
  · obtain rfl := Option.some.inj h
    exact ⟨rfl, rfl⟩
  · next value hvalue =>
    split at h
    · cases h
    · next text htext =>
      dsimp only at h
      split at h
      · obtain rfl := Option.some.inj h
        exact hplain.keeps config text
      · cases h

/-- What one configuration takes from a file, every other one takes as well. -/
theorem applyString_again {setter : Config → List UInt8 → Bool × Config}
    (hplain : PlainSetter setter) {table : Option V} {key : List UInt8} {config next : Config}
    (h : applyString lib table key setter config = some next) (base : Config) :
    ∃ next', applyString lib table key setter base = some next' := by
  unfold applyString at h ⊢
  split
  · exact ⟨base, rfl⟩
  · next value hvalue =>
    rw [hvalue] at h
    dsimp only at h
    split
    · next hnone => rw [hnone] at h; cases h
    · next text htext =>
      rw [htext] at h
      dsimp only at h ⊢
      rw [hplain.result config base text] at h
      split at h
      · next hok =>
        rw [if_pos hok]
        exact ⟨_, rfl⟩
      · cases h

/-- A number of the file is taken by every configuration; where the file has none, the
configuration keeps its own. -/
theorem applyU32_again {table : Option V} {key : List UInt8} {out value : UInt32}
    (h : applyU32 lib table key out = some value) (out' : UInt32) :
    ∃ value', applyU32 lib table key out' = some value' ∧ (value' = out' ∨ value' = value) := by
  unfold applyU32 at h ⊢
  split
  · exact ⟨out', rfl, .inl rfl⟩
  · next found hfound =>
    rw [hfound] at h
    exact ⟨value, h, .inr rfl⟩

theorem applyU16_again {table : Option V} {key : List UInt8} {out value : UInt16}
    (h : applyU16 lib table key out = some value) (out' : UInt16) :
    ∃ value', applyU16 lib table key out' = some value' := by
  unfold applyU16 at h ⊢
  split
  · exact ⟨out', rfl⟩
  · next hfound =>
    rw [if_neg hfound] at h
    exact ⟨value, h⟩

theorem applyInt_again {table : Option V} {key : List UInt8} {out value : Int}
    (h : applyInt lib table key out = some value) (out' : Int) :
    ∃ value', applyInt lib table key out' = some value' ∧ (value' = out' ∨ value' = value) := by
  unfold applyInt at h ⊢
  split
  · exact ⟨out', rfl, .inl rfl⟩
  · next hfound =>
    rw [if_neg hfound] at h
    exact ⟨value, h, .inr rfl⟩

/-- A configuration that passes the last check of `swbt_daemon_config_apply_toml`. -/
structure Checked (config : Config) : Prop where
  reportPeriodUs : config.reportPeriodUs ≠ 0
  ipcBacklog : 0 < config.ipcBacklog

/-- An accepted file leaves a configuration that passes the last check. -/
theorem applyTables_checked {tables : Tables V} {config next : Config}
    (h : applyTables lib tables config = some next) : Checked next := by
  unfold applyTables at h
  simp only [Option.bind_eq_bind, Option.bind_eq_some_iff] at h
  obtain ⟨-, -, -, -, -, -, -, -, -, -, -, -, -, -, last, -, hcheck⟩ := h
  split at hcheck
  · cases hcheck
  · next hnot =>
    obtain rfl := Option.some.inj hcheck
    rw [not_or, Int.not_le] at hnot
    exact ⟨hnot.1, hnot.2⟩

/-- What an accepted file gives: the values of its keys, or those of the configuration. The last
check has seen the period and the backlog. -/
theorem applyTables_values {tables : Tables V} {config next : Config}
    (h : applyTables lib tables config = some next) :
    ∃ period port config1 backlog timeout config2 config3,
      applyU32 lib tables.report (CString.bytes "period_us") config.reportPeriodUs = some period ∧
      period ≠ 0 ∧
      applyU16 lib tables.ipc (CString.bytes "port") config.ipcPort = some port ∧
      applyIpcHost lib tables.ipc { config with reportPeriodUs := period, ipcPort := port } =
        some config1 ∧
      applyInt lib tables.ipc (CString.bytes "backlog") config1.ipcBacklog = some backlog ∧
      0 < backlog ∧
      applyU32 lib tables.ipc (CString.bytes "heartbeat_timeout_ms")
        config1.ipcHeartbeatTimeoutMs = some timeout ∧
      applyDeviceProfile lib tables.device
        { config1 with ipcBacklog := backlog, ipcHeartbeatTimeoutMs := timeout } = some config2 ∧
      applyActiveReconnectSwitchAddress lib tables.activeReconnect config2 = some config3 ∧
      applyActiveReconnectLearnedSwitchAddress lib tables.learned config3 = some next := by
  have hchecked := applyTables_checked h
  unfold applyTables at h
  simp only [Option.bind_eq_bind, Option.bind_eq_some_iff] at h
  obtain ⟨period, hperiod, port, hport, config1, hhost, backlog, hbacklog, timeout, htimeout,
    config2, hdevice, config3, hactive, config4, hlearn, hcheck⟩ := h
  have hkeeps1 := applyString_keeps plain_setIpcHost hhost
  have hkeeps2 := applyString_keeps plain_applyDeviceInfoProfile hdevice
  have hkeeps3 := applyString_keeps plain_setExplicitSwitchAddress hactive
  have hkeeps4 := applyString_keeps plain_setLearnedSwitchAddress hlearn
  obtain rfl : config4 = next := by
    split at hcheck
    · cases hcheck
    · exact Option.some.inj hcheck
  have hperiodNe : period ≠ 0 := by
    have hne := hchecked.reportPeriodUs
    rwa [hkeeps4.reportPeriodUs, hkeeps3.reportPeriodUs, hkeeps2.reportPeriodUs,
      hkeeps1.reportPeriodUs] at hne
  have hbacklogPos : 0 < backlog := by
    have hpos := hchecked.ipcBacklog
    rwa [hkeeps4.ipcBacklog, hkeeps3.ipcBacklog, hkeeps2.ipcBacklog] at hpos
  exact ⟨period, port, config1, backlog, timeout, config2, config3, hperiod, hperiodNe, hport, hhost,
    hbacklog, hbacklogPos, htimeout, hdevice, hactive, hlearn⟩

/-- A file that one configuration takes is taken by every one that passes the last check. -/
theorem applyTables_again {tables : Tables V} {config next : Config}
    (h : applyTables lib tables config = some next) {base : Config} (hbase : Checked base) :
    ∃ next', applyTables lib tables base = some next' := by
  obtain ⟨period, port, config1, backlog, timeout, config2, config3, hperiod, hcheckPeriod, hport,
    hhost, hbacklog, hcheckBacklog, htimeout, hdevice, hactive, hlearn⟩ := applyTables_values h
  -- the same steps from the other configuration
  obtain ⟨period', hperiod', hperiodCases⟩ := applyU32_again hperiod base.reportPeriodUs
  obtain ⟨port', hport'⟩ := applyU16_again hport base.ipcPort
  obtain ⟨base1, hbase1⟩ := applyString_again plain_setIpcHost hhost
    { base with reportPeriodUs := period', ipcPort := port' }
  have hkeepsBase1 := applyString_keeps plain_setIpcHost hbase1
  obtain ⟨backlog', hbacklog', hbacklogCases⟩ := applyInt_again hbacklog base1.ipcBacklog
  obtain ⟨timeout', htimeout', -⟩ := applyU32_again htimeout base1.ipcHeartbeatTimeoutMs
  obtain ⟨base2, hbase2⟩ := applyString_again plain_applyDeviceInfoProfile hdevice
    { base1 with ipcBacklog := backlog', ipcHeartbeatTimeoutMs := timeout' }
  have hkeepsBase2 := applyString_keeps plain_applyDeviceInfoProfile hbase2
  obtain ⟨base3, hbase3⟩ := applyString_again plain_setExplicitSwitchAddress hactive base2
  have hkeepsBase3 := applyString_keeps plain_setExplicitSwitchAddress hbase3
  obtain ⟨base4, hbase4⟩ := applyString_again plain_setLearnedSwitchAddress hlearn base3
  have hkeepsBase4 := applyString_keeps plain_setLearnedSwitchAddress hbase4
  have hperiodBase : base4.reportPeriodUs ≠ 0 := by
    rw [hkeepsBase4.reportPeriodUs, hkeepsBase3.reportPeriodUs, hkeepsBase2.reportPeriodUs]
    change base1.reportPeriodUs ≠ 0
    rw [hkeepsBase1.reportPeriodUs]
    rcases hperiodCases with rfl | rfl
    · exact hbase.reportPeriodUs
    · exact hcheckPeriod
  have hbacklogBase : 0 < base4.ipcBacklog := by
    rw [hkeepsBase4.ipcBacklog, hkeepsBase3.ipcBacklog, hkeepsBase2.ipcBacklog]
    rcases hbacklogCases with rfl | rfl
    · rw [hkeepsBase1.ipcBacklog]
      exact hbase.ipcBacklog
    · exact hcheckBacklog
  refine ⟨base4, ?_⟩
  unfold applyTables
  simp only [Option.bind_eq_bind, Option.bind_eq_some_iff]
  exact ⟨period', hperiod', port', hport', base1, hbase1, backlog', hbacklog', timeout', htimeout',
    base2, hbase2, base3, hbase3, base4, hbase4,
    if_neg (not_or.mpr ⟨hperiodBase, Int.not_le.mpr hbacklogBase⟩)⟩

/-! ## The learned address of the file -/

/-- The configuration with a learned address. -/
def withLearned (config : Config) (address : SwitchAddress.Text) : Config :=
  { config with learnedSwitchAddress := address }

/-- A setter that neither reads nor sets the learned address. -/
def FramesLearned (setter : Config → List UInt8 → Bool × Config) : Prop :=
  ∀ config text address, setter (withLearned config address) text =
    ((setter config text).1, withLearned (setter config text).2 address)

theorem framesLearned_setExplicitSwitchAddress : FramesLearned Config.setExplicitSwitchAddress :=
  fun _ _ _ => rfl

theorem framesLearned_setIpcHost : FramesLearned Config.setIpcHost := by
  intro config text address
  unfold Config.setIpcHost
  dsimp only
  split
  · rfl
  · rfl

theorem framesLearned_applyDeviceInfoProfile : FramesLearned Config.applyDeviceInfoProfile := by
  intro config text address
  unfold Config.applyDeviceInfoProfile
  dsimp only
  split
  · rfl
  · split
    · rfl
    · rfl

theorem applyString_frame {setter : Config → List UInt8 → Bool × Config}
    (hframe : FramesLearned setter) {table : Option V} {key : List UInt8} {config next : Config}
    (h : applyString lib table key setter config = some next) (address : SwitchAddress.Text) :
    applyString lib table key setter (withLearned config address) =
      some (withLearned next address) := by
  unfold applyString at h ⊢
  split at h
  · obtain rfl := Option.some.inj h
    rfl
  · next value hvalue =>
    dsimp only
    split at h
    · cases h
    · next text htext =>
      dsimp only at h ⊢
      rw [hframe]
      split at h
      · next hok =>
        obtain rfl := Option.some.inj h
        rw [if_pos hok]
      · cases h

/-- The learned address is the last value of the file. -/
theorem applyLearned_eq {learned : Option V} {config next : Config}
    (h : applyActiveReconnectLearnedSwitchAddress lib learned config = some next) :
    ∃ address, next = withLearned config address := by
  unfold applyActiveReconnectLearnedSwitchAddress applyString at h
  split at h
  · obtain rfl := Option.some.inj h
    exact ⟨config.learnedSwitchAddress, rfl⟩
  · split at h
    · cases h
    · next text htext =>
      dsimp only at h
      split at h
      · obtain rfl := Option.some.inj h
        exact ⟨_, rfl⟩
      · cases h

/-- A learned address in the file is set in the configuration. -/
theorem applyLearned_ofString {learned : V} {text : List UInt8}
    (hlearned : lib.get learned (CString.bytes "switch_address") = some (lib.ofString text))
    {address : SwitchAddress.Text}
    (htext : ∀ dest, SwitchAddress.normalize dest text = (true, address)) (config : Config) :
    applyActiveReconnectLearnedSwitchAddress lib (some learned) config =
      some (withLearned config address) := by
  unfold applyActiveReconnectLearnedSwitchAddress applyString
  have hvalue : valueAt lib (some learned) (CString.bytes "switch_address") =
      some (lib.ofString text) := hlearned
  rw [hvalue]
  dsimp only
  rw [lib.string_ofString]
  dsimp only
  unfold Config.setLearnedSwitchAddress
  rw [htext]
  rfl

/-- The file with another learned address gives what it gave without, and this address. -/
theorem applyTables_replaced {tables : Tables V} {config next : Config}
    (h : applyTables lib tables config = some next) {activeReconnect learned : V}
    (hexplicit : lib.get activeReconnect (CString.bytes "switch_address") =
      valueAt lib tables.activeReconnect (CString.bytes "switch_address"))
    {text : List UInt8}
    (hlearned : lib.get learned (CString.bytes "switch_address") = some (lib.ofString text))
    {address : SwitchAddress.Text}
    (htext : ∀ dest, SwitchAddress.normalize dest text = (true, address))
    (start : SwitchAddress.Text) :
    applyTables lib
        { tables with activeReconnect := some activeReconnect, learned := some learned }
        (withLearned config start) = some (withLearned next address) := by
  obtain ⟨period, port, config1, backlog, timeout, config2, config3, hperiod, -, hport, hhost,
    hbacklog, -, htimeout, hdevice, hactive, hlearn⟩ := applyTables_values h
  obtain ⟨old, rfl⟩ := applyLearned_eq hlearn
  have hchecked := applyTables_checked h
  have hcheck : ¬ (config3.reportPeriodUs = 0 ∨ config3.ipcBacklog ≤ 0) :=
    not_or.mpr ⟨hchecked.reportPeriodUs, Int.not_le.mpr hchecked.ipcBacklog⟩
  unfold applyTables
  simp only [Option.bind_eq_bind, Option.bind_eq_some_iff]
  refine ⟨period, hperiod, port, hport, withLearned config1 start,
    applyString_frame framesLearned_setIpcHost hhost start, backlog, hbacklog, timeout, htimeout,
    withLearned config2 start,
    applyString_frame framesLearned_applyDeviceInfoProfile hdevice start, withLearned config3 start,
    ?_, withLearned config3 address, applyLearned_ofString hlearned htext _, if_neg hcheck⟩
  have hframed := applyString_frame framesLearned_setExplicitSwitchAddress hactive start
  rw [← hframed]
  unfold applyActiveReconnectSwitchAddress applyString
  rw [← hexplicit]
  rfl

/-! ## The save -/

/-- A file that cannot be loaded is a failure. -/
theorem loadOrEmpty_ne_error_ok (path : List UInt8) (read : ReadAnswers V) :
    loadOrEmpty lib path read ≠ .error .ok := by
  unfold loadOrEmpty
  split
  · simp
  · split
    · simp
    · simp
    · split
      · simp
      · split <;> simp

/-- An accepted file has tables whose values the configuration takes. -/
theorem applyToml_ok_iff {config next : Config} {parsed : V} :
    applyToml lib config parsed = (.ok, next) ↔
      ∃ tables, Found lib parsed tables ∧ applyTables lib tables config = some next := by
  unfold applyToml
  simp only [← findTables_eq_some_iff]
  cases hbind : (findTables lib parsed).bind fun tables => applyTables lib tables config with
  | none =>
    refine iff_of_false (by simp) fun ⟨tables, hfound, happly⟩ => ?_
    rw [hfound, Option.bind_some, happly] at hbind
    cases hbind
  | some found =>
    obtain ⟨tables, hfound, happly⟩ := Option.bind_eq_some_iff.mp hbind
    constructor
    · intro h
      obtain ⟨-, rfl⟩ := Prod.mk.inj h
      exact ⟨tables, hfound, happly⟩
    · intro ⟨tables', hfound', happly'⟩
      obtain rfl := Option.some.inj (hfound.symm.trans hfound')
      obtain rfl := Option.some.inj (happly.symm.trans happly')
      rfl

/-- What a successful save has done: it set the learned address of the configuration, and wrote the
file it found, which it had accepted, with that address set. -/
theorem saveLearnedSwitchAddress_ok {config : Config} {path address : List UInt8}
    {read : ReadAnswers V} {write : WriteAnswers}
    (h : (saveLearnedSwitchAddress lib config path address read write).result = .ok) :
    (config.setLearnedSwitchAddress address).1 = true ∧
      ∃ parsed written,
        saveLearnedSwitchAddress lib config path address read write =
          ⟨.ok, (config.setLearnedSwitchAddress address).2, some written⟩ ∧
        (applyToml lib config parsed).1 = .ok ∧
        withLearnedSwitchAddress lib parsed (CString.ofArray
            (config.setLearnedSwitchAddress address).2.learnedSwitchAddress.toList) =
          some written := by
  unfold saveLearnedSwitchAddress at h ⊢
  by_cases hpath : path = []
  · simp [hpath] at h
  rw [if_neg hpath] at h ⊢
  generalize config.setLearnedSwitchAddress address = set at h ⊢
  obtain ⟨ok, next⟩ := set
  dsimp only at h ⊢
  by_cases hok : ok = true
  · rw [if_neg (by simp [hok])] at h ⊢
    refine ⟨hok, ?_⟩
    split at h
    · next result hload =>
      obtain rfl : result = .ok := h
      exact absurd hload (loadOrEmpty_ne_error_ok path read)
    · next parsed hload =>
      split at h
      · next happly =>
        split at h
        · simp at h
        · next written hwritten =>
          split at h
          · exact ⟨parsed, written, rfl, happly, hwritten⟩
          · next result hresult => exact absurd h hresult
      · next result hresult => exact absurd h hresult
  · simp [hok] at h

/-- The file with the learned address set gives every configuration that takes the file it was made
from the same values, and this address. -/
theorem applyToml_withLearned {base next : Config} {parsed written : V}
    (haccepted : applyToml lib base parsed = (.ok, next)) {text : List UInt8}
    {address : SwitchAddress.Text}
    (htext : ∀ dest, SwitchAddress.normalize dest text = (true, address))
    (hwritten : withLearnedSwitchAddress lib parsed text = some written)
    (start : SwitchAddress.Text) :
    applyToml lib (withLearned base start) written = (.ok, withLearned next address) := by
  obtain ⟨tables, hfound, happly⟩ := applyToml_ok_iff.mp haccepted
  obtain ⟨activeReconnect, learned, hfound', hexplicit, hlearned⟩ :=
    found_withLearnedSwitchAddress hfound hwritten
  exact applyToml_ok_iff.mpr
    ⟨_, hfound', applyTables_replaced happly hexplicit hlearned htext start⟩

/-- A file that one configuration accepts is accepted by every one that passes the last check. -/
theorem applyToml_again {config : Config} {parsed : V}
    (haccepted : (applyToml lib config parsed).1 = .ok) {base : Config} (hbase : Checked base) :
    ∃ next, applyToml lib base parsed = (.ok, next) := by
  obtain ⟨tables, hfound, happly⟩ := applyToml_ok_iff.mp (Prod.ext haccepted rfl)
  obtain ⟨next, hnext⟩ := applyTables_again happly hbase
  exact ⟨next, applyToml_ok_iff.mpr ⟨tables, hfound, hnext⟩⟩

/-- The file that a successful save writes sets the learned address in every configuration that
passes the last check. -/
theorem applyToml_written {config : Config} {parsed written : V}
    (haccepted : (applyToml lib config parsed).1 = .ok) {address : SwitchAddress.Bytes}
    {text : SwitchAddress.Text}
    (hwritten : withLearnedSwitchAddress lib parsed
      (CString.ofArray (SwitchAddress.formatBytes address text).toList) = some written)
    {base : Config} (hbase : Checked base) :
    ∃ next, applyToml lib base written = (.ok, next) ∧
      next.learnedSwitchAddress = SwitchAddress.formatBytes address text := by
  obtain ⟨next, hnext⟩ := applyToml_again haccepted hbase
  have htext := (SwitchAddress.spelled_formatBytes address text).ofArray
  have hset := applyToml_withLearned hnext
    (fun dest => SwitchAddress.normalize_of_spelled htext dest text) hwritten
    base.learnedSwitchAddress
  exact ⟨_, hset, rfl⟩

end ConfigFile

end Swbt
