import SwbtDaemon.Daemon.SwitchAddress
import SwbtDaemon.Lib.CString
import SwbtDaemon.Switch.Subcommand

/-!
# The configuration of the daemon

`daemon/config.c` as far as a configuration file is concerned, and `daemon/config_file.cpp`. The
values of the TOML library are behind `TomlLibrary`; what the file system and the parser answer is
an input.
-/

namespace Swbt

/-! ## The configuration -/

/-- `swbt_daemon_config_t`. -/
structure Config where
  reportPeriodUs : UInt32
  ipcHost : Vector UInt8 16
  ipcPort : UInt16
  ipcBacklog : Int
  ipcHeartbeatTimeoutMs : UInt32
  explicitSwitchAddress : SwitchAddress.Text
  learnedSwitchAddress : SwitchAddress.Text
  reportOptions : ReportOptions
  deviceInfo : DeviceInfo
deriving DecidableEq

/-- `swbt_switch_device_info_swbt_pro`. -/
def DeviceInfo.swbtPro : DeviceInfo := ⟨#v[0x04, 0x00], 0x03, Vector.replicate 6 0, 0x01, 0x01⟩

namespace Config

/-- `swbt_daemon_config_default`. -/
def default : Config where
  reportPeriodUs := 8000
  ipcHost := #v[0x31, 0x32, 0x37, 0x2E, 0x30, 0x2E, 0x30, 0x2E, 0x31, 0, 0, 0, 0, 0, 0, 0]
  ipcPort := 0
  ipcBacklog := 1
  ipcHeartbeatTimeoutMs := 0
  explicitSwitchAddress := Vector.replicate 18 0
  learnedSwitchAddress := Vector.replicate 18 0
  reportOptions := ⟨0, 0x8E, 0x80⟩
  deviceInfo := DeviceInfo.swbtPro

/-- `swbt_daemon_config_set_ipc_host`. A host that is too long is cut. -/
def setIpcHost (config : Config) (host : List UInt8) : Bool × Config :=
  let host := CString.ofArray host
  if host = [] then (false, config)
  else
    -- the index at which the loop stops
    let index := min 15 host.length
    (index == host.length,
      { config with
        ipcHost := Vector.ofFn fun i =>
          if i.val < index then host.getD i.val 0
          else if i.val = index then 0 else config.ipcHost[i] })

/-- `swbt_daemon_config_set_active_reconnect_explicit_switch_address`. -/
def setExplicitSwitchAddress (config : Config) (address : List UInt8) : Bool × Config :=
  let (ok, text) := SwitchAddress.normalize config.explicitSwitchAddress address
  (ok, { config with explicitSwitchAddress := text })

/-- `swbt_daemon_config_set_active_reconnect_learned_switch_address`. -/
def setLearnedSwitchAddress (config : Config) (address : List UInt8) : Bool × Config :=
  let (ok, text) := SwitchAddress.normalize config.learnedSwitchAddress address
  (ok, { config with learnedSwitchAddress := text })

/-- A Switch address is set explicitly. -/
def HasExplicitAddress (config : Config) : Prop := config.explicitSwitchAddress[0] ≠ 0

/-- `swbt_daemon_config_effective_reconnect_switch_address`. -/
def effectiveReconnectSwitchAddress (config : Config) : Option SwitchAddress.Text :=
  if config.explicitSwitchAddress[0] ≠ 0 then some config.explicitSwitchAddress
  else if config.learnedSwitchAddress[0] ≠ 0 then some config.learnedSwitchAddress
  else none

/-- `swbt_daemon_config_apply_device_info_profile`. -/
def applyDeviceInfoProfile (config : Config) (profile : List UInt8) : Bool × Config :=
  let profile := CString.ofArray profile
  if profile = [] then (true, config)
  else if profile = CString.bytes "swbt-pro" ∨ profile = CString.bytes "default" then
    (true, { config with deviceInfo := DeviceInfo.swbtPro })
  else (false, config)

end Config

/-! ## The TOML library -/

/-- What the daemon uses of `toml::value`, over the type of these values. A table maps keys to
values, and `(*table)[key] = value` sets one of them. -/
structure TomlLibrary (V : Type*) where
  isTable : V → Bool
  /-- The keys of `as_table()`. -/
  keys : V → List (List UInt8)
  /-- `contains(key)` and `at(key)`. -/
  get : V → List UInt8 → Option V
  set : V → List UInt8 → V → V
  /-- `toml::value(toml::table{})`. -/
  emptyTable : V
  /-- `is_integer()` and `as_integer()`. -/
  integer : V → Option Int
  /-- `is_string()` and `as_string()`. -/
  string : V → Option (List UInt8)
  ofString : List UInt8 → V
  isTable_emptyTable : isTable emptyTable = true
  keys_emptyTable : keys emptyTable = []
  get_emptyTable : ∀ key, get emptyTable key = none
  isTable_set : ∀ table key value, isTable table = true → isTable (set table key value) = true
  keys_set : ∀ table key value, isTable table = true →
    ∀ key' ∈ keys (set table key value), key' = key ∨ key' ∈ keys table
  get_set : ∀ table key value key', isTable table = true →
    get (set table key value) key' = if key' = key then some value else get table key'
  string_ofString : ∀ text, string (ofString text) = some text

/-- A `toml::value` of one of the kinds that a configuration file holds. -/
inductive TomlTree where
  | table (entries : List (List UInt8 × TomlTree))
  | integer (value : Int)
  | string (text : List UInt8)

namespace TomlTree

/-- The entries of a table; other values have none. -/
def entries : TomlTree → List (List UInt8 × TomlTree)
  | .table entries => entries
  | _ => []

theorem lookup_filter {β : Type*} (entries : List (List UInt8 × β)) {key key' : List UInt8}
    (h : key' ≠ key) :
    (entries.filter fun entry => entry.1 != key).lookup key' = entries.lookup key' := by
  induction entries with
  | nil => rfl
  | cons entry entries ih =>
    obtain ⟨first, value⟩ := entry
    by_cases hfirst : first = key
    · subst hfirst
      rw [List.filter_cons_of_neg (by simp), ih, List.lookup_cons, beq_false_of_ne h]
    · rw [List.filter_cons_of_pos (by simpa using hfirst), List.lookup_cons, List.lookup_cons, ih]

/-- The library on these values. -/
def library : TomlLibrary TomlTree where
  isTable value := match value with
    | .table _ => true
    | _ => false
  keys value := value.entries.map (·.1)
  get value key := value.entries.lookup key
  set table key value := .table ((key, value) :: table.entries.filter fun entry => entry.1 != key)
  emptyTable := .table []
  integer value := match value with
    | .integer n => some n
    | _ => none
  string value := match value with
    | .string text => some text
    | _ => none
  ofString := .string
  isTable_emptyTable := rfl
  keys_emptyTable := rfl
  get_emptyTable _ := rfl
  isTable_set _ _ _ _ := rfl
  keys_set table key value _ key' h := by
    obtain rfl | hold := List.mem_cons.mp h
    · exact .inl rfl
    · obtain ⟨entry, hentry, rfl⟩ := List.mem_map.mp hold
      exact .inr (List.mem_map_of_mem (List.mem_of_mem_filter hentry))
  get_set table key value key' _ := by
    change List.lookup key' ((key, value) :: _) = _
    rw [List.lookup_cons]
    by_cases h : key' = key
    · rw [if_pos h, beq_iff_eq.mpr h]
    · rw [if_neg h, beq_false_of_ne h]
      exact lookup_filter table.entries h
  string_ofString _ := rfl

end TomlTree

/-! ## The configuration file -/

/-- `swbt_daemon_config_file_result_t`. -/
inductive ConfigFileResult where
  | ok
  | invalidArgument
  | io
  | parse
  | invalidValue
deriving DecidableEq, Repr

namespace ConfigFile

variable {V : Type*} (lib : TomlLibrary V)

/-- `swbt_toml_find_table`: `none` when the key holds something else. -/
def findTable (root : V) (key : List UInt8) : Option (Option V) :=
  match lib.get root key with
  | none => some none
  | some table => if !lib.isTable table then none else some (some table)

/-- `swbt_toml_table_contains_only_keys`. -/
def tableContainsOnlyKeys (table : Option V) (allowedKeys : List (List UInt8)) : Bool :=
  match table with
  | none => true
  | some table => (lib.keys table).all fun key => allowedKeys.contains key

/-- `swbt_toml_root_contains_only_known_sections`. -/
def rootContainsOnlyKnownSections (root : V) : Bool :=
  (lib.keys root).all fun key =>
    [CString.bytes "report", CString.bytes "ipc", CString.bytes "device",
      CString.bytes "active_reconnect"].contains key

/-- `swbt_toml_tables_contain_only_known_keys`. -/
def tablesContainOnlyKnownKeys (report ipc device activeReconnect learned : Option V) : Bool :=
  tableContainsOnlyKeys lib report [CString.bytes "period_us"] &&
    tableContainsOnlyKeys lib ipc [CString.bytes "host", CString.bytes "port",
      CString.bytes "backlog", CString.bytes "heartbeat_timeout_ms"] &&
    tableContainsOnlyKeys lib device [CString.bytes "profile"] &&
    tableContainsOnlyKeys lib activeReconnect
      [CString.bytes "switch_address", CString.bytes "learned"] &&
    tableContainsOnlyKeys lib learned [CString.bytes "switch_address"]

/-- The value at a key of a table that may be missing. -/
def valueAt (table : Option V) (key : List UInt8) : Option V := table.bind fun t => lib.get t key

/-- `swbt_toml_apply_u32`: `none` when the value is refused, else what `out_value` holds. -/
def applyU32 (table : Option V) (key : List UInt8) (out : UInt32) : Option UInt32 :=
  match valueAt lib table key with
  | none => some out
  | some value =>
    match lib.integer value with
    | none => none
    | some parsed => if parsed < 0 ∨ parsed > 2 ^ 32 - 1 then none else some parsed.toNat.toUInt32

/-- `swbt_toml_apply_u16`. -/
def applyU16 (table : Option V) (key : List UInt8) (out : UInt16) : Option UInt16 :=
  if (valueAt lib table key).isNone then some out
  else
    match applyU32 lib table key 0 with
    | none => none
    | some parsed => if parsed > 0xFFFF then none else some parsed.toUInt16

/-- `swbt_toml_apply_int`. -/
def applyInt (table : Option V) (key : List UInt8) (out : Int) : Option Int :=
  if (valueAt lib table key).isNone then some out
  else
    match applyU32 lib table key 0 with
    | none => none
    | some parsed => if parsed > 0x7FFFFFFF then none else some parsed.toNat

/-- A string at a key, handed to a setter of the configuration: the common shape of
`swbt_toml_apply_device_profile`, `..._ipc_host` and the two `..._switch_address`. -/
def applyString (table : Option V) (key : List UInt8) (setter : Config → List UInt8 → Bool × Config)
    (config : Config) : Option Config :=
  match valueAt lib table key with
  | none => some config
  | some value =>
    match lib.string value with
    | none => none
    | some text =>
      let (ok, config) := setter config text
      if ok then some config else none

/-- `swbt_toml_apply_device_profile`. -/
def applyDeviceProfile (table : Option V) (config : Config) : Option Config :=
  applyString lib table (CString.bytes "profile") Config.applyDeviceInfoProfile config

/-- `swbt_toml_apply_ipc_host`. -/
def applyIpcHost (table : Option V) (config : Config) : Option Config :=
  applyString lib table (CString.bytes "host") Config.setIpcHost config

/-- `swbt_toml_apply_active_reconnect_switch_address`. -/
def applyActiveReconnectSwitchAddress (table : Option V) (config : Config) : Option Config :=
  applyString lib table (CString.bytes "switch_address") Config.setExplicitSwitchAddress config

/-- `swbt_toml_apply_active_reconnect_learned_switch_address`. -/
def applyActiveReconnectLearnedSwitchAddress (table : Option V) (config : Config) :
    Option Config :=
  applyString lib table (CString.bytes "switch_address") Config.setLearnedSwitchAddress config

/-- The tables of a configuration file. -/
structure Tables (V : Type*) where
  report : Option V
  ipc : Option V
  device : Option V
  activeReconnect : Option V
  learned : Option V

/-- The table `learned` of the table `active_reconnect`, if there is one. -/
def findLearned (activeReconnect : Option V) : Option (Option V) :=
  match activeReconnect with
  | none => some none
  | some table => findTable lib table (CString.bytes "learned")

/-- The tables that `swbt_daemon_config_apply_toml` finds and checks, `none` when it refuses. -/
def findTables (parsed : V) : Option (Tables V) := do
  let report ← findTable lib parsed (CString.bytes "report")
  let ipc ← findTable lib parsed (CString.bytes "ipc")
  let device ← findTable lib parsed (CString.bytes "device")
  let activeReconnect ← findTable lib parsed (CString.bytes "active_reconnect")
  let learned ← findLearned lib activeReconnect
  if rootContainsOnlyKnownSections lib parsed &&
      tablesContainOnlyKnownKeys lib report ipc device activeReconnect learned
  then some ⟨report, ipc, device, activeReconnect, learned⟩ else none

/-- The values that `swbt_daemon_config_apply_toml` takes over, `none` when it refuses one. -/
def applyTables (tables : Tables V) (next : Config) : Option Config := do
  let period ← applyU32 lib tables.report (CString.bytes "period_us") next.reportPeriodUs
  let next := { next with reportPeriodUs := period }
  let port ← applyU16 lib tables.ipc (CString.bytes "port") next.ipcPort
  let next ← applyIpcHost lib tables.ipc { next with ipcPort := port }
  let backlog ← applyInt lib tables.ipc (CString.bytes "backlog") next.ipcBacklog
  let next := { next with ipcBacklog := backlog }
  let timeout ← applyU32 lib tables.ipc (CString.bytes "heartbeat_timeout_ms")
    next.ipcHeartbeatTimeoutMs
  let next ← applyDeviceProfile lib tables.device { next with ipcHeartbeatTimeoutMs := timeout }
  let next ← applyActiveReconnectSwitchAddress lib tables.activeReconnect next
  let next ← applyActiveReconnectLearnedSwitchAddress lib tables.learned next
  if next.reportPeriodUs = 0 ∨ next.ipcBacklog ≤ 0 then none else some next

/-- `swbt_daemon_config_apply_toml`. -/
def applyToml (config : Config) (parsed : V) : ConfigFileResult × Config :=
  match (findTables lib parsed).bind fun tables => applyTables lib tables config with
  | none => (.invalidValue, config)
  | some next => (.ok, next)

/-- The answer to `fopen` for reading. -/
inductive OpenAnswer where
  | opened
  | noEntry
  | failed
deriving DecidableEq, Repr

/-- What reading a file answers: `parsed` is `none` when `toml::parse` throws. -/
structure ReadAnswers (V : Type*) where
  opened : OpenAnswer
  closed : Bool
  parsed : Option V

/-- What writing a file answers: whether `toml::format` returns, and whether each call succeeds. -/
structure WriteAnswers where
  formatted : Bool
  opened : Bool
  written : Bool
  closed : Bool
deriving DecidableEq, Repr

/-- `swbt_toml_load_or_empty`. -/
def loadOrEmpty (path : List UInt8) (answers : ReadAnswers V) : Except ConfigFileResult V :=
  if path = [] then .error .invalidArgument
  else
    match answers.opened with
    | .noEntry => .ok lib.emptyTable
    | .failed => .error .io
    | .opened =>
      if !answers.closed then .error .io
      else
        match answers.parsed with
        | none => .error .parse
        | some value => .ok value

/-- `swbt_toml_ensure_child_table`: the parent with the child in it, and the child. -/
def ensureChildTable (parent : V) (key : List UInt8) : Option (V × V) :=
  if !lib.isTable parent then none
  else
    match lib.get parent key with
    | none => some (lib.set parent key lib.emptyTable, lib.emptyTable)
    | some child => if lib.isTable child then some (parent, child) else none

/-- `swbt_toml_write_file`. -/
def writeFile (answers : WriteAnswers) : ConfigFileResult :=
  if !answers.formatted then .invalidValue
  else if !answers.opened then .io
  else if answers.written && answers.closed then .ok else .io

/-- The file that `swbt_daemon_config_save_active_reconnect_learned_switch_address` writes: the
parsed one with the learned address set. -/
def withLearnedSwitchAddress (parsed : V) (text : List UInt8) : Option V := do
  let (root, activeReconnect) ← ensureChildTable lib parsed (CString.bytes "active_reconnect")
  let (activeReconnect, learned) ← ensureChildTable lib activeReconnect (CString.bytes "learned")
  let learned := lib.set learned (CString.bytes "switch_address") (lib.ofString text)
  let activeReconnect := lib.set activeReconnect (CString.bytes "learned") learned
  some (lib.set root (CString.bytes "active_reconnect") activeReconnect)

/-- What a save leaves: its result, the configuration, and the value that the file was written
from. -/
structure Saved (V : Type*) where
  result : ConfigFileResult
  config : Config
  written : Option V

/-- `swbt_daemon_config_save_active_reconnect_learned_switch_address`. -/
def saveLearnedSwitchAddress (config : Config) (path address : List UInt8)
    (read : ReadAnswers V) (write : WriteAnswers) : Saved V :=
  if path = [] then ⟨.invalidArgument, config, none⟩
  else
    let (ok, next) := config.setLearnedSwitchAddress address
    if !ok then ⟨.invalidValue, config, none⟩
    else
      match loadOrEmpty lib path read with
      | .error result => ⟨result, config, none⟩
      | .ok parsed =>
        match (applyToml lib config parsed).1 with
        | .ok =>
          match withLearnedSwitchAddress lib parsed
              (CString.ofArray next.learnedSwitchAddress.toList) with
          | none => ⟨.invalidValue, config, none⟩
          | some value =>
            match writeFile write with
            | .ok => ⟨.ok, next, some value⟩
            | result => ⟨result, config, none⟩
        | result => ⟨result, config, none⟩

/-- `swbt_daemon_config_apply_file` of a source with a path. -/
def applyFile (config : Config) (path : List UInt8) (required : Bool)
    (answers : ReadAnswers V) : ConfigFileResult × Config :=
  if path = [] then (if required then .invalidArgument else .ok, config)
  else
    match answers.opened with
    | .noEntry => (if required then .io else .ok, config)
    | .failed => (.io, config)
    | .opened =>
      match answers.parsed with
      | none => (.parse, config)
      | some parsed => applyToml lib config parsed

end ConfigFile

end Swbt
