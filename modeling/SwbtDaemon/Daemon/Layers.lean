import SwbtDaemon.Daemon.Launch

/-!
# The layers of the configuration

What the configuration of a launch is for: every setting has a default, a configuration file may
replace it, and a variable of the environment may replace that. A source of settings is a layer, and
the layers lie over each other.
-/

namespace Swbt

/-! ## Layers -/

/-- What one source gives: a setting that it leaves alone is `none`. -/
structure ConfigLayer where
  reportPeriodUs : Option UInt32
  ipcHost : Option (List UInt8)
  ipcPort : Option UInt16
  ipcBacklog : Option Nat
  ipcHeartbeatTimeoutMs : Option UInt32
  deviceInfo : Option DeviceInfo
  explicitSwitchAddress : Option SwitchAddress.Bytes
  learnedSwitchAddress : Option SwitchAddress.Bytes
deriving DecidableEq

/-- The settings that a daemon runs with. -/
structure ConfigView where
  reportPeriodUs : UInt32
  ipcHost : List UInt8
  ipcPort : UInt16
  ipcBacklog : Int
  ipcHeartbeatTimeoutMs : UInt32
  deviceInfo : DeviceInfo
  explicitSwitchAddress : Option SwitchAddress.Bytes
  learnedSwitchAddress : Option SwitchAddress.Bytes
deriving DecidableEq

/-- The layer over the settings. -/
def ConfigLayer.onto (layer : ConfigLayer) (view : ConfigView) : ConfigView where
  reportPeriodUs := layer.reportPeriodUs.getD view.reportPeriodUs
  ipcHost := layer.ipcHost.getD view.ipcHost
  ipcPort := layer.ipcPort.getD view.ipcPort
  ipcBacklog := (layer.ipcBacklog.map Int.ofNat).getD view.ipcBacklog
  ipcHeartbeatTimeoutMs := layer.ipcHeartbeatTimeoutMs.getD view.ipcHeartbeatTimeoutMs
  deviceInfo := layer.deviceInfo.getD view.deviceInfo
  explicitSwitchAddress := layer.explicitSwitchAddress.or view.explicitSwitchAddress
  learnedSwitchAddress := layer.learnedSwitchAddress.or view.learnedSwitchAddress

/-- A daemon can run with the settings: they have a period and a backlog. -/
def ConfigView.checked (view : ConfigView) : Option ConfigView :=
  if view.reportPeriodUs = 0 ∨ view.ipcBacklog ≤ 0 then none else some view

/-! ## The settings of a configuration -/

/-- The address that a buffer spells. -/
def SwitchAddress.Text.address (text : SwitchAddress.Text) : Option SwitchAddress.Bytes :=
  let (ok, address) := SwitchAddress.parseBytes text.toList (Vector.replicate 6 0)
  if ok then some address else none

/-- The settings that the buffers of a configuration hold. -/
def Config.view (config : Config) : ConfigView where
  reportPeriodUs := config.reportPeriodUs
  ipcHost := CString.ofArray config.ipcHost.toList
  ipcPort := config.ipcPort
  ipcBacklog := config.ipcBacklog
  ipcHeartbeatTimeoutMs := config.ipcHeartbeatTimeoutMs
  deviceInfo := config.deviceInfo
  explicitSwitchAddress := config.explicitSwitchAddress.address
  learnedSwitchAddress := config.learnedSwitchAddress.address

/-! ## What a source gives

Every reader is `none` where the source is refused, and `some none` where it says nothing. -/

namespace ConfigLayer

open CString

/-- A host that fits its buffer. -/
def readHost (raw : List UInt8) : Option (List UInt8) :=
  let host := ofArray raw
  if host = [] ∨ 15 < host.length then none else some host

/-- The device of a profile; an empty name leaves the device alone. -/
def readProfile (raw : List UInt8) : Option (Option DeviceInfo) :=
  let profile := ofArray raw
  if profile = [] then some none
  else if profile = bytes "swbt-pro" ∨ profile = bytes "default" then some (some DeviceInfo.swbtPro)
  else none

/-- The address that a text spells. -/
def readAddress (raw : List UInt8) : Option SwitchAddress.Bytes :=
  let (ok, address) := SwitchAddress.parseBytes raw (Vector.replicate 6 0)
  if ok then some address else none

section file

variable {V : Type*} (lib : TomlLibrary V)

open ConfigFile

/-- A number of the file, at most `maximum`. -/
def fileNumber (table : Option V) (key : List UInt8) (maximum : Nat) : Option (Option Nat) :=
  match valueAt lib table key with
  | none => some none
  | some value =>
    (lib.integer value).bind fun n =>
      if 0 ≤ n ∧ n ≤ maximum then some (some n.toNat) else none

/-- A text of the file. -/
def fileText {α : Type*} (table : Option V) (key : List UInt8) (read : List UInt8 → Option α) :
    Option (Option α) :=
  match valueAt lib table key with
  | none => some none
  | some value => ((lib.string value).bind read).map some

/-- What the tables of a file give. -/
def ofTables (tables : Tables V) : Option ConfigLayer := do
  let period ← fileNumber lib tables.report (bytes "period_us") (2 ^ 32 - 1)
  let port ← fileNumber lib tables.ipc (bytes "port") (2 ^ 16 - 1)
  let host ← fileText lib tables.ipc (bytes "host") readHost
  let backlog ← fileNumber lib tables.ipc (bytes "backlog") (2 ^ 31 - 1)
  let timeout ← fileNumber lib tables.ipc (bytes "heartbeat_timeout_ms") (2 ^ 32 - 1)
  let device ← fileText lib tables.device (bytes "profile") readProfile
  let explicit ← fileText lib tables.activeReconnect (bytes "switch_address") readAddress
  let learned ← fileText lib tables.learned (bytes "switch_address") readAddress
  some
    { reportPeriodUs := period.map Nat.toUInt32
      ipcHost := host
      ipcPort := port.map Nat.toUInt16
      ipcBacklog := backlog
      ipcHeartbeatTimeoutMs := timeout.map Nat.toUInt32
      deviceInfo := device.join
      explicitSwitchAddress := explicit
      learnedSwitchAddress := learned }

/-- What a file gives. -/
def ofFile (root : V) : Option ConfigLayer := (findTables lib root).bind (ofTables lib)

end file

/-- A number of the environment. -/
def variableNumber {α : Type} (parse : List UInt8 → Option α) (value : Option (List UInt8)) :
    Option (Option α) :=
  match value with
  | none => some none
  | some value => (parse value).map some

/-- The host of the environment; an empty one says nothing. -/
def variableHost (value : Option (List UInt8)) : Option (Option (List UInt8)) :=
  match value with
  | none => some none
  | some raw => if raw = [] then some none else (readHost raw).map some

/-- What the environment gives. -/
def ofEnv [Platform] (env : ConfigEnv) : Option ConfigLayer := do
  let period ← variableNumber Config.parseU32 env.reportPeriodUs
  let host ← variableHost env.ipcHost
  let port ← variableNumber Config.parseU16 env.ipcPort
  let backlog ← variableNumber Config.parseInt env.ipcBacklog
  let timeout ← variableNumber Config.parseU32 env.ipcHeartbeatTimeoutMs
  let device ← readProfile (env.deviceInfoProfile.getD [])
  some
    { reportPeriodUs := period
      ipcHost := host
      ipcPort := port
      ipcBacklog := backlog.map Int.toNat
      ipcHeartbeatTimeoutMs := timeout
      deviceInfo := device
      explicitSwitchAddress := none
      learnedSwitchAddress := none }

end ConfigLayer

/-! ## The settings of a launch -/

/-- The document that a required file holds. -/
def ConfigFile.ReadAnswers.document {V : Type*} (answers : ConfigFile.ReadAnswers V)
    (path : List UInt8) : Option V :=
  if path = [] then none
  else
    match answers.opened with
    | .opened => answers.parsed
    | _ => none

namespace LaunchOptions

variable {V : Type*} (lib : TomlLibrary V)

/-- The file over the default. A daemon could run with that alone. -/
def fileView (options : LaunchOptions) (answers : ConfigFile.ReadAnswers V) : Option ConfigView :=
  match options.configPath with
  | none => some Config.default.view
  | some path =>
    (answers.document path).bind fun root =>
      (ConfigLayer.ofFile lib root).bind fun layer => (layer.onto Config.default.view).checked

/-- The settings that a launch is to have: the environment over the file over the default. -/
def effective [Platform] (options : LaunchOptions) (env : ConfigEnv)
    (answers : ConfigFile.ReadAnswers V) : Option ConfigView :=
  (options.fileView lib answers).bind fun view =>
    (ConfigLayer.ofEnv env).bind fun layer => (layer.onto view).checked

end LaunchOptions

end Swbt
