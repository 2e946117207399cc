import SwbtDaemon.Daemon.Config
import SwbtDaemon.Support.Platform

/-!
# The environment of the daemon

The variables that override the configuration: the numbers and `swbt_daemon_config_apply_env` of
`daemon/config.c`. A variable that is not set is `none`.
-/

namespace Swbt

/-- `swbt_daemon_config_env_t`. -/
structure ConfigEnv where
  reportPeriodUs : Option (List UInt8)
  ipcHost : Option (List UInt8)
  ipcPort : Option (List UInt8)
  ipcBacklog : Option (List UInt8)
  ipcHeartbeatTimeoutMs : Option (List UInt8)
  deviceInfoProfile : Option (List UInt8)
deriving DecidableEq, Repr

/-- An environment without any of the variables. -/
def ConfigEnv.empty : ConfigEnv := ⟨none, none, none, none, none, none⟩

namespace Config

/-- `swbt_daemon_parse_u32`. -/
def parseU32 [Platform] (value : List UInt8) : Option UInt32 :=
  if value = [] then none
  else
    match CString.strtoul10 Platform.ulong.bits value with
    | none => none
    | some parsed =>
      if parsed.outOfRange ∨ parsed.rest ≠ [] ∨ parsed.value > 0xFFFFFFFF then none
      else some parsed.value.toUInt32

/-- `swbt_daemon_parse_u16`. -/
def parseU16 [Platform] (value : List UInt8) : Option UInt16 :=
  match parseU32 value with
  | none => none
  | some parsed => if parsed > 0xFFFF then none else some parsed.toUInt16

/-- `swbt_daemon_parse_int`. -/
def parseInt [Platform] (value : List UInt8) : Option Int :=
  match parseU32 value with
  | none => none
  | some parsed => if parsed > 0x7FFFFFFF then none else some parsed.toNat

/-- A variable that overrides a number, where it is set. -/
def override {α : Type} (parse : List UInt8 → Option α) (value : Option (List UInt8)) (out : α) :
    Option α :=
  match value with
  | none => some out
  | some value => parse value

/-- The host of the environment; an empty one is no override. -/
def overrideHost (host : Option (List UInt8)) (next : Config) : Option Config :=
  match host with
  | none => some next
  | some host =>
    if host = [] then some next
    else
      let (ok, next) := next.setIpcHost host
      if ok then some next else none

/-- The values that `swbt_daemon_config_apply_env` takes over, `none` when it refuses one. -/
def applyEnvValues [Platform] (env : ConfigEnv) (next : Config) : Option Config := do
  let period ← override parseU32 env.reportPeriodUs next.reportPeriodUs
  let next ← overrideHost env.ipcHost { next with reportPeriodUs := period }
  let port ← override parseU16 env.ipcPort next.ipcPort
  let next := { next with ipcPort := port }
  let backlog ← override parseInt env.ipcBacklog next.ipcBacklog
  let next := { next with ipcBacklog := backlog }
  let timeout ← override parseU32 env.ipcHeartbeatTimeoutMs next.ipcHeartbeatTimeoutMs
  let next := { next with ipcHeartbeatTimeoutMs := timeout }
  let (ok, next) := next.applyDeviceInfoProfile (env.deviceInfoProfile.getD [])
  if !ok then none
  else if next.reportPeriodUs = 0 ∨ next.ipcBacklog ≤ 0 then none else some next

/-- `swbt_daemon_config_apply_env`. -/
def applyEnv [Platform] (config : Config) (env : ConfigEnv) : Bool × Config :=
  match applyEnvValues env config with
  | none => (false, config)
  | some next => (true, next)

end Config

/-! ## The settings with a number -/

/-- The settings that a variable and a key of the file can both give a number. -/
inductive Setting where
  | reportPeriodUs
  | ipcPort
  | ipcBacklog
  | ipcHeartbeatTimeoutMs
deriving DecidableEq, Repr

namespace Setting

/-- The environment with the variable of the setting only. -/
def env (setting : Setting) (text : List UInt8) : ConfigEnv :=
  match setting with
  | .reportPeriodUs => { ConfigEnv.empty with reportPeriodUs := some text }
  | .ipcPort => { ConfigEnv.empty with ipcPort := some text }
  | .ipcBacklog => { ConfigEnv.empty with ipcBacklog := some text }
  | .ipcHeartbeatTimeoutMs => { ConfigEnv.empty with ipcHeartbeatTimeoutMs := some text }

/-- The table of the file that has the key of the setting. -/
def table : Setting → List UInt8
  | .reportPeriodUs => CString.bytes "report"
  | _ => CString.bytes "ipc"

/-- The key of the setting in its table. -/
def key : Setting → List UInt8
  | .reportPeriodUs => CString.bytes "period_us"
  | .ipcPort => CString.bytes "port"
  | .ipcBacklog => CString.bytes "backlog"
  | .ipcHeartbeatTimeoutMs => CString.bytes "heartbeat_timeout_ms"

/-- The largest number of the setting. -/
def maximum : Setting → Nat
  | .reportPeriodUs => 2 ^ 32 - 1
  | .ipcPort => 2 ^ 16 - 1
  | .ipcBacklog => 2 ^ 31 - 1
  | .ipcHeartbeatTimeoutMs => 2 ^ 32 - 1

/-- The configuration with the number. -/
def assign (setting : Setting) (config : Config) (n : Nat) : Config :=
  match setting with
  | .reportPeriodUs => { config with reportPeriodUs := n.toUInt32 }
  | .ipcPort => { config with ipcPort := n.toUInt16 }
  | .ipcBacklog => { config with ipcBacklog := n }
  | .ipcHeartbeatTimeoutMs => { config with ipcHeartbeatTimeoutMs := n.toUInt32 }

end Setting

end Swbt
