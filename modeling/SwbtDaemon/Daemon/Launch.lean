import SwbtDaemon.Bridge.AdapterInventory
import SwbtDaemon.Daemon.Environment
import SwbtDaemon.Daemon.LaunchOptions

/-!
# The launch of the daemon

`swbt_daemon_launch_config_prepare` of `daemon/launch_options.c`, the commands of `daemon/cli.c`, and
the `main` function of the program up to the point where a backend runs. What reading the
configuration file answers and what libusb answers are inputs.
-/

namespace Swbt

open CString

/-! ## The launch configuration -/

/-- `swbt_daemon_launch_config_t`: what is configured is there. -/
structure LaunchConfig where
  config : Config
  linkKeyDbPath : Option (List UInt8)
  hciDumpPath : Option (List UInt8)
  adapterLocation : Option (List UInt8)
  learnedSwitchAddressTarget : Option (List UInt8)
deriving DecidableEq

namespace LaunchConfig

variable {V : Type*} (lib : TomlLibrary V)

/-- The part of `swbt_daemon_launch_config_prepare` that reads the configuration file, required when
there is a path: `none` when it fails. -/
def readConfig (configPath : Option (List UInt8)) (answers : ConfigFile.ReadAnswers V) :
    Option Config :=
  match configPath with
  | none => some Config.default
  | some path =>
    let (result, config) := ConfigFile.applyFile lib Config.default path true answers
    if result ≠ .ok then none else some config

/-- `swbt_daemon_launch_config_prepare`: `none` when it fails. -/
def prepare [Platform] (options : LaunchOptions) (env : ConfigEnv)
    (answers : ConfigFile.ReadAnswers V) : Option LaunchConfig :=
  match readConfig lib options.configPath answers with
  | none => none
  | some config =>
    let (ok, config) := config.applyEnv env
    if !ok then none
    else
      some
        { config := config
          linkKeyDbPath := options.linkKeyDbPath
          hciDumpPath := options.hciDumpPath
          adapterLocation := options.adapterLocation
          learnedSwitchAddressTarget := options.configPath }

end LaunchConfig

/-! ## The commands -/

namespace Cli

/-- What a command leaves. -/
structure Outcome where
  exitCode : Nat
  out : List UInt8
  err : List UInt8
deriving DecidableEq, Repr

/-- `swbt_daemon_cli_ports_t`: the answer of `list_adapters` and the environment. -/
structure Ports where
  listAdapters : Option UsbAdapterLocation.Listed
  configEnv : Option ConfigEnv

/-- A line of the help. -/
def line (text : String) : List UInt8 := bytes text ++ [0x0A]

/-- `swbt_daemon_cli_write_help`. -/
def writeHelp : List UInt8 :=
  line "Usage:" ++
  line "  swbt-daemon [options]" ++
  line "  swbt-daemon <command> [options]" ++
  line "" ++
  line "Commands:" ++
  line "  help      Show command and option help." ++
  line "  adapters  List adapter-location selector candidates." ++
  line "  config    Show effective launch and runtime config." ++
  line "" ++
  line "Startup options:" ++
  line "  --backend production|noop" ++
  line "  --config <path>" ++
  line "  --link-key-db <path>" ++
  line "  --trace-path <path>" ++
  line "  --hci-dump-path <path>" ++
  line "  --crash-dump-path <path>" ++
  line "  --adapter-location <selector>"

/-- `swbt_daemon_cli_is_help_command` of an argument that is not `NULL`. -/
def isHelpCommand (argument : List UInt8) : Bool :=
  argument == bytes "help" || argument == bytes "--help" || argument == bytes "-h"

/-- `swbt_daemon_cli_write_error`. -/
def writeError (message : String) : List UInt8 := line message

/-- `swbt_daemon_cli_value_or_none`. -/
def valueOrNone (value : Option (List UInt8)) : List UInt8 :=
  match value with
  | none => bytes "<none>"
  | some value => if value = [] then bytes "<none>" else value

/-- `swbt_daemon_cli_backend_string`. -/
def backendString : LaunchOptions.Backend → List UInt8
  | .production => bytes "production"
  | .noop => bytes "noop"

/-- `swbt_daemon_cli_write_key_value`. -/
def writeKeyValue (key : String) (value : Option (List UInt8)) : List UInt8 :=
  bytes key ++ 0x3D :: valueOrNone value ++ [0x0A]

/-- What `snprintf` leaves in a buffer of 16 bytes. -/
def buffered (text : List UInt8) : List UInt8 := text.take 15

/-- `swbt_daemon_cli_write_key_u32` and `swbt_daemon_cli_write_key_uint`. -/
def writeKeyUnsigned (key : String) (value : Nat) : List UInt8 :=
  writeKeyValue key (some (buffered (printUnsigned value)))

/-- `swbt_daemon_cli_write_key_int`. -/
def writeKeyInt (key : String) (value : Int) : List UInt8 :=
  writeKeyValue key (some (buffered (printSigned value)))

/-- `swbt_daemon_cli_write_config`. -/
def writeConfig (options : LaunchOptions) (launch : LaunchConfig) : List UInt8 :=
  writeKeyValue "backend" (some (backendString options.backend)) ++
  writeKeyValue "config.path" options.configPath ++
  writeKeyValue "link_key_db.path" launch.linkKeyDbPath ++
  writeKeyValue "trace.path" options.tracePath ++
  writeKeyValue "hci_dump.path" launch.hciDumpPath ++
  writeKeyValue "crash_dump.path" options.crashDumpPath ++
  writeKeyValue "adapter_location" launch.adapterLocation ++
  writeKeyUnsigned "runtime.report_period_us" launch.config.reportPeriodUs.toNat ++
  writeKeyValue "runtime.ipc.host" (some (ofArray launch.config.ipcHost.toList)) ++
  writeKeyUnsigned "runtime.ipc.port" launch.config.ipcPort.toNat ++
  writeKeyInt "runtime.ipc.backlog" launch.config.ipcBacklog ++
  writeKeyUnsigned "runtime.ipc.heartbeat_timeout_ms"
    launch.config.ipcHeartbeatTimeoutMs.toNat ++
  writeKeyValue "active_reconnect.explicit_switch_address"
    (some (ofArray launch.config.explicitSwitchAddress.toList)) ++
  writeKeyValue "active_reconnect.learned_switch_address"
    (some (ofArray launch.config.learnedSwitchAddress.toList)) ++
  writeKeyValue "active_reconnect.effective_switch_address"
    (launch.config.effectiveReconnectSwitchAddress.map fun text => ofArray text.toList)

/-- `swbt_daemon_cli_run_adapters`. -/
def runAdapters (argv : List (Option (List UInt8))) (ports : Option Ports) : Outcome :=
  if argv.length ≠ 2 then ⟨1, [], writeError "adapters does not accept arguments"⟩
  else
    match ports.bind (·.listAdapters) with
    | none => ⟨1, [], writeError "adapter inventory is not available"⟩
    | some listed => ⟨if listed.ok then 0 else 1, listed.out, listed.err⟩

variable {V : Type*} (lib : TomlLibrary V)

/-- `swbt_daemon_cli_run_config`. The options behind the command are parsed as those of a program
whose name is the command. -/
def runConfig [Platform] (argv : List (Option (List UInt8))) (ports : Option Ports)
    (answers : ConfigFile.ReadAnswers V) : Outcome :=
  let env := (ports.bind (·.configEnv)).getD ConfigEnv.empty
  let (result, options) := LaunchOptions.parse argv.tail
  if result ≠ .ok then ⟨1, [], writeError "config options are invalid"⟩
  else
    match LaunchConfig.prepare lib options env answers with
    | none => ⟨1, [], writeError "config is invalid"⟩
    | some launch => ⟨0, writeConfig options launch, []⟩

/-- `swbt_daemon_cli_dispatch_with_ports`: `none` when no command is handled. -/
def dispatchWithPorts [Platform] (argv : List (Option (List UInt8))) (ports : Option Ports)
    (answers : ConfigFile.ReadAnswers V) : Option Outcome :=
  match argv with
  | _ :: some command :: _ =>
    if isHelpCommand command then some ⟨0, writeHelp, []⟩
    else if command == bytes "adapters" then some (runAdapters argv ports)
    else if command == bytes "config" then some (runConfig lib argv ports answers)
    else none
  | _ => none

end Cli

/-! ## The main function -/

namespace Launch

/-- What the program finds when it is started. -/
structure World (V : Type*) where
  env : ConfigEnv
  /-- What reading the file of `--config` answers. -/
  file : ConfigFile.ReadAnswers V
  libusb : UsbAdapterLocation.LibusbAnswers
  /-- What `swbt_btstack_production_list_winusb_adapter_locations` leaves. -/
  winusb : UsbAdapterLocation.Listed
  /-- Whether `hci_transport_usb_set_location_path` takes a path. -/
  acceptsLocationPath : List UInt8 → Bool

/-- How the main function goes on. -/
inductive Outcome where
  /-- It returns. -/
  | exits (outcome : Cli.Outcome)
  /-- `swbt_daemon_production_run`, with what the transport has been told. -/
  | production (launch : LaunchConfig) (chosen : Option UsbAdapterLocation.Chosen)
  /-- `swbt_daemon_main_with_process_backend` on the backend that does nothing. -/
  | noop (config : Config)
deriving DecidableEq

open UsbAdapterLocation (Build)

variable {V : Type*}

/-- `swbt_btstack_production_list_adapter_locations`. -/
def listAdapterLocations (build : Build) (world : World V) : UsbAdapterLocation.Listed :=
  match build with
  | .libusb => UsbAdapterLocation.listLibusbAdapterLocations world.libusb
  | .winusb => world.winusb
  | .other => ⟨false, [], Cli.line "adapter inventory is not supported by this build"⟩

/-- `swbt_btstack_production_link_key_db_configure` and `swbt_btstack_production_hci_dump_configure`
return 0. -/
def pathIsConfigured (path : Option (List UInt8)) : Bool := path != some []

/-- `swbt_daemon_production_entrypoint_run` up to `swbt_daemon_production_run`. -/
def productionEntrypoint (build : Build) (accepts : List UInt8 → Bool) (launch : LaunchConfig) :
    Outcome :=
  if !pathIsConfigured launch.linkKeyDbPath then .exits ⟨1, [], []⟩
  else if !pathIsConfigured launch.hciDumpPath then .exits ⟨1, [], []⟩
  else
    match launch.adapterLocation with
    | none => .production launch none
    | some location =>
      match UsbAdapterLocation.configureAdapterLocation build accepts location with
      | none => .exits ⟨1, [], []⟩
      | some chosen => .production launch (some chosen)

/-- `main`. What the traces print is left out. -/
def main [Platform] (lib : TomlLibrary V) (build : Build) (world : World V)
    (argv : List (Option (List UInt8))) : Outcome :=
  let ports : Cli.Ports := ⟨some (listAdapterLocations build world), some world.env⟩
  match Cli.dispatchWithPorts lib argv (some ports) world.file with
  | some outcome => .exits outcome
  | none =>
    let (result, options) := LaunchOptions.parse argv
    if result ≠ .ok then .exits ⟨1, [], []⟩
    else
      match LaunchConfig.prepare lib options world.env world.file with
      | none => .exits ⟨1, [], []⟩
      | some launch =>
        match options.backend with
        | .production => productionEntrypoint build world.acceptsLocationPath launch
        | .noop => .noop launch.config

end Launch

end Swbt
