import SwbtDaemon.Daemon.ConfigFile
import SwbtDaemon.Daemon.Launch
import SwbtDaemon.Daemon.Reconnect
import SwbtDaemon.Lib.Runs

/-!
# An installed daemon

A daemon is started and stopped with the same options and the same environment again and again, and
writes what it learns to the configuration file that it reads at its next start. A run is over starts,
stops and the packets of the HID session.
-/

namespace Swbt

open ConfigFile (SaveAnswers SavedFile ReadAnswers)

/-- `swbt_daemon_btstack_hid_session_packet_handler` on the bytes of the file, as far as it saves an
address: `none` when nothing is saved. -/
def Reconnect.Learning.packetHandlerFile {V : Type*} (lib : TomlLibrary V) (toml : TomlText V)
    (session : Learning) (packetType : UInt8) (packet : List UInt8) (file : Option (List UInt8))
    (answers : SaveAnswers) : Option (SwitchAddress.Bytes × SavedFile) :=
  if !session.registered then none
  else
    match HidEvent.decode packetType packet with
    | (.ok, event) =>
      if event.type = .connectionOpened ∧ event.status = 0 ∧ session.reportTimerReady then
        session.target.bind fun path =>
          if path = [] then none
          else
            let addressText := SwitchAddress.formatBytes event.address (Vector.replicate 18 0)
            some (event.address,
              ConfigFile.saveFile lib toml session.config path addressText.toList file answers)
      else none
    | (.ignored, _) => none

/-- What every start of the daemon is given. -/
structure Installation where
  options : LaunchOptions
  env : ConfigEnv

namespace Installation

/-- The configuration file, and the launch of the daemon that runs. -/
structure State where
  file : Option (List UInt8)
  running : Option LaunchConfig

inductive Event where
  /-- The daemon is started; the file can be read or not. -/
  | start (readable : Bool)
  | stop
  /-- A packet arrives, with the calls that a save makes. -/
  | packet (packetType : UInt8) (packet : List UInt8) (registered reportTimerReady : Bool)
      (answers : SaveAnswers)

variable {V : Type*} (lib : TomlLibrary V) (toml : TomlText V) (installation : Installation)

/-- What reading the file answers. -/
def readFile (readable : Bool) (file : Option (List UInt8)) : ReadAnswers V where
  opened := if !readable then .failed else if file.isNone then .noEntry else .opened
  closed := true
  parsed := file.bind toml.parse

/-- The launch of a start. -/
def launch [Platform] (readable : Bool) (file : Option (List UInt8)) : Option LaunchConfig :=
  LaunchConfig.prepare lib installation.options installation.env (readFile toml readable file)

/-- What a packet saves. -/
def saved (s : State) : Event → Option (SwitchAddress.Bytes × SavedFile)
  | .packet packetType packet registered reportTimerReady answers =>
    s.running.bind fun launch =>
      Reconnect.Learning.packetHandlerFile lib toml
        ⟨launch.config, launch.learnedSwitchAddressTarget, registered, reportTimerReady⟩
        packetType packet s.file answers
  | _ => none

/-- The state after an event. A daemon that runs is not started again. -/
def step [Platform] (s : State) (event : Event) : State :=
  match event with
  | .start readable =>
    match s.running with
    | some _ => s
    | none => { s with running := installation.launch lib toml readable s.file }
  | .stop => { s with running := none }
  | .packet .. =>
    match saved lib toml s event with
    | none => s
    | some (_, saved) =>
      { file := saved.file
        running := s.running.map fun launch => { launch with config := saved.config } }

/-- The addresses that an event has saved. -/
def learned (s : State) (event : Event) : List SwitchAddress.Bytes :=
  match saved lib toml s event with
  | none => []
  | some (address, saved) => if saved.result = .ok then [address] else []

end Installation

end Swbt
