import SwbtDaemon.Daemon.Config

/-!
# The configuration file on disk

`swbt_daemon_config_save_active_reconnect_learned_switch_address` and
`swbt_daemon_config_apply_file` of `daemon/config_file.cpp` on the bytes of the file. A file is its
bytes, `none` when it is absent; what each call of the file system does is an input.
-/

namespace Swbt

/-- The text form of TOML values: `toml::parse` and `toml::format` of the library, `none` where they
throw. What is formatted is parsed as the same value. -/
structure TomlText (V : Type*) where
  parse : List UInt8 → Option V
  format : V → Option (List UInt8)
  parse_format : ∀ value text, format value = some text → parse text = some value

namespace ConfigFile

variable {V : Type*} (lib : TomlLibrary V) (toml : TomlText V)

/-- What the calls of a save do. -/
structure SaveAnswers where
  /-- `fopen` for reading opens a file that exists; of an absent one it says so. -/
  opened : Bool
  /-- `fclose` after it succeeds. -/
  closed : Bool
  /-- `toml::parse` can read the file. -/
  readable : Bool
  /-- `fopen` for writing succeeds, and has emptied the file. -/
  writeOpened : Bool
  /-- How many bytes `fwrite` takes of a text at most. -/
  accepted : Nat
  /-- `fclose` after it succeeds. -/
  writeClosed : Bool
  /-- How many bytes are in the file when the write or its close has failed. -/
  kept : Nat
deriving DecidableEq, Repr

/-- Every call does all that it is asked to. -/
structure SaveAnswers.Succeed (answers : SaveAnswers) (output : List UInt8) : Prop where
  opened : answers.opened = true
  closed : answers.closed = true
  readable : answers.readable = true
  writeOpened : answers.writeOpened = true
  accepted : output.length ≤ answers.accepted
  writeClosed : answers.writeClosed = true

/-- What reading a file answers. -/
def SaveAnswers.read (answers : SaveAnswers) (file : Option (List UInt8)) : ReadAnswers V where
  opened := if !answers.opened then .failed else if file.isNone then .noEntry else .opened
  closed := answers.closed
  parsed := if answers.readable then file.bind toml.parse else none

/-- `swbt_toml_write_file`: the result and the file. -/
def writeText (answers : SaveAnswers) (file : Option (List UInt8)) (value : V) :
    ConfigFileResult × Option (List UInt8) :=
  match toml.format value with
  | none => (.invalidValue, file)
  | some output =>
    if !answers.writeOpened then (.io, file)
    else if output.length ≤ answers.accepted ∧ answers.writeClosed = true then (.ok, some output)
    else (.io, some (output.take (min answers.accepted answers.kept)))

/-- What a save leaves: its result, the configuration and the file. -/
structure SavedFile where
  result : ConfigFileResult
  config : Config
  file : Option (List UInt8)
deriving DecidableEq

/-- The save from its check of the value that it has read on. -/
def saveParsed (config next : Config) (parsed : V) (file : Option (List UInt8))
    (answers : SaveAnswers) : SavedFile :=
  let (result, _) := applyToml lib config parsed
  if result ≠ .ok then ⟨result, config, file⟩
  else
    match withLearnedSwitchAddress lib parsed (CString.ofArray next.learnedSwitchAddress.toList) with
    | none => ⟨.invalidValue, config, file⟩
    | some value =>
      let (result, file) := writeText toml answers file value
      if result ≠ .ok then ⟨result, config, file⟩ else ⟨.ok, next, file⟩

/-- `swbt_daemon_config_save_active_reconnect_learned_switch_address` of a target with a path. -/
def saveFile (config : Config) (path address : List UInt8) (file : Option (List UInt8))
    (answers : SaveAnswers) : SavedFile :=
  if path = [] then ⟨.invalidArgument, config, file⟩
  else
    let (ok, next) := config.setLearnedSwitchAddress address
    if !ok then ⟨.invalidValue, config, file⟩
    else
      match loadOrEmpty lib path (answers.read toml file) with
      | .error result => ⟨result, config, file⟩
      | .ok parsed => saveParsed lib toml config next parsed file answers

/-- `swbt_daemon_config_apply_file` of a file that can be read. -/
def loadFile (config : Config) (path : List UInt8) (required : Bool) (file : Option (List UInt8)) :
    ConfigFileResult × Config :=
  applyFile lib config path required
    ⟨if file.isNone then .noEntry else .opened, true, file.bind toml.parse⟩

end ConfigFile

end Swbt
